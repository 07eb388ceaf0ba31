import SnortOptimizer.FlowMeter.Generator

/-!
# Flows along a capture

`Grown s packets flow` says how a flow that goes on has come about: which packets it was given, in
which order, and that each of them had the effect it had. `Over` says the same of a flow the
listener was given. Both are tied to a run of the generator by `tracked_addPackets`: whatever the
capture, each flow has grown from packets of the capture in their order, is filed under the id of
its ends, and no two of them have the same ends (`Tracked`).

Facts about a single flow are then proved by induction on `Grown`.
-/

namespace SnortOptimizer.FlowMeter

open Extractor

/-! ## Effects -/

namespace BasicFlow

variable {s : Settings} {flow : BasicFlow} {packet : BasicPacketInfo}

theorem effect_eq_expire :
    flow.effect s packet = .expire ↔ s.flowTimeOut < packet.timeStamp - flow.flowStartTime := by
  grind [effect]

theorem effect_eq_join : flow.effect s packet = .join ↔
    packet.timeStamp - flow.flowStartTime ≤ s.flowTimeOut ∧
      (packet.flagFIN = true ∧ flow.src = packet.src ∧ flow.fFIN_cnt = 0 ∨
        packet.flagFIN = false ∧ packet.flagRST = false) := by
  grind [effect]

theorem effect_eq_finish : flow.effect s packet = .finish ↔
    packet.timeStamp - flow.flowStartTime ≤ s.flowTimeOut ∧
      (packet.flagFIN = true ∧ flow.src ≠ packet.src ∨
        packet.flagFIN = false ∧ packet.flagRST = true) := by
  grind [effect]

theorem effect_eq_drop : flow.effect s packet = .drop ↔
    packet.timeStamp - flow.flowStartTime ≤ s.flowTimeOut ∧ packet.flagFIN = true ∧
      flow.src = packet.src ∧ flow.fFIN_cnt ≠ 0 := by
  grind [effect]

/-! ## What stays of a flow -/

@[simp]
theorem countFIN_key : (flow.countFIN packet).key = flow.key := by
  grind [countFIN, setFwdFINFlags, setBwdFINFlags, key]

@[simp]
theorem countFIN_flowId : (flow.countFIN packet).flowId = flow.flowId := by
  grind [countFIN, setFwdFINFlags, setBwdFINFlags]

@[simp]
theorem countFIN_flowStartTime : (flow.countFIN packet).flowStartTime = flow.flowStartTime := by
  grind [countFIN, setFwdFINFlags, setBwdFINFlags]

theorem countFIN_bFIN_cnt (h : flow.effect s packet ≠ .expire)
    (h' : flow.effect s packet ≠ .finish) :
    (flow.countFIN packet).bFIN_cnt = flow.bFIN_cnt := by
  grind [effect, countFIN, setFwdFINFlags]

@[simp]
theorem countFIN_isBidirectional :
    (flow.countFIN packet).isBidirectional = flow.isBidirectional := by
  grind [countFIN, setFwdFINFlags, setBwdFINFlags]

@[simp]
theorem countFIN_forward : (flow.countFIN packet).forward = flow.forward := by
  grind [countFIN, setFwdFINFlags, setBwdFINFlags]

@[simp]
theorem countFIN_backward : (flow.countFIN packet).backward = flow.backward := by
  grind [countFIN, setFwdFINFlags, setBwdFINFlags]

@[simp]
theorem countFIN_packets : (flow.countFIN packet).packets = flow.packets := by
  rw [packets, countFIN_forward, countFIN_backward, packets]

theorem countFIN_src : (flow.countFIN packet).src = flow.src :=
  congrArg FlowKey.srcIP countFIN_key

/-- What the generator goes by is that of the flow with its counters set. -/
theorem joined_same : Same (flow.countFIN packet) (flow.joined s packet) :=
  (updateActiveIdleTime_same _ _ _).trans (addPacket_same _ _)

theorem finished_same : Same (flow.countFIN packet) (flow.finished packet) := addPacket_same _ _

theorem joined_key : (flow.joined s packet).key = flow.key := by
  rw [joined_same.key, countFIN_key]

theorem finished_key : (flow.finished packet).key = flow.key := by
  rw [finished_same.key, countFIN_key]

theorem finished_packets (flow : BasicFlow) (packet : BasicPacketInfo) :
    (flow.finished packet).packets.Perm (flow.packets ++ [packet]) := by
  have h := addPacket_packets (flow.countFIN packet) packet
  rwa [countFIN_packets] at h

theorem joined_packets (s : Settings) (flow : BasicFlow) (packet : BasicPacketInfo) :
    (flow.joined s packet).packets.Perm (flow.packets ++ [packet]) := by
  have h := addPacket_packets
    ((flow.countFIN packet).updateActiveIdleTime packet.timeStamp s.flowActivityTimeOut) packet
  rwa [show ((flow.countFIN packet).updateActiveIdleTime packet.timeStamp
    s.flowActivityTimeOut).packets = flow.packets from countFIN_packets] at h

theorem finished_backward : (flow.finished packet).backward =
    if flow.isBidirectional = true ∧ flow.src ≠ packet.src then
      { flow.backward.add packet with init_Win_bytes := packet.tcpWindow }
    else flow.backward := by
  simp only [finished, addPacket_backward, countFIN_isBidirectional, countFIN_src,
    countFIN_backward]

theorem joined_backward : (flow.joined s packet).backward =
    if flow.isBidirectional = true ∧ flow.src ≠ packet.src then
      { flow.backward.add packet with init_Win_bytes := packet.tcpWindow }
    else flow.backward := by
  simp only [joined, addPacket_backward, updateActiveIdleTime, countFIN_isBidirectional,
    countFIN_src, countFIN_backward]

theorem countFIN_flowLastSeen : (flow.countFIN packet).flowLastSeen = flow.flowLastSeen := by
  grind [countFIN, setFwdFINFlags, setBwdFINFlags]

theorem joined_flowStartTime : (flow.joined s packet).flowStartTime = flow.flowStartTime := by
  rw [joined_same.flowStartTime, countFIN_flowStartTime]

theorem finished_flowStartTime : (flow.finished packet).flowStartTime = flow.flowStartTime := by
  rw [finished_same.flowStartTime, countFIN_flowStartTime]

theorem joined_flowLastSeen : (flow.joined s packet).flowLastSeen = packet.timeStamp :=
  addPacket_flowLastSeen _ _

theorem finished_flowLastSeen : (flow.finished packet).flowLastSeen = packet.timeStamp :=
  addPacket_flowLastSeen _ _

theorem successor_flowStartTime : (flow.successor s packet).flowStartTime = packet.timeStamp := by
  simp only [successor, reopened, opened_flowStartTime]

theorem successor_flowLastSeen : (flow.successor s packet).flowLastSeen = packet.timeStamp := by
  simp only [successor, reopened, opened_flowLastSeen]

theorem successor_isBidirectional :
    (flow.successor s packet).isBidirectional = s.bidirectional := by
  simp only [successor, reopened, opened_isBidirectional]

theorem successor_backward : (flow.successor s packet).backward = {} := by
  simp only [successor, reopened, opened_backward]

theorem successor_key (h : packet.Of flow.key) : (flow.successor s packet).key = flow.key := by
  apply reopened_key
  rcases h with h | h
  · exact congrArg FlowKey.protocol h
  · exact congrArg FlowKey.protocol h

end BasicFlow

/-! ## How a flow has come about -/

/-- The flow has come about from these packets, and goes on. -/
inductive Grown (s : Settings) : List BasicPacketInfo → BasicFlow → Prop
  | opened (packet : BasicPacketInfo) :
      Grown s [packet]
        (.opened packet s.bidirectional s.flowActivityTimeOut (flowId packet.key))
  | expired {packets : List BasicPacketInfo} {flow : BasicFlow} {packet : BasicPacketInfo} :
      Grown s packets flow → packet.Of flow.key → flow.effect s packet = .expire →
      Grown s [packet] (flow.successor s packet)
  | joined {packets : List BasicPacketInfo} {flow : BasicFlow} {packet : BasicPacketInfo} :
      Grown s packets flow → packet.Of flow.key → flow.effect s packet = .join →
      Grown s (packets ++ [packet]) (flow.joined s packet)
  | dropped {packets : List BasicPacketInfo} {flow : BasicFlow} {packet : BasicPacketInfo} :
      Grown s packets flow → packet.Of flow.key → flow.effect s packet = .drop →
      Grown s packets (flow.countFIN packet)

/-- The flow has come about from these packets of the capture, and is over: it has expired with more
than one packet, or its last packet has closed it. -/
inductive Over (s : Settings) (capture : List BasicPacketInfo) :
    List BasicPacketInfo → BasicFlow → Prop
  | expired {packets : List BasicPacketInfo} {flow : BasicFlow} (packet : BasicPacketInfo) :
      Grown s packets flow → packet.Of flow.key → flow.effect s packet = .expire →
      1 < flow.packetCount → (packets ++ [packet]).Sublist capture → Over s capture packets flow
  | finished {packets : List BasicPacketInfo} {flow : BasicFlow} {packet : BasicPacketInfo} :
      Grown s packets flow → packet.Of flow.key → flow.effect s packet = .finish →
      (packets ++ [packet]).Sublist capture →
      Over s capture (packets ++ [packet]) (flow.finished packet)

namespace Grown

variable {s : Settings} {packets : List BasicPacketInfo} {flow : BasicFlow}

/-- No flow that goes on has seen a `FIN` of the other side. -/
theorem bFIN_cnt (h : Grown s packets flow) : flow.bFIN_cnt = 0 := by
  induction h with
  | opened packet =>
      simp only [BasicFlow.opened, BasicFlow.firstPacket, BasicFlow.directFirst, if_true,
        (BasicFlow.update_same _ packet).bFIN_cnt]
  | @expired packets flow packet _ _ _ _ =>
      simp only [BasicFlow.successor, BasicFlow.reopened, BasicFlow.opened, BasicFlow.firstPacket,
        BasicFlow.directFirst, if_true, (BasicFlow.update_same _ packet).bFIN_cnt]
  | joined _ _ heffect ih =>
      rw [BasicFlow.joined_same.bFIN_cnt,
        BasicFlow.countFIN_bFIN_cnt (s := s) (by simp [heffect]) (by simp [heffect]), ih]
  | dropped _ _ heffect ih =>
      rw [BasicFlow.countFIN_bFIN_cnt (s := s) (by simp [heffect]) (by simp [heffect]), ih]

theorem ne_nil (h : Grown s packets flow) : packets ≠ [] := by
  induction h with
  | opened packet => exact List.cons_ne_nil _ _
  | expired _ _ _ _ => exact List.cons_ne_nil _ _
  | joined _ _ _ _ => simp
  | dropped _ _ _ ih => exact ih

theorem isBidirectional (h : Grown s packets flow) : flow.isBidirectional = s.bidirectional := by
  induction h with
  | opened packet => exact BasicFlow.opened_isBidirectional _ _ _ _
  | expired _ _ _ _ => exact BasicFlow.successor_isBidirectional
  | joined _ _ _ ih =>
      rw [BasicFlow.joined_same.isBidirectional, BasicFlow.countFIN_isBidirectional, ih]
  | dropped _ _ _ ih => rw [BasicFlow.countFIN_isBidirectional, ih]

/-- The packets it was given are the packets it has. -/
theorem packets_perm (h : Grown s packets flow) : flow.packets.Perm packets := by
  induction h with
  | opened packet => rw [BasicFlow.opened_packets]
  | expired _ _ _ _ => rw [BasicFlow.successor, BasicFlow.reopened_packets]
  | joined _ _ _ ih => exact (BasicFlow.joined_packets _ _ _).trans (ih.append_right _)
  | dropped _ _ _ ih => rwa [BasicFlow.countFIN_packets]

/-- A flow that does not tell the directions apart has forward packets only. -/
theorem backward_eq_nil (h : Grown s packets flow) (hone : s.bidirectional = false) :
    flow.backward.packets = [] := by
  induction h with
  | opened packet => rw [BasicFlow.opened_backward]
  | expired _ _ _ _ => rw [BasicFlow.successor_backward]
  | joined hgrown _ _ ih =>
      rw [BasicFlow.joined_backward, if_neg, ih]
      simp [hgrown.isBidirectional, hone]
  | dropped _ _ _ ih => rwa [BasicFlow.countFIN_backward]

theorem packetCount (h : Grown s packets flow) : flow.packetCount = packets.length := by
  rw [← h.packets_perm.length_eq, BasicFlow.packetCount, BasicFlow.packets, List.length_append,
    h.isBidirectional]
  split
  · rfl
  · next hone => simp [h.backward_eq_nil (by simpa using hone)]

end Grown

/-- Every flow the listener is given has two packets or more. -/
theorem Over.packetCount {s : Settings} {capture packets : List BasicPacketInfo} {flow : BasicFlow}
    (h : Over s capture packets flow) : flow.packetCount = packets.length ∧ 1 < packets.length := by
  cases h with
  | expired packet hgrown _ _ hcount _ => exact ⟨hgrown.packetCount, hgrown.packetCount ▸ hcount⟩
  | @finished packets flow packet hgrown _ _ _ =>
      have hpos := List.length_pos_iff.mpr hgrown.ne_nil
      refine ⟨?_, by simp only [List.length_append, List.length_singleton]; omega⟩
      have hperm := (BasicFlow.finished_packets flow packet).trans
        (hgrown.packets_perm.append_right [packet])
      rw [← hperm.length_eq, BasicFlow.packetCount, BasicFlow.packets, List.length_append,
        BasicFlow.finished_same.isBidirectional, BasicFlow.countFIN_isBidirectional,
        hgrown.isBidirectional]
      split
      · rfl
      · next hone =>
          have hone : s.bidirectional = false := by simpa using hone
          rw [BasicFlow.finished_backward, if_neg (by simp [hgrown.isBidirectional, hone]),
            hgrown.backward_eq_nil hone]
          rfl

theorem Over.mono {s : Settings} {capture capture' packets : List BasicPacketInfo}
    {flow : BasicFlow}
    (h : Over s capture packets flow) (hsub : capture.Sublist capture') :
    Over s capture' packets flow := by
  cases h with
  | expired packet hgrown hof heffect hcount hcapture =>
      exact .expired packet hgrown hof heffect hcount (hcapture.trans hsub)
  | finished hgrown hof heffect hcapture => exact .finished hgrown hof heffect (hcapture.trans hsub)

/-! ## Runs -/

namespace FlowGenerator

/-- Where the generator stands after a capture. -/
structure Tracked (s : Settings) (capture : List BasicPacketInfo) (g : FlowGenerator) : Prop where
  settings : g.settings = s
  current : ∀ id flow, g.currentFlows.lookup id = some flow →
    id = flowId flow.key ∧ ∃ packets, packets.Sublist capture ∧ Grown s packets flow
  apart : ∀ id flow, g.currentFlows.lookup id = some flow →
    flowId flow.key.reverse ∈ g.currentFlows → flow.key.reverse = flow.key
  generated : ∀ flow ∈ g.generated, ∃ packets, Over s capture packets flow

variable {s : Settings} {capture : List BasicPacketInfo} {g : FlowGenerator}
  {packet : BasicPacketInfo}

theorem lookup_put (g : FlowGenerator) (id : String) (flow : BasicFlow) (id' : String) :
    (g.put id flow).currentFlows.lookup id' =
      if id' = id then some flow else g.currentFlows.lookup id' := by
  split
  · next h =>
      subst h
      exact AList.lookup_insert _
  · next h => exact AList.lookup_insert_ne h

theorem lookup_remove (g : FlowGenerator) (id id' : String) :
    (g.remove id).currentFlows.lookup id' =
      if id' = id then none else g.currentFlows.lookup id' := by
  split
  · next h =>
      subst h
      exact AList.lookup_erase _ _
  · next h => exact AList.lookup_erase_ne h

/-- What a packet finds: nothing under either id, or a flow under one of them. -/
theorem lookup_cases (g : FlowGenerator) (packet : BasicPacketInfo) :
    (g.currentFlows.lookup (g.lookupId packet) = none ∧ packet.fwdFlowId ∉ g.currentFlows ∧
        packet.bwdFlowId ∉ g.currentFlows) ∨
      ∃ flow, g.currentFlows.lookup (g.lookupId packet) = some flow ∧
        (g.lookupId packet = packet.fwdFlowId ∨ g.lookupId packet = packet.bwdFlowId) := by
  unfold lookupId
  by_cases hfwd : packet.fwdFlowId ∈ g.currentFlows
  · right
    obtain ⟨flow, hflow⟩ := Option.isSome_iff_exists.mp (AList.lookup_isSome.mpr hfwd)
    refine ⟨flow, ?_, .inl (if_pos hfwd)⟩
    rw [if_pos hfwd, hflow]
  · rw [if_neg hfwd]
    cases hbwd : g.currentFlows.lookup packet.bwdFlowId with
    | none => exact .inl ⟨rfl, hfwd, AList.lookup_eq_none.mp hbwd⟩
    | some flow => exact .inr ⟨flow, rfl, .inr rfl⟩

/-- A packet belongs to the flow it finds. -/
theorem Tracked.of_key (h : Tracked s capture g) {flow : BasicFlow}
    (hflow : g.currentFlows.lookup (g.lookupId packet) = some flow)
    (hid : g.lookupId packet = packet.fwdFlowId ∨ g.lookupId packet = packet.bwdFlowId) :
    packet.Of flow.key := by
  have hkey := (h.current _ _ hflow).1
  rcases hid with hid | hid
  · left
    exact flowId_inj (hid.symm.trans hkey)
  · right
    exact reverse_eq_comm.mp (flowId_inj (hid.symm.trans hkey))

/-- **One step, taken apart**: the packet opens a flow, or settles what becomes of the one it
finds. -/
theorem Tracked.addPacket_cases (h : Tracked s capture g) (packet : BasicPacketInfo) :
    (g.currentFlows.lookup (g.lookupId packet) = none ∧ packet.fwdFlowId ∉ g.currentFlows ∧
      packet.bwdFlowId ∉ g.currentFlows ∧
      g.addPacket packet = g.put (flowId packet.key)
        (.opened packet s.bidirectional s.flowActivityTimeOut (flowId packet.key))) ∨
    ∃ packets flow, packets.Sublist capture ∧ Grown s packets flow ∧ packet.Of flow.key ∧
      g.lookupId packet = flowId flow.key ∧
      g.currentFlows.lookup (flowId flow.key) = some flow ∧
      g.addPacket packet = g.settle (flowId flow.key) flow packet := by
  rcases g.lookup_cases packet with ⟨hnone, hfwd, hbwd⟩ | ⟨flow, hflow, hid⟩
  · left
    refine ⟨hnone, hfwd, hbwd, ?_⟩
    simp only [FlowGenerator.addPacket, hnone, h.settings]
    rfl
  · right
    obtain ⟨hkey, packets, hsub, hgrown⟩ := h.current _ _ hflow
    refine ⟨packets, flow, hsub, hgrown, h.of_key hflow hid, hkey, hkey ▸ hflow, ?_⟩
    simp only [FlowGenerator.addPacket, hflow]
    rw [addToFlow_eq _ _ _ _ hgrown.bFIN_cnt, hkey]

/-! ### Each step keeps track -/

theorem Tracked.mono (h : Tracked s capture g) (packet : BasicPacketInfo) :
    Tracked s (capture ++ [packet]) g := by
  have hsub {packets : List BasicPacketInfo} (hsub : packets.Sublist capture) :
      packets.Sublist (capture ++ [packet]) := hsub.trans (List.sublist_append_left _ _)
  refine ⟨h.settings, fun id flow hflow => ?_, h.apart, fun flow hflow => ?_⟩
  · obtain ⟨hkey, packets, hpackets, hgrown⟩ := h.current id flow hflow
    exact ⟨hkey, packets, hsub hpackets, hgrown⟩
  · obtain ⟨packets, hover⟩ := h.generated flow hflow
    exact ⟨packets, hover.mono (List.sublist_append_left _ _)⟩

/-- A flow takes the place of one with the same ends. -/
theorem Tracked.put (h : Tracked s capture g) {flow flow' : BasicFlow}
    {packets : List BasicPacketInfo} (hflow : g.currentFlows.lookup (flowId flow.key) = some flow)
    (hkey : flow'.key = flow.key) (hsub : packets.Sublist capture)
    (hgrown : Grown s packets flow') :
    Tracked s capture (g.put (flowId flow.key) flow') := by
  have hmem (id : String) : id ∈ (g.put (flowId flow.key) flow').currentFlows →
      id ∈ g.currentFlows := by
    intro hid
    rcases (AList.mem_insert _).mp hid with rfl | hid
    · exact AList.lookup_isSome.mp (by rw [hflow]; rfl)
    · exact hid
  refine ⟨h.settings, fun id f hf => ?_, fun id f hf hrev => ?_, h.generated⟩
  · rw [lookup_put] at hf
    split at hf
    · next heq =>
        cases hf
        exact ⟨by rw [heq, hkey], packets, hsub, hgrown⟩
    · exact h.current id f hf
  · rw [lookup_put] at hf
    split at hf
    · cases hf
      rw [hkey] at hrev ⊢
      exact h.apart _ _ hflow (hmem _ hrev)
    · exact h.apart id f hf (hmem _ hrev)

theorem Tracked.onFlowGenerated (h : Tracked s capture g) {flow : BasicFlow}
    {packets : List BasicPacketInfo} (hover : Over s capture packets flow) :
    Tracked s capture (g.onFlowGenerated flow) := by
  refine ⟨h.settings, h.current, h.apart, fun f hf => ?_⟩
  rcases List.mem_append.mp hf with hf | hf
  · exact h.generated f hf
  · rw [List.mem_singleton.mp hf]
    exact ⟨packets, hover⟩

theorem Tracked.remove (h : Tracked s capture g) (id : String) :
    Tracked s capture (g.remove id) := by
  refine ⟨h.settings, fun id' f hf => ?_, fun id' f hf hrev => ?_, h.generated⟩
  · rw [lookup_remove] at hf
    split at hf
    · cases hf
    · exact h.current id' f hf
  · rw [lookup_remove] at hf
    split at hf
    · cases hf
    · exact h.apart id' f hf (AList.mem_erase.mp hrev).2

/-- A flow between ends that have none. -/
theorem Tracked.open (h : Tracked s capture g) (hbwd : packet.bwdFlowId ∉ g.currentFlows)
    (hsub : [packet].Sublist capture) :
    Tracked s capture (g.put (flowId packet.key)
      (.opened packet s.bidirectional s.flowActivityTimeOut (flowId packet.key))) := by
  refine ⟨h.settings, fun id f hf => ?_, fun id f hf hrev => ?_, h.generated⟩
  · rw [lookup_put] at hf
    split at hf
    · next heq =>
        cases hf
        exact ⟨by rw [heq, BasicFlow.opened_key], [packet], hsub, .opened packet⟩
    · exact h.current id f hf
  · rw [lookup_put] at hf
    rcases (AList.mem_insert _).mp hrev with heq | hrev
    · split at hf
      · cases hf
        rw [BasicFlow.opened_key] at heq ⊢
        exact flowId_inj heq
      · -- the reverse of a flow that goes on would be the packet's own id
        have hid := (h.current id f hf).1
        refine absurd (AList.lookup_isSome.mp ?_) hbwd
        rw [BasicPacketInfo.bwdFlowId, ← flowId_inj heq, FlowKey.reverse_reverse, ← hid, hf]
        rfl
    · split at hf
      · cases hf
        rw [BasicFlow.opened_key] at hrev
        exact absurd hrev hbwd
      · exact h.apart id f hf hrev

theorem Tracked.addPacket (h : Tracked s capture g) (packet : BasicPacketInfo) :
    Tracked s (capture ++ [packet]) (g.addPacket packet) := by
  have hlast : [packet].Sublist (capture ++ [packet]) := List.sublist_append_right _ _
  rcases h.addPacket_cases packet with ⟨-, -, hbwd, hopen⟩ |
    ⟨packets, flow, hsub, hgrown, hof, -, hflow, hsettle⟩
  · rw [hopen]
    exact (h.mono packet).open hbwd hlast
  · have hmono := hsub.trans (List.sublist_append_left capture [packet])
    have hjoin : (packets ++ [packet]).Sublist (capture ++ [packet]) := hsub.append (.refl _)
    rw [hsettle, settle, h.settings]
    cases heffect : flow.effect s packet with
    | expire =>
        have hnext := hgrown.expired hof heffect
        have hkey := BasicFlow.successor_key (s := s) hof
        dsimp only
        split
        · next hcount =>
            have hover : Over s (capture ++ [packet]) packets flow :=
              .expired packet hgrown hof heffect hcount hjoin
            exact ((h.mono packet).onFlowGenerated hover).put hflow hkey hlast hnext
        · exact (h.mono packet).put hflow hkey hlast hnext
    | join =>
        exact (h.mono packet).put hflow BasicFlow.joined_key hjoin (hgrown.joined hof heffect)
    | finish =>
        exact ((h.mono packet).onFlowGenerated (.finished hgrown hof heffect hjoin)).remove _
    | drop =>
        exact (h.mono packet).put hflow BasicFlow.countFIN_key hmono (hgrown.dropped hof heffect)

theorem tracked_init (s : Settings) : Tracked s [] (init s) := by
  refine ⟨rfl, fun id flow h => ?_, fun id flow h => ?_, fun flow h => ?_⟩
  · cases h
  · cases h
  · cases h

/-- **Every capture is tracked**, packet by packet. -/
theorem tracked_addPackets (s : Settings) (capture : List BasicPacketInfo) :
    Tracked s capture ((init s).addPackets capture) := by
  induction capture using List.reverseRecOn with
  | nil => exact tracked_init s
  | append_singleton capture packet ih =>
      rw [addPackets_concat]
      exact ih.addPacket packet

/-! ### What a step changes -/

end FlowGenerator

namespace BasicFlow

variable (s : Settings) (flow : BasicFlow) (packet : BasicPacketInfo)

/-- The flow that goes on, if one does. -/
def next : Option BasicFlow :=
  match flow.effect s packet with
  | .expire => some (flow.successor s packet)
  | .join => some (flow.joined s packet)
  | .finish => none
  | .drop => some (flow.countFIN packet)

/-- What the listener is given. -/
def output : List BasicFlow :=
  match flow.effect s packet with
  | .expire => if 1 < flow.packetCount then [flow] else []
  | .finish => [flow.finished packet]
  | _ => []

end BasicFlow

namespace FlowGenerator

/-- The flow a packet finds. -/
def found (g : FlowGenerator) (packet : BasicPacketInfo) : Option BasicFlow :=
  g.currentFlows.lookup (g.lookupId packet)

/-- The id that what becomes of the packet is filed under. -/
def filedId (g : FlowGenerator) (packet : BasicPacketInfo) : String :=
  if (g.found packet).isSome then g.lookupId packet else packet.fwdFlowId

/-- What is filed under it. -/
def filed (g : FlowGenerator) (packet : BasicPacketInfo) : Option BasicFlow :=
  match g.found packet with
  | some flow => flow.next g.settings packet
  | none =>
      some (.opened packet g.settings.bidirectional g.settings.flowActivityTimeOut packet.fwdFlowId)

theorem settle_generated (g : FlowGenerator) (flow : BasicFlow) (packet : BasicPacketInfo) :
    (g.settle (flowId flow.key) flow packet).generated =
      g.generated ++ flow.output g.settings packet := by
  unfold settle BasicFlow.output
  cases flow.effect g.settings packet with
  | expire =>
      dsimp only
      split
      · rfl
      · exact (List.append_nil _).symm
  | join => exact (List.append_nil _).symm
  | finish => rfl
  | drop => exact (List.append_nil _).symm

theorem settle_lookup (g : FlowGenerator) (flow : BasicFlow) (packet : BasicPacketInfo)
    (id : String) : (g.settle (flowId flow.key) flow packet).currentFlows.lookup id =
      if id = flowId flow.key then flow.next g.settings packet else g.currentFlows.lookup id := by
  unfold settle BasicFlow.next
  cases flow.effect g.settings packet with
  | expire =>
      dsimp only
      split <;> exact lookup_put _ _ _ _
  | join => exact lookup_put _ _ _ _
  | finish => exact lookup_remove _ _ _
  | drop => exact lookup_put _ _ _ _

/-- **One step, from outside**: a packet changes what is filed under one id, and what the listener
is given follows from the flow it finds. -/
theorem Tracked.step (h : Tracked s capture g) (packet : BasicPacketInfo) :
    (g.addPacket packet).generated =
      g.generated ++ ((g.found packet).map (·.output s packet)).getD [] ∧
    ∀ id, (g.addPacket packet).currentFlows.lookup id =
      if id = g.filedId packet then g.filed packet else g.currentFlows.lookup id := by
  unfold filedId filed
  rcases h.addPacket_cases packet with ⟨hnone, -, -, hopen⟩ |
    ⟨packets, flow, -, -, -, hid, hflow, hsettle⟩
  · have hfound : g.found packet = none := hnone
    rw [hfound, hopen, h.settings]
    exact ⟨(List.append_nil _).symm, fun id => lookup_put _ _ _ _⟩
  · have hfound : g.found packet = some flow := by rw [found, hid, hflow]
    rw [hfound, hsettle, settle_generated, h.settings]
    refine ⟨rfl, fun id => ?_⟩
    rw [settle_lookup, h.settings, hid]
    rfl

end FlowGenerator

end SnortOptimizer.FlowMeter
