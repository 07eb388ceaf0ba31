import SnortOptimizer.FlowMeter.Runs

/-!
# How flows end

Between its first packet and the one that closes it, a flow takes at most one `FIN`, of the side
that opened it, and no `RST` by itself. It is closed by a `FIN` of the other side or by an `RST`, or
it lasts until a packet comes after its time (`flow_shape`). So a conversation that both sides end
in order is closed by the second `FIN` if the side that opened the flow says the first one; if it is
the other way round, the flow is closed by the first and the rest of the farewell is a flow of its
own.
-/

namespace SnortOptimizer.FlowMeter

open Extractor

/-- What the packets of a flow are like, from the first one to the one before the last that closes
it. -/
structure Shaped (s : Settings) (first : BasicPacketInfo) (rest : List BasicPacketInfo)
    (flow : BasicFlow) : Prop where
  flowStartTime : flow.flowStartTime = first.timeStamp
  flowLastSeen : flow.flowLastSeen = ((first :: rest).getLast (List.cons_ne_nil _ _)).timeStamp
  of_key : ∀ p ∈ first :: rest, p.Of flow.key
  in_time : ∀ p ∈ rest, p.timeStamp - first.timeStamp ≤ s.flowTimeOut
  fin_src : ∀ p ∈ rest, p.flagFIN = true → p.src = flow.src
  rst_fin : ∀ p ∈ rest, p.flagRST = true → p.flagFIN = true
  fin_once : rest.countP (·.flagFIN) ≤ 1

namespace BasicFlow

variable {s : Settings} {flow : BasicFlow} {packet : BasicPacketInfo}

theorem countFIN_fFIN_cnt : (flow.countFIN packet).fFIN_cnt =
    if packet.flagFIN = true ∧ flow.src = packet.src then flow.fFIN_cnt + 1 else flow.fFIN_cnt := by
  grind [countFIN, setFwdFINFlags, setBwdFINFlags]

end BasicFlow

variable {s : Settings} {packets : List BasicPacketInfo} {flow : BasicFlow}

/-- The `FIN` counter says whether there has been one. -/
theorem Grown.shaped (h : Grown s packets flow) : ∃ first rest, packets = first :: rest ∧
    Shaped s first rest flow ∧ (flow.fFIN_cnt = 0 → rest.countP (·.flagFIN) = 0) := by
  induction h with
  | opened packet =>
      refine ⟨packet, [], rfl, ⟨?_, ?_, ?_, ?_, ?_, ?_, ?_⟩, fun _ => rfl⟩
      · exact BasicFlow.opened_flowStartTime _ _ _ _
      · exact BasicFlow.opened_flowLastSeen _ _ _ _
      · intro p hp
        rw [List.mem_singleton.mp hp, BasicFlow.opened_key]
        exact packet.of_key
      all_goals simp
  | @expired packets flow packet hgrown hof heffect ih =>
      refine ⟨packet, [], rfl, ⟨?_, ?_, ?_, ?_, ?_, ?_, ?_⟩, fun _ => rfl⟩
      · exact BasicFlow.successor_flowStartTime
      · exact BasicFlow.successor_flowLastSeen
      · intro p hp
        rw [List.mem_singleton.mp hp, BasicFlow.successor_key hof]
        exact hof
      all_goals simp
  | @joined packets flow packet hgrown hof heffect ih =>
      obtain ⟨first, rest, rfl, hshape, hcount⟩ := ih
      obtain ⟨htime, hflags⟩ := BasicFlow.effect_eq_join.mp heffect
      have hsrc : (flow.joined s packet).src = flow.src :=
        congrArg FlowKey.srcIP BasicFlow.joined_key
      have hmem {p : BasicPacketInfo} (hp : p ∈ rest ++ [packet]) : p ∈ rest ∨ p = packet := by
        simpa using hp
      refine ⟨first, rest ++ [packet], rfl, ⟨?_, ?_, ?_, ?_, ?_, ?_, ?_⟩, ?_⟩
      · rw [BasicFlow.joined_flowStartTime, hshape.flowStartTime]
      · rw [BasicFlow.joined_flowLastSeen]
        simp
      · intro p hp
        rw [BasicFlow.joined_key]
        rcases List.mem_cons.mp hp with hp | hp
        · exact hshape.of_key p (hp ▸ List.mem_cons_self)
        · rcases hmem hp with hp | rfl
          · exact hshape.of_key p (List.mem_cons_of_mem _ hp)
          · exact hof
      · intro p hp
        rcases hmem hp with hp | rfl
        · exact hshape.in_time p hp
        · exact hshape.flowStartTime ▸ htime
      · intro p hp hfin
        rw [hsrc]
        rcases hmem hp with hp | rfl
        · exact hshape.fin_src p hp hfin
        · grind
      · intro p hp hrst
        rcases hmem hp with hp | rfl
        · exact hshape.rst_fin p hp hrst
        · grind
      · have honce := hshape.fin_once
        rw [List.countP_append, List.countP_singleton]
        grind
      · rw [BasicFlow.joined_same.fFIN_cnt, BasicFlow.countFIN_fFIN_cnt, List.countP_append,
          List.countP_singleton]
        grind
  | @dropped packets flow packet hgrown hof heffect ih =>
      obtain ⟨first, rest, rfl, hshape, hcount⟩ := ih
      have hsrc : (flow.countFIN packet).src = flow.src := BasicFlow.countFIN_src
      refine ⟨first, rest, rfl, ⟨?_, ?_, ?_, hshape.in_time, ?_, hshape.rst_fin,
        hshape.fin_once⟩, ?_⟩
      · rw [BasicFlow.countFIN_flowStartTime, hshape.flowStartTime]
      · rw [BasicFlow.countFIN_flowLastSeen, hshape.flowLastSeen]
      · rw [BasicFlow.countFIN_key]
        exact hshape.of_key
      · rw [hsrc]
        exact hshape.fin_src
      · rw [BasicFlow.countFIN_fFIN_cnt]
        grind

/-- **How a flow ends**, whatever the capture. `first`, `rest` and `closing` are its packets, in the
order of the capture. -/
theorem flow_shape (s : Settings) (capture : List BasicPacketInfo) :
    ∀ flow ∈ ((FlowGenerator.init s).addPackets capture).generated, ∃ first rest closing,
      (first :: rest ++ Option.toList closing).Sublist capture ∧
      flow.packets.Perm (first :: rest ++ Option.toList closing) ∧
      (∀ p ∈ first :: rest ++ Option.toList closing, p.Of flow.key) ∧
      (∀ p ∈ rest ++ Option.toList closing, p.timeStamp - first.timeStamp ≤ s.flowTimeOut) ∧
      (∀ p ∈ rest, p.flagFIN = true → p.src = flow.src) ∧
      (∀ p ∈ rest, p.flagRST = true → p.flagFIN = true) ∧
      rest.countP (·.flagFIN) ≤ 1 ∧
      match closing with
      | some p => p.flagFIN = true ∧ p.src ≠ flow.src ∨ p.flagFIN = false ∧ p.flagRST = true
      | none => ∃ p ∈ capture, p.Of flow.key ∧ s.flowTimeOut < p.timeStamp - first.timeStamp := by
  intro flow hflow
  obtain ⟨packets, hover⟩ := (FlowGenerator.tracked_addPackets s capture).generated flow hflow
  cases hover with
  | expired packet hgrown hof heffect hcount hsub =>
      obtain ⟨first, rest, rfl, hshape, -⟩ := hgrown.shaped
      have hlate := BasicFlow.effect_eq_expire.mp heffect
      rw [hshape.flowStartTime] at hlate
      refine ⟨first, rest, none, ?_, ?_, ?_, ?_, hshape.fin_src, hshape.rst_fin, hshape.fin_once,
        packet, ?_, hof, hlate⟩
      · rw [Option.toList_none, List.append_nil]
        exact (List.sublist_append_left _ _).trans hsub
      · rw [Option.toList_none, List.append_nil]
        exact hgrown.packets_perm
      · rw [Option.toList_none, List.append_nil]
        exact hshape.of_key
      · rw [Option.toList_none, List.append_nil]
        exact hshape.in_time
      · exact hsub.subset (List.mem_append_right _ List.mem_cons_self)
  | @finished _ flow packet hgrown hof heffect hsub =>
      obtain ⟨first, rest, rfl, hshape, -⟩ := hgrown.shaped
      obtain ⟨htime, hflags⟩ := BasicFlow.effect_eq_finish.mp heffect
      rw [hshape.flowStartTime] at htime
      have hsrc : (flow.finished packet).src = flow.src :=
        congrArg FlowKey.srcIP BasicFlow.finished_key
      refine ⟨first, rest, some packet, hsub, ?_, ?_, ?_, ?_, hshape.rst_fin, hshape.fin_once, ?_⟩
      · exact (BasicFlow.finished_packets flow packet).trans (hgrown.packets_perm.append_right _)
      · intro p hp
        rw [BasicFlow.finished_key]
        rcases List.mem_append.mp hp with hp | hp
        · exact hshape.of_key p hp
        · rw [List.mem_singleton.mp hp]
          exact hof
      · intro p hp
        rcases List.mem_append.mp hp with hp | hp
        · exact hshape.in_time p hp
        · rw [List.mem_singleton.mp hp]
          exact htime
      · rw [hsrc]
        exact hshape.fin_src
      · rw [hsrc]
        exact hflags.imp_left fun h => ⟨h.1, h.2.symm⟩

namespace FlowGenerator

/-- The settings of `Cmd`. -/
def cmdSettings : Settings :=
  { bidirectional := true, flowTimeOut := 120000000, flowActivityTimeOut := 5000000 }

def entryOrder : ValueOrder := ⟨fun flows => flows.entries.map Sigma.snd, fun _ => .refl _⟩

/-- A packet of a client to a server, or back, at a time. -/
def chat (back : Bool) (timeStamp : Int) : BasicPacketInfo :=
  let client : Octets := { a := 10, b := 0, c := 0, d := 1 }
  let server : Octets := { a := 10, b := 0, c := 0, d := 2 }
  { src := if back then server else client, dst := if back then client else server
    srcPort := if back then 80 else 4000, dstPort := if back then 4000 else 80
    protocol := 6, timeStamp, payloadBytes := 100, headerBytes := 20, tcpWindow := 512 }

/-- A conversation in three parts: five packets within half a second, two after a pause, and two
that come too late for the flow of the others. -/
def slowChat : List BasicPacketInfo :=
  [chat false 1000000, chat true 1100000, chat false 1200000, chat true 1300000, chat false 1400000,
    chat false 10000000, chat true 10500000, chat false 200000000, chat true 201500000]

/-- The flow of the first two parts is closed when the third begins. -/
theorem generated_slowChat : ((init cmdSettings).addPackets slowChat).generated.length = 1 := by
  decide +kernel

end FlowGenerator

theorem slowChat_shape : ∃ flow ∈ ((FlowGenerator.init FlowGenerator.cmdSettings).addPackets
    FlowGenerator.slowChat).generated, ∃ first rest closing,
      (first :: rest ++ Option.toList closing).Sublist FlowGenerator.slowChat ∧
      flow.packets.Perm (first :: rest ++ Option.toList closing) := by
  obtain ⟨flow, hflow⟩ := List.length_eq_one_iff.mp FlowGenerator.generated_slowChat
  have hmem : flow ∈ ((FlowGenerator.init FlowGenerator.cmdSettings).addPackets
      FlowGenerator.slowChat).generated := hflow ▸ List.mem_cons_self
  obtain ⟨first, rest, closing, hsub, hperm, -⟩ :=
    flow_shape FlowGenerator.cmdSettings FlowGenerator.slowChat flow hmem
  exact ⟨flow, hmem, first, rest, closing, hsub, hperm⟩

end SnortOptimizer.FlowMeter
