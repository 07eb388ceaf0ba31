import SnortOptimizer.FlowMeter.Closing
import SnortOptimizer.FlowMeter.Conversations

/-!
# Flows in time

In a capture whose packets are in the order of their time stamps, a flow lasts from its first packet
to its last, no longer than the timeout, and the flows of one conversation follow each other: one is
over before the next begins, or in the same microsecond (`flows_in_order`). The analyser, which
looks for the flow around an instant, so finds one flow, or two that meet there.
-/

namespace SnortOptimizer.FlowMeter

open Extractor

def Chronological (capture : List BasicPacketInfo) : Prop :=
  capture.Pairwise fun p q => p.timeStamp ≤ q.timeStamp

instance decidableChronological (capture : List BasicPacketInfo) :
    Decidable (Chronological capture) :=
  inferInstanceAs (Decidable (capture.Pairwise _))

/-! ## One flow -/

/-- The flow was given these packets, and stretches from the first to the last. -/
structure Spans (s : Settings) (packets : List BasicPacketInfo) (flow : BasicFlow) : Prop where
  perm : flow.packets.Perm packets
  packetCount : flow.packetCount = packets.length
  flowId : flow.flowId = flowId flow.key
  of_key : ∀ p ∈ packets, p.Of flow.key
  start : packets.head?.map (·.timeStamp) = some flow.flowStartTime
  stop : packets.getLast?.map (·.timeStamp) = some flow.flowLastSeen
  in_time : ∀ p ∈ packets.tail, p.timeStamp - flow.flowStartTime ≤ s.flowTimeOut

variable {s : Settings} {capture packets : List BasicPacketInfo} {flow : BasicFlow}

theorem Grown.flowId (h : Grown s packets flow) : flow.flowId = flowId flow.key := by
  induction h with
  | opened packet =>
      rw [BasicFlow.opened_key]
      simp only [BasicFlow.opened, BasicFlow.firstPacket]
  | @expired _ flow packet _ hof _ _ =>
      rw [BasicFlow.successor_key hof]
      simp only [BasicFlow.successor, BasicFlow.reopened, BasicFlow.opened, BasicFlow.firstPacket]
  | joined _ _ _ ih =>
      rw [BasicFlow.joined_same.flowId, BasicFlow.countFIN_flowId, BasicFlow.joined_key, ih]
  | dropped _ _ _ ih => rw [BasicFlow.countFIN_flowId, BasicFlow.countFIN_key, ih]

theorem Grown.spans (h : Grown s packets flow) : Spans s packets flow := by
  obtain ⟨first, rest, rfl, hshape, -⟩ := h.shaped
  refine ⟨h.packets_perm, h.packetCount, h.flowId, hshape.of_key, ?_, ?_, ?_⟩
  · rw [List.head?_cons, Option.map_some, hshape.flowStartTime]
  · rw [List.getLast?_eq_some_getLast (List.cons_ne_nil _ _), Option.map_some, hshape.flowLastSeen]
  · rw [hshape.flowStartTime]
    exact hshape.in_time

theorem Over.spans (h : Over s capture packets flow) : Spans s packets flow := by
  have hcount := h.packetCount.1
  cases h with
  | expired packet hgrown _ _ _ _ => exact hgrown.spans
  | @finished packets flow packet hgrown hof heffect _ =>
      have hspans := hgrown.spans
      obtain ⟨first, rest, rfl, hshape, -⟩ := hgrown.shaped
      refine ⟨?_, hcount, ?_, ?_, ?_, ?_, ?_⟩
      · exact (BasicFlow.finished_packets flow packet).trans (hgrown.packets_perm.append_right _)
      · rw [BasicFlow.finished_same.flowId, BasicFlow.countFIN_flowId, BasicFlow.finished_key,
          hspans.flowId]
      · intro p hp
        rw [BasicFlow.finished_key]
        rcases List.mem_append.mp hp with hp | hp
        · exact hshape.of_key p hp
        · rw [List.mem_singleton.mp hp]
          exact hof
      · rw [List.cons_append, List.head?_cons, Option.map_some, BasicFlow.finished_flowStartTime,
          hshape.flowStartTime]
      · rw [List.getLast?_concat, Option.map_some, BasicFlow.finished_flowLastSeen]
      · intro p hp
        rw [BasicFlow.finished_flowStartTime]
        rcases List.mem_append.mp hp with hp | hp
        · exact hshape.flowStartTime ▸ hshape.in_time p hp
        · rw [List.mem_singleton.mp hp]
          exact (BasicFlow.effect_eq_finish.mp heffect).1

theorem Over.sublist (h : Over s capture packets flow) : packets.Sublist capture := by
  cases h with
  | expired _ _ _ _ _ hsub => exact (List.sublist_append_left _ _).trans hsub
  | finished _ _ _ hsub => exact hsub

/-- In an ordered capture, a flow contains its packets. -/
theorem Spans.contains (h : Spans s packets flow) (horder : Chronological packets) :
    ∀ p ∈ packets, flow.flowStartTime ≤ p.timeStamp ∧ p.timeStamp ≤ flow.flowLastSeen := by
  intro p hp
  constructor
  · obtain ⟨first, rest, rfl⟩ := List.exists_cons_of_ne_nil (List.ne_nil_of_mem hp)
    have hstart := Option.some.inj (h.start)
    rw [← hstart]
    rcases List.mem_cons.mp hp with rfl | hp
    · exact le_refl _
    · exact (List.pairwise_cons.mp horder).1 p hp
  · have hne := List.ne_nil_of_mem hp
    have hstop := h.stop
    rw [List.getLast?_eq_some_getLast hne] at hstop
    rw [← Option.some.inj hstop]
    rw [Chronological, ← List.dropLast_append_getLast hne, List.pairwise_append] at horder
    rw [← List.dropLast_append_getLast hne] at hp
    rcases List.mem_append.mp hp with hp | hp
    · exact horder.2.2 p hp _ List.mem_cons_self
    · rw [List.mem_singleton.mp hp]

theorem Spans.stop_mem (h : Spans s packets flow) :
    ∃ p ∈ packets, p.timeStamp = flow.flowLastSeen := by
  obtain ⟨p, hp, hstop⟩ := Option.map_eq_some_iff.mp h.stop
  exact ⟨p, List.mem_of_getLast? hp, hstop⟩

/-- A flow with more than one packet lasts no longer than the timeout. -/
theorem Spans.duration_le (h : Spans s packets flow) (hcount : 1 < flow.packetCount) :
    flow.flowLastSeen - flow.flowStartTime ≤ s.flowTimeOut := by
  rw [h.packetCount] at hcount
  obtain ⟨p, hp, hstop⟩ := Option.map_eq_some_iff.mp h.stop
  rw [← hstop]
  apply h.in_time
  obtain ⟨first, rest, rfl⟩ : ∃ first rest, packets = first :: rest :=
    List.exists_cons_of_length_pos (by omega)
  have hrest : rest ≠ [] := by
    rintro rfl
    simp at hcount
  rw [List.getLast?_cons_of_ne_nil hrest] at hp
  exact List.mem_of_getLast? hp

/-! ## The flows of a conversation -/

/-- What comes out of a flow has its ends and its start. -/
theorem output_start {packet : BasicPacketInfo} {f : BasicFlow} (h : f ∈ flow.output s packet) :
    f.flowStartTime = flow.flowStartTime ∧
      (f.flowLastSeen = flow.flowLastSeen ∨ f.flowLastSeen = packet.timeStamp) := by
  unfold BasicFlow.output at h
  split at h
  · split at h
    · rw [List.mem_singleton.mp h]
      exact ⟨rfl, .inl rfl⟩
    · cases h
  · rw [List.mem_singleton.mp h]
    exact ⟨BasicFlow.finished_flowStartTime, .inr BasicFlow.finished_flowLastSeen⟩
  · cases h

theorem output_pairwise {packet : BasicPacketInfo} (R : BasicFlow → BasicFlow → Prop) :
    (flow.output s packet).Pairwise R := by
  unfold BasicFlow.output
  split
  · split
    · exact List.pairwise_singleton _ _
    · exact .nil
  · exact List.pairwise_singleton _ _
  · exact .nil

/-- What goes on starts with the packet, or is the flow that was found, and nothing came out. -/
theorem next_start {packet : BasicPacketInfo} {c : BasicFlow} (hof : packet.Of flow.key)
    (h : flow.next s packet = some c) : c.key = flow.key ∧ (c.flowStartTime = packet.timeStamp ∨
      c.flowStartTime = flow.flowStartTime ∧ flow.output s packet = []) := by
  unfold BasicFlow.next BasicFlow.output at *
  cases heffect : flow.effect s packet with
  | expire =>
      rw [heffect] at h
      cases h
      exact ⟨BasicFlow.successor_key hof, .inl BasicFlow.successor_flowStartTime⟩
  | join =>
      rw [heffect] at h
      cases h
      exact ⟨BasicFlow.joined_key, .inr ⟨BasicFlow.joined_flowStartTime, rfl⟩⟩
  | finish =>
      rw [heffect] at h
      cases h
  | drop =>
      rw [heffect] at h
      cases h
      exact ⟨BasicFlow.countFIN_key, .inr ⟨BasicFlow.countFIN_flowStartTime, rfl⟩⟩

theorem BasicFlow.Of.congr {f c c' : BasicFlow} (h : c.Of f.key) (hkey : c'.key = c.key) :
    c'.Of f.key := by
  rw [BasicFlow.Of, hkey]
  exact h

namespace FlowGenerator

variable {g : FlowGenerator} {packet : BasicPacketInfo}

/-- Two flows of a conversation, the first of which was over before the second began. -/
def Follows (f f' : BasicFlow) : Prop := f'.Of f.key → f.flowLastSeen ≤ f'.flowStartTime

/-- The flows of each conversation follow each other, and the one that goes on follows them all. -/
structure Successive (g : FlowGenerator) : Prop where
  generated : g.generated.Pairwise Follows
  current : ∀ id c, g.currentFlows.lookup id = some c → ∀ f ∈ g.generated, Follows f c

/-- A conversation has one flow that goes on. -/
theorem Tracked.unique (h : Tracked s capture g) {id id' : String} {c c' : BasicFlow}
    (hc : g.currentFlows.lookup id = some c) (hc' : g.currentFlows.lookup id' = some c')
    (hof : c'.Of c.key) : id' = id := by
  obtain ⟨hid, -⟩ := h.current id c hc
  obtain ⟨hid', -⟩ := h.current id' c' hc'
  rcases hof with hkey | hkey
  · rw [hid, hid', hkey]
  · have hmem : flowId c.key.reverse ∈ g.currentFlows := by
      rw [← hkey, ← hid']
      exact AList.lookup_isSome.mp (by rw [hc']; rfl)
    rw [hid, hid', hkey, h.apart id c hc hmem]

/-- Whatever has been seen was seen before. -/
theorem Tracked.seen (h : Tracked s capture g)
    (hlast : ∀ p ∈ capture, p.timeStamp ≤ packet.timeStamp) :
    (∀ f ∈ g.generated, f.flowLastSeen ≤ packet.timeStamp) ∧
      ∀ id c, g.currentFlows.lookup id = some c → c.flowLastSeen ≤ packet.timeStamp := by
  constructor
  · intro f hf
    obtain ⟨packets, hover⟩ := h.generated f hf
    obtain ⟨p, hp, hstop⟩ := hover.spans.stop_mem
    exact hstop ▸ hlast p (hover.sublist.subset hp)
  · intro id c hc
    obtain ⟨-, packets, hsub, hgrown⟩ := h.current id c hc
    obtain ⟨p, hp, hstop⟩ := hgrown.spans.stop_mem
    exact hstop ▸ hlast p (hsub.subset hp)

theorem Tracked.successive (h : Tracked s capture g) (hg : Successive g)
    (hlast : ∀ p ∈ capture, p.timeStamp ≤ packet.timeStamp) : Successive (g.addPacket packet) := by
  obtain ⟨hseen, hseen'⟩ := h.seen hlast
  obtain ⟨hgenerated, hcurrent⟩ := h.step packet
  cases hfound : g.found packet with
  | none =>
      simp only [hfound, Option.map_none, Option.getD_none, List.append_nil] at hgenerated
      refine ⟨hgenerated ▸ hg.generated, fun id c hc f hf => ?_⟩
      rw [hgenerated] at hf
      rw [hcurrent] at hc
      split at hc
      · simp only [filed, hfound, Option.some.injEq] at hc
        intro _
        rw [← hc, BasicFlow.opened_flowStartTime]
        exact hseen f hf
      · exact hg.current id c hc f hf
  | some flow =>
      have hof := h.of_key hfound (g.lookupId_cases packet)
      have hfiledId : g.filedId packet = g.lookupId packet := by simp [filedId, hfound]
      have hfiled : g.filed packet = flow.next s packet := by simp [filed, hfound, h.settings]
      rw [hfound] at hgenerated
      have hgenerated : (g.addPacket packet).generated = g.generated ++ flow.output s packet :=
        hgenerated
      constructor
      · rw [hgenerated, List.pairwise_append]
        refine ⟨hg.generated, output_pairwise _, fun f hf f' hf' hofkey => ?_⟩
        rw [(output_start hf').1]
        exact hg.current _ flow hfound f hf (hofkey.congr (key_of_mem_output hf').symm)
      · intro id c hc f hf hofkey
        rw [hgenerated, List.mem_append] at hf
        rw [hcurrent, hfiledId, hfiled] at hc
        split at hc
        · next hid =>
            obtain ⟨hkey, hstart | ⟨hstart, hnone⟩⟩ := next_start hof hc
            · rw [hstart]
              rcases hf with hf | hf
              · exact hseen f hf
              · rcases (output_start hf).2 with hstop | hstop
                · exact hstop ▸ hseen' _ flow hfound
                · exact hstop.le
            · rw [hnone] at hf
              rcases hf with hf | hf
              · rw [hstart]
                exact hg.current _ flow hfound f hf (hofkey.congr hkey.symm)
              · cases hf
        · next hid =>
            rcases hf with hf | hf
            · exact hg.current id c hc f hf hofkey
            · rw [key_of_mem_output hf] at hofkey
              exact absurd (h.unique hfound hc hofkey) hid

theorem successive_addPackets (s : Settings) {capture : List BasicPacketInfo}
    (h : Chronological capture) : Successive ((init s).addPackets capture) := by
  induction capture using List.reverseRecOn with
  | nil =>
      refine ⟨.nil, fun id c hc => ?_⟩
      cases hc
  | append_singleton capture packet ih =>
      rw [Chronological, List.pairwise_append] at h
      rw [addPackets_concat]
      refine (tracked_addPackets s capture).successive (ih h.1) fun p hp => ?_
      exact h.2.2 p hp packet List.mem_cons_self

theorem of_comm {f f' : BasicFlow} : f'.Of f.key ↔ f.Of f'.key := by
  rw [BasicFlow.Of, BasicFlow.Of, eq_comm, ← reverse_eq_comm, eq_comm (a := f'.key.reverse)]

/-- The flows that go on are between different ends. -/
theorem Tracked.pairwise_values (h : Tracked s capture g) (order : ValueOrder) :
    (order.values g.currentFlows).Pairwise fun f f' => ¬ f'.Of f.key := by
  have hsymm {f f' : BasicFlow} (hne : ¬ f'.Of f.key) : ¬ f.Of f'.key := fun h =>
    hne (of_comm.mpr h)
  rw [(order.perm g.currentFlows).pairwise_iff hsymm, List.pairwise_map]
  refine (List.nodupKeys_iff_pairwise.mp g.currentFlows.nodupKeys).imp_of_mem ?_
  intro e e' he he' hne hof
  have hc : g.currentFlows.lookup e.1 = some e.2 := AList.mem_lookup_iff.mpr he
  have hc' : g.currentFlows.lookup e'.1 = some e'.2 := AList.mem_lookup_iff.mpr he'
  exact hne (h.unique hc hc' hof).symm

/-- A row comes from packets of the capture. -/
theorem Tracked.row_spans (h : Tracked s capture g) {order : ValueOrder} {row : BasicFlow}
    (hrow : row ∈ g.rows order) : 1 < row.packetCount ∧
      ∃ packets, packets.Sublist capture ∧ Spans s packets row := by
  rcases List.mem_append.mp hrow with hrow | hrow
  · obtain ⟨packets, hover⟩ := h.generated row hrow
    refine ⟨?_, packets, hover.sublist, hover.spans⟩
    rw [hover.packetCount.1]
    exact hover.packetCount.2
  · obtain ⟨hrow, hcount⟩ := List.mem_filter.mp hrow
    obtain ⟨e, he, rfl⟩ := List.mem_map.mp ((order.perm _).mem_iff.mp hrow)
    obtain ⟨-, packets, hsub, hgrown⟩ := h.current e.1 e.2 (AList.mem_lookup_iff.mpr he)
    exact ⟨by simpa using hcount, packets, hsub, hgrown.spans⟩

/-- **Flows in time**: in an ordered capture a row contains the packets it was made from and lasts
no longer than the timeout, and of two rows of one conversation the one that is printed first is
over when the other begins. -/
theorem flows_in_order (s : Settings) (order : ValueOrder) (capture : List BasicPacketInfo)
    (h : Chronological capture) :
    let rows := ((init s).addPackets capture).rows order
    (∀ row ∈ rows, (∀ p ∈ row.packets, row.flowStartTime ≤ p.timeStamp ∧
        p.timeStamp ≤ row.flowLastSeen) ∧ row.flowLastSeen - row.flowStartTime ≤ s.flowTimeOut) ∧
      rows.Pairwise fun row row' => row'.Of row.key → row.flowLastSeen ≤ row'.flowStartTime := by
  have htracked := tracked_addPackets s capture
  have hsuccessive := successive_addPackets s h
  constructor
  · intro row hrow
    obtain ⟨hcount, packets, hsub, hspans⟩ := htracked.row_spans hrow
    refine ⟨fun p hp => ?_, hspans.duration_le hcount⟩
    exact hspans.contains (h.sublist hsub) p (hspans.perm.mem_iff.mp hp)
  · rw [rows, List.pairwise_append]
    refine ⟨hsuccessive.generated, ?_, fun f hf f' hf' => ?_⟩
    · exact ((htracked.pairwise_values order).filter _).imp fun hne hof => absurd hof hne
    · obtain ⟨e, he, rfl⟩ := List.mem_map.mp
        ((order.perm _).mem_iff.mp (List.mem_filter.mp hf').1)
      exact hsuccessive.current e.1 e.2 (AList.mem_lookup_iff.mpr he) f hf

/-- Two rows of the conversation, one after the other. -/
theorem slowChat_in_order :
    Chronological slowChat ∧
      (((init cmdSettings).addPackets slowChat).rows entryOrder).map (fun row =>
        (row.flowStartTime, row.flowLastSeen)) = [(1000000, 10500000), (200000000, 201500000)] ∧
      (((init cmdSettings).addPackets slowChat).rows entryOrder).Pairwise fun row row' =>
        row'.Of row.key ∧ row.flowLastSeen ≤ row'.flowStartTime := by
  have horder : Chronological slowChat := by decide
  have hrows : (((init cmdSettings).addPackets slowChat).rows entryOrder).map (fun row =>
      (row.flowStartTime, row.flowLastSeen)) = [(1000000, 10500000), (200000000, 201500000)] := by
    decide +kernel
  have hof : (((init cmdSettings).addPackets slowChat).rows entryOrder).Pairwise fun row row' =>
      row'.Of row.key := by
    decide +kernel
  refine ⟨horder, hrows, ?_⟩
  have hafter := (flows_in_order cmdSettings entryOrder slowChat horder).2
  exact (hof.and hafter).imp fun h => ⟨h.1, h.2 h.1⟩

end FlowGenerator

end SnortOptimizer.FlowMeter
