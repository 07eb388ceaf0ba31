import SnortOptimizer.FlowMeter.Activity

/-!
# Bulk transfers

Packets with data that follow each other within a second make a run; a run of four or more is a bulk
transfer. The flow meter keeps count of them as the packets come, and the counts are those of the
runs (`flows_bulk`). Only they are not the counts of a direction: no packet is taken for a forward
one, so all of them are in the backward count, and the forward one stays at nothing.
-/

namespace SnortOptimizer.FlowMeter

open Extractor Series

/-! ## The runs of a series of packets -/

/-- The packets with data, cut where there is more than a second between two of them. -/
def bulkRuns (packets : List BasicPacketInfo) : List (List BasicPacketInfo) :=
  (packets.filter fun p => 0 < p.payloadBytes).splitBy fun p q =>
    q.timeStamp - p.timeStamp ≤ second

/-- A sum over the bulk transfers among some runs. -/
def bulkTotal (f : List BasicPacketInfo → Int) (runs : List (List BasicPacketInfo)) : Int :=
  ((runs.filter fun run => 4 ≤ run.length).map f).sum

def runSize (run : List BasicPacketInfo) : Int := (run.map (·.payloadBytes)).sum

def runSpan (run : List BasicPacketInfo) : Int := span (run.map (·.timeStamp))

theorem bulkTotal_concat (f : List BasicPacketInfo → Int) (front : List (List BasicPacketInfo))
    (run : List BasicPacketInfo) :
    bulkTotal f (front ++ [run]) = bulkTotal f front + if 4 ≤ run.length then f run else 0 := by
  rw [bulkTotal, List.filter_append, List.map_append, List.sum_append, List.filter_singleton,
    bulkTotal]
  split
  · next h =>
      rw [decide_eq_true h, cond_true]
      simp
  · next h =>
      rw [decide_eq_false h, cond_false]
      simp

theorem runSpan_concat {run : List BasicPacketInfo} {a b : Int}
    (hhead : run.head?.map (·.timeStamp) = some a) (hlast : run.getLast?.map (·.timeStamp) = some b)
    (packet : BasicPacketInfo) : runSpan run = b - a ∧
      runSpan (run ++ [packet]) = packet.timeStamp - a := by
  have hne : run.map (·.timeStamp) ≠ [] := by
    intro hnil
    rw [List.map_eq_nil_iff] at hnil
    rw [hnil] at hhead
    cases hhead
  constructor
  · rw [runSpan, span, List.getLast?_map, List.head?_map, hhead, hlast]
    rfl
  · rw [runSpan, span, List.map_append, List.map_singleton, List.getLast?_concat,
      List.head?_append_of_ne_nil _ hne, List.head?_map, hhead]
    rfl

theorem runSize_concat (run : List BasicPacketInfo) (packet : BasicPacketInfo) :
    runSize (run ++ [packet]) = runSize run + packet.payloadBytes := by
  simp [runSize]

/-! ## The counters -/

/-- The helpers say what the last run is, if there is one. -/
def Helped (runs : List (List BasicPacketInfo)) (b : Bulk) : Prop :=
  match runs.getLast? with
  | none => b.startHelper = 0
  | some run => run.head?.map (·.timeStamp) = some b.startHelper ∧
      run.getLast?.map (·.timeStamp) = some b.lastBulkTS ∧
      b.packetCountHelper = run.length ∧ b.sizeHelper = runSize run

/-- The counters of the bulk transfers among these packets. -/
structure Transfers (packets : List BasicPacketInfo) (b : Bulk) : Prop where
  stateCount : b.stateCount = bulkTotal (fun _ => 1) (bulkRuns packets)
  packetCount : b.packetCount = bulkTotal (fun run => run.length) (bulkRuns packets)
  sizeTotal : b.sizeTotal = bulkTotal runSize (bulkRuns packets)
  duration : b.duration = bulkTotal runSpan (bulkRuns packets)
  helped : Helped (bulkRuns packets) b

variable {packets : List BasicPacketInfo} {packet : BasicPacketInfo} {b : Bulk}

/-- A run of one packet is no bulk transfer. -/
theorem bulkTotal_begin (f : List BasicPacketInfo → Int) (runs : List (List BasicPacketInfo))
    (packet : BasicPacketInfo) : bulkTotal f (runs ++ [[packet]]) = bulkTotal f runs := by
  rw [bulkTotal_concat, if_neg (by simp)]
  omega

theorem Transfers.begin (h : Transfers packets b)
    (hruns : bulkRuns (packets ++ [packet]) = bulkRuns packets ++ [[packet]]) :
    Transfers (packets ++ [packet]) (b.begin packet) := by
  refine ⟨?_, ?_, ?_, ?_, ?_⟩
  · rw [hruns, bulkTotal_begin, ← h.stateCount]
    rfl
  · rw [hruns, bulkTotal_begin, ← h.packetCount]
    rfl
  · rw [hruns, bulkTotal_begin, ← h.sizeTotal]
    rfl
  · rw [hruns, bulkTotal_begin, ← h.duration]
    rfl
  · rw [hruns, Helped, List.getLast?_concat]
    exact ⟨rfl, rfl, rfl, by simp [Bulk.begin, runSize]⟩

/-- A packet joins the last run: the fourth one makes it a bulk transfer, and those after it add to
it. -/
theorem Transfers.add {front : List (List BasicPacketInfo)} {run : List BasicPacketInfo}
    (h : Transfers packets b) (hbefore : bulkRuns packets = front ++ [run])
    (hruns : bulkRuns (packets ++ [packet]) = front ++ [run ++ [packet]]) :
    Transfers (packets ++ [packet]) (b.add packet) := by
  have hhelped := h.helped
  rw [Helped, hbefore, List.getLast?_concat] at hhelped
  obtain ⟨hhead, hlast, hcount, hsize⟩ := hhelped
  obtain ⟨hspan, hspan'⟩ := runSpan_concat hhead hlast packet
  have hstate := h.stateCount
  have hpackets := h.packetCount
  have htotal := h.sizeTotal
  have hduration := h.duration
  rw [hbefore, bulkTotal_concat] at hstate hpackets htotal hduration
  have hlen : ((run ++ [packet]).length : Int) = run.length + 1 := by simp
  refine ⟨?_, ?_, ?_, ?_, ?_⟩
  · rw [hruns, bulkTotal_concat]
    grind [Bulk.add]
  · rw [hruns, bulkTotal_concat, hlen]
    grind [Bulk.add]
  · rw [hruns, bulkTotal_concat, runSize_concat]
    grind [Bulk.add]
  · rw [hruns, bulkTotal_concat, hspan']
    grind [Bulk.add]
  · rw [hruns, Helped, List.getLast?_concat]
    have hne : run ≠ [] := by
      rintro rfl
      cases hhead
    refine ⟨?_, ?_, ?_, ?_⟩
    · rw [List.head?_append_of_ne_nil _ hne, hhead]
      grind [Bulk.add]
    · rw [List.getLast?_concat, Option.map_some]
      rfl
    · rw [hlen]
      grind [Bulk.add]
    · rw [runSize_concat]
      grind [Bulk.add]

theorem bulkRuns_concat_empty (packets : List BasicPacketInfo) (h : packet.payloadBytes ≤ 0) :
    bulkRuns (packets ++ [packet]) = bulkRuns packets := by
  rw [bulkRuns, List.filter_append, List.filter_singleton, decide_eq_false (by omega), cond_false,
    List.append_nil, bulkRuns]

theorem filter_concat_payload (packets : List BasicPacketInfo) (h : 0 < packet.payloadBytes) :
    (packets ++ [packet]).filter (fun p => 0 < p.payloadBytes) =
      packets.filter (fun p => 0 < p.payloadBytes) ++ [packet] := by
  rw [List.filter_append, List.filter_singleton, decide_eq_true h, cond_true]

/-- `update` takes the counters one packet further. The start of a run serves as a sign that there
is one, so no packet may come at time zero. -/
theorem Transfers.update (h : Transfers packets b) (hpos : ∀ p ∈ packets, 0 < p.timeStamp) :
    Transfers (packets ++ [packet]) (b.update packet 0) := by
  -- the start is that of a packet, or zero
  have hstart : 0 ≤ b.startHelper ∧ (b.startHelper = 0 → bulkRuns packets = []) := by
    have hhelped := h.helped
    rw [Helped] at hhelped
    cases hlast : (bulkRuns packets).getLast? with
    | none =>
        rw [hlast] at hhelped
        exact ⟨hhelped.ge, fun _ => List.getLast?_eq_none_iff.mp hlast⟩
    | some run =>
        rw [hlast] at hhelped
        obtain ⟨p, hp, htime⟩ := Option.map_eq_some_iff.mp hhelped.1
        have hmem : p ∈ (bulkRuns packets).flatten :=
          List.mem_flatten.mpr ⟨run, List.mem_of_getLast? hlast, List.mem_of_mem_head? hp⟩
        rw [bulkRuns, List.flatten_splitBy] at hmem
        have := hpos p (List.mem_of_mem_filter hmem)
        exact ⟨by omega, fun hzero => by omega⟩
  have hother : ¬ b.startHelper < 0 := by omega
  simp only [Bulk.update, if_neg hother]
  by_cases hpayload : packet.payloadBytes ≤ 0
  · have hruns := bulkRuns_concat_empty packets hpayload
    rw [if_pos hpayload]
    exact ⟨hruns ▸ h.1, hruns ▸ h.2, hruns ▸ h.3, hruns ▸ h.4, hruns ▸ h.5⟩
  · rw [if_neg hpayload]
    have hfilter := filter_concat_payload packets (Int.not_le.mp hpayload)
    by_cases hnone : b.startHelper = 0
    · have hnil := hstart.2 hnone
      rw [if_pos hnone]
      refine h.begin ?_
      rw [bulkRuns, List.splitBy_eq_nil] at hnil
      rw [bulkRuns, hfilter, bulkRuns, hnil]
      rfl
    · rw [if_neg hnone]
      cases hlast : (packets.filter fun p => 0 < p.payloadBytes).getLast? with
      | none =>
          rw [List.getLast?_eq_none_iff] at hlast
          have hhelped := h.helped
          rw [Helped, bulkRuns, hlast] at hhelped
          exact absurd hhelped hnone
      | some q =>
          obtain ⟨front, run, hruns, hend⟩ :=
            exists_last_run (r := fun p q : BasicPacketInfo =>
              decide (q.timeStamp - p.timeStamp ≤ second)) hlast
          have hhelped := h.helped
          rw [Helped, bulkRuns, hruns, List.getLast?_concat] at hhelped
          have htime : q.timeStamp = b.lastBulkTS := by
            have hq := hhelped.2.1
            rw [hend] at hq
            exact Option.some.inj hq
          by_cases hgap : second < packet.timeStamp - b.lastBulkTS
          · rw [if_pos hgap]
            refine h.begin ?_
            rw [bulkRuns, hfilter, bulkRuns]
            refine splitBy_concat_new fun y hy => ?_
            rw [hlast, Option.some_inj] at hy
            rw [← hy, htime]
            exact decide_eq_false (by omega)
          · rw [if_neg hgap]
            refine h.add hruns ?_
            rw [bulkRuns, hfilter]
            refine splitBy_concat_same hlast ?_ hruns
            rw [htime]
            exact decide_eq_true (by omega)

theorem transfers_nil : Transfers [] {} := ⟨rfl, rfl, rfl, rfl, rfl⟩

/-! ## Flows -/

variable {s : Settings} {flow : BasicFlow}

/-- The forward counters are never touched, the backward ones are those of all packets. -/
structure Bulked (packets : List BasicPacketInfo) (flow : BasicFlow) : Prop where
  fbulk : flow.fbulk = {}
  bbulk : Transfers packets flow.bbulk

theorem opened_bulk (packet : BasicPacketInfo) (b : Bool) (t : Int) (id : String) :
    (BasicFlow.opened packet b t id).fbulk = {} ∧
      (BasicFlow.opened packet b t id).bbulk = Bulk.update {} packet 0 := by
  simp only [BasicFlow.opened, BasicFlow.firstPacket, BasicFlow.directFirst, if_true,
    BasicFlow.update, BasicFlow.checkFlags, BasicFlow.detectUpdateSubflows,
    BasicFlow.updateFlowBulk, BasicFlow.sameArray, Bool.false_eq_true, if_false, and_self]

theorem bulked_opened (packet : BasicPacketInfo) (b : Bool) (t : Int) (id : String) :
    Bulked [packet] (BasicFlow.opened packet b t id) := by
  obtain ⟨hf, hb⟩ := opened_bulk packet b t id
  refine ⟨hf, ?_⟩
  rw [hb]
  exact transfers_nil.update (by simp)

theorem Bulked.addPacket (h : Bulked packets flow) (hpos : ∀ p ∈ packets, 0 < p.timeStamp) :
    Bulked (packets ++ [packet]) (flow.addPacket packet) := by
  obtain ⟨hf, hb⟩ := flow.addPacket_bulk packet
  refine ⟨hf.trans h.fbulk, ?_⟩
  rw [hb, h.fbulk]
  exact h.bbulk.update hpos

theorem Bulked.countFIN (h : Bulked packets flow) (packet : BasicPacketInfo) :
    Bulked packets (flow.countFIN packet) := by
  unfold BasicFlow.countFIN
  split
  · split <;> exact ⟨h.1, h.2⟩
  · exact h

theorem Grown.bulked (h : Grown s packets flow) (hpos : ∀ p ∈ packets, 0 < p.timeStamp) :
    Bulked packets flow := by
  induction h with
  | opened packet => exact bulked_opened packet _ _ _
  | @expired _ flow packet _ _ _ _ =>
      have h := bulked_opened packet s.bidirectional s.flowActivityTimeOut
        (FlowMeter.flowId flow.key)
      exact ⟨h.1, h.2⟩
  | @joined packets flow packet _ _ _ ih =>
      have hbefore : ∀ p ∈ packets, 0 < p.timeStamp := fun p hp =>
        hpos p (List.mem_append_left _ hp)
      have h := (ih hbefore).countFIN packet
      have h : Bulked packets ((flow.countFIN packet).updateActiveIdleTime packet.timeStamp
        s.flowActivityTimeOut) := ⟨h.1, h.2⟩
      exact h.addPacket hbefore
  | dropped _ _ _ ih => exact (ih hpos).countFIN _

theorem Over.bulked {capture : List BasicPacketInfo} (h : Over s capture packets flow)
    (hpos : ∀ p ∈ packets, 0 < p.timeStamp) : Bulked packets flow := by
  cases h with
  | expired _ hgrown _ _ _ _ => exact hgrown.bulked hpos
  | @finished packets flow packet hgrown _ _ _ =>
      have hbefore : ∀ p ∈ packets, 0 < p.timeStamp := fun p hp =>
        hpos p (List.mem_append_left _ hp)
      exact ((hgrown.bulked hbefore).countFIN packet).addPacket hbefore

/-- **Bulk transfers**: the counts of a row are those of the runs of its packets, in both directions
together, and its forward counts are nothing. -/
theorem flows_bulk (s : Settings) (order : ValueOrder) (capture : List BasicPacketInfo)
    (hpos : ∀ p ∈ capture, 0 < p.timeStamp) :
    ∀ row ∈ ((FlowGenerator.init s).addPackets capture).rows order, row.fbulk = {} ∧
      ∃ packets, packets.Sublist capture ∧ row.packets.Perm packets ∧
        row.bbulk.stateCount = bulkTotal (fun _ => 1) (bulkRuns packets) ∧
        row.bbulk.packetCount = bulkTotal (fun run => run.length) (bulkRuns packets) ∧
        row.bbulk.sizeTotal = bulkTotal runSize (bulkRuns packets) ∧
        row.bbulk.duration = bulkTotal runSpan (bulkRuns packets) := by
  intro row hrow
  have htracked := FlowGenerator.tracked_addPackets s capture
  rcases List.mem_append.mp hrow with hrow | hrow
  · obtain ⟨packets, hover⟩ := htracked.generated row hrow
    have h := hover.bulked fun p hp => hpos p (hover.sublist.subset hp)
    exact ⟨h.fbulk, packets, hover.sublist, hover.spans.perm, h.bbulk.stateCount,
      h.bbulk.packetCount, h.bbulk.sizeTotal, h.bbulk.duration⟩
  · obtain ⟨e, he, rfl⟩ :=
      List.mem_map.mp ((order.perm _).mem_iff.mp (List.mem_filter.mp hrow).1)
    obtain ⟨-, packets, hsub, hgrown⟩ := htracked.current e.1 e.2 (AList.mem_lookup_iff.mpr he)
    have h := hgrown.bulked fun p hp => hpos p (hsub.subset hp)
    exact ⟨h.fbulk, packets, hsub, hgrown.spans.perm, h.bbulk.stateCount, h.bbulk.packetCount,
      h.bbulk.sizeTotal, h.bbulk.duration⟩

/-- The first five packets are a bulk transfer, whichever way they go. -/
theorem slowChat_bulk : (∀ p ∈ FlowGenerator.slowChat, 0 < p.timeStamp) ∧
    (((FlowGenerator.init FlowGenerator.cmdSettings).addPackets FlowGenerator.slowChat).rows
      FlowGenerator.entryOrder).map (fun row => (row.bbulk.stateCount, row.bbulk.packetCount,
        row.bbulk.sizeTotal, row.bbulk.duration)) = [(1, 5, 500, 400000), (0, 0, 0, 0)] ∧
    ∀ row ∈ ((FlowGenerator.init FlowGenerator.cmdSettings).addPackets
      FlowGenerator.slowChat).rows FlowGenerator.entryOrder, row.fbulk = {} ∧
        ∃ packets, packets.Sublist FlowGenerator.slowChat ∧ row.packets.Perm packets ∧
          row.bbulk.stateCount = bulkTotal (fun _ => 1) (bulkRuns packets) ∧
          row.bbulk.packetCount = bulkTotal (fun run => run.length) (bulkRuns packets) ∧
          row.bbulk.sizeTotal = bulkTotal runSize (bulkRuns packets) ∧
          row.bbulk.duration = bulkTotal runSpan (bulkRuns packets) := by
  have hpos : ∀ p ∈ FlowGenerator.slowChat, 0 < p.timeStamp := by decide
  exact ⟨hpos, by decide +kernel, flows_bulk FlowGenerator.cmdSettings FlowGenerator.entryOrder
    FlowGenerator.slowChat hpos⟩

end SnortOptimizer.FlowMeter
