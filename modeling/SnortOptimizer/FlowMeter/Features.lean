import SnortOptimizer.FlowMeter.Timeline
import SnortOptimizer.Series.Gaps

/-!
# What the measurements are

A flow sums up its packets as they come. `Measured` says what the sums are in terms of the packets,
all of them at once: the totals of each direction, the times between arrivals, which add up to the
duration, and the flags. It says as well where the totals are not what their names promise:

* the length of the first packet counts twice, so there is one length more than there are packets;
* `PSH` and `URG` are counted in the first packet only, and backward never;
* the first packet does not count as one with data;
* a backward packet sets the window that is called the initial one, the last of them for good.

`flows_measured` has this for every row, whatever the capture.
-/

namespace SnortOptimizer.FlowMeter

open Extractor Series

/-! ## One direction -/

/-- The sums of one direction. -/
structure Direction.Sums (d : Direction) : Prop where
  pktStats : d.pktStats.values = d.packets.map (·.payloadBytes)
  bytes : d.bytes = (d.packets.map (·.payloadBytes)).sum
  headerBytes : d.headerBytes = (d.packets.map (·.headerBytes)).sum
  iat : d.iat.values = gaps (d.packets.map (·.timeStamp))
  lastSeen : ∀ p, d.packets.getLast? = some p → d.lastSeen = p.timeStamp

namespace Direction

variable {d : Direction} {packet : BasicPacketInfo}

theorem sums_empty : Sums {} := by
  refine ⟨rfl, rfl, rfl, rfl, fun p hp => ?_⟩
  cases hp

theorem sums_first (packet : BasicPacketInfo) : (first {} packet).Sums := by
  refine ⟨rfl, ?_, ?_, rfl, fun p hp => ?_⟩
  · simp [first]
  · simp [first]
  · cases hp
    rfl

/-- The gap to the last packet, if there is one. -/
theorem gaps_packets (h : d.Sums) (packet : BasicPacketInfo) :
    gaps ((d.packets ++ [packet]).map (·.timeStamp)) =
      if d.packets = [] then [] else d.iat.values ++ [packet.timeStamp - d.lastSeen] := by
  split
  · next hnil =>
      rw [hnil]
      rfl
  · next hne =>
      have hlast := List.getLast?_eq_some_getLast hne
      have htime : (d.packets.map (·.timeStamp)).getLast? = some d.lastSeen := by
        rw [List.getLast?_map, hlast, Option.map_some, h.lastSeen _ hlast]
      rw [List.map_append, h.iat]
      exact gaps_concat_of_getLast? htime _

theorem Sums.add (h : d.Sums) (packet : BasicPacketInfo) : (d.add packet).Sums := by
  refine ⟨?_, ?_, ?_, ?_, fun p hp => ?_⟩
  · simp [Direction.add, h.pktStats]
  · simp [Direction.add, h.bytes]
  · simp [Direction.add, h.headerBytes]
  · have hgaps := gaps_packets h packet
    by_cases hnil : d.packets = []
    · rw [if_pos hnil] at hgaps
      have hiat : d.iat.values = [] := by rw [h.iat, hnil]; rfl
      simp only [Direction.add, hgaps]
      simp [hnil, hiat]
    · rw [if_neg hnil] at hgaps
      have hpos := List.length_pos_iff.mpr hnil
      simp only [Direction.add, hgaps, List.length_append, List.length_singleton]
      rw [if_pos (by omega), SummaryStatistics.values_addValue]
  · simp only [Direction.add, List.getLast?_concat, Option.some.injEq] at hp
    simp [Direction.add, hp]

theorem Sums.addOneWay (h : d.Sums) (hne : d.packets ≠ []) (packet : BasicPacketInfo) :
    (d.addOneWay packet).Sums := by
  refine ⟨?_, ?_, ?_, ?_, fun p hp => ?_⟩
  · simp [Direction.addOneWay, h.pktStats]
  · simp [Direction.addOneWay, h.bytes]
  · simp [Direction.addOneWay, h.headerBytes]
  · have hgaps := gaps_packets h packet
    rw [if_neg hne] at hgaps
    simp only [Direction.addOneWay, hgaps, SummaryStatistics.values_addValue]
  · simp only [Direction.addOneWay, List.getLast?_concat, Option.some.injEq] at hp
    simp [Direction.addOneWay, hp]

/-- The window does not matter. -/
theorem Sums.window (h : d.Sums) (w : Int) : Sums { d with init_Win_bytes := w } :=
  ⟨h.1, h.2, h.3, h.4, h.5⟩

end Direction

/-! ## Flows -/

/-- The forward packets: the first one, and those of the side that opened the flow. -/
def forwardOf (s : Settings) (src : Octets) : List BasicPacketInfo → List BasicPacketInfo
  | [] => []
  | first :: rest => first :: rest.filter fun p => !s.bidirectional || src = p.src

def backwardOf (s : Settings) (src : Octets) (packets : List BasicPacketInfo) :
    List BasicPacketInfo :=
  packets.tail.filter fun p => s.bidirectional && src ≠ p.src

/-- What a flow says of its packets. -/
structure Measured (s : Settings) (packets : List BasicPacketInfo) (flow : BasicFlow) : Prop where
  forward_packets : flow.forward.packets = forwardOf s flow.src packets
  backward_packets : flow.backward.packets = backwardOf s flow.src packets
  forward : flow.forward.Sums
  backward : flow.backward.Sums
  flowIAT : flow.flowIAT.values = gaps (packets.map (·.timeStamp))
  flowLengthStats : flow.flowLengthStats.values =
    (packets.head?.map (·.payloadBytes)).toList ++ packets.map (·.payloadBytes)
  flagCounts : ∀ f, flow.flagCounts f = packets.countP (·.hasFlag f)
  psh_cnt : flow.forward.psh_cnt = (packets.take 1).countP (·.flagPSH) ∧ flow.backward.psh_cnt = 0
  urg_cnt : flow.forward.urg_cnt = (packets.take 1).countP (·.flagURG) ∧ flow.backward.urg_cnt = 0
  act_data_pkt_forward : flow.act_data_pkt_forward =
    flow.forward.packets.tail.countP fun p => 1 ≤ p.payloadBytes
  min_seg_size_forward :
    (flow.forward.packets.map (·.headerBytes)).min? = some flow.min_seg_size_forward
  init_Win_bytes : flow.forward.init_Win_bytes = (packets.head?.map (·.tcpWindow)).getD 0 ∧
    flow.backward.init_Win_bytes = (flow.backward.packets.getLast?.map (·.tcpWindow)).getD 0

variable {s : Settings} {packets : List BasicPacketInfo} {flow : BasicFlow}

/-- A flow of one packet. -/
theorem measured_opened (s : Settings) (packet : BasicPacketInfo) (id : String) :
    Measured s [packet] (.opened packet s.bidirectional s.flowActivityTimeOut id) := by
  have hforward := BasicFlow.opened_forward packet s.bidirectional s.flowActivityTimeOut id
  have hbackward := BasicFlow.opened_backward packet s.bidirectional s.flowActivityTimeOut id
  constructor
  · rw [hforward]
    rfl
  · rw [hbackward]
    rfl
  · rw [hforward]
    exact Direction.sums_first packet
  · rw [hbackward]
    exact Direction.sums_empty
  · simp [BasicFlow.opened, BasicFlow.firstPacket, BasicFlow.directFirst, BasicFlow.update,
      BasicFlow.checkFlags, BasicFlow.detectUpdateSubflows, BasicFlow.updateFlowBulk, gaps]
  · simp [BasicFlow.opened, BasicFlow.firstPacket, BasicFlow.directFirst, BasicFlow.update,
      BasicFlow.checkFlags, BasicFlow.detectUpdateSubflows, BasicFlow.updateFlowBulk]
  · intro f
    simp [BasicFlow.opened, BasicFlow.firstPacket, BasicFlow.directFirst, BasicFlow.update,
      BasicFlow.checkFlags, BasicFlow.detectUpdateSubflows, BasicFlow.updateFlowBulk,
      List.countP_singleton]
  · rw [hforward, hbackward]
    simp [Direction.first, List.countP_singleton]
  · rw [hforward, hbackward]
    simp [Direction.first, List.countP_singleton]
  · rw [hforward]
    simp [BasicFlow.opened, BasicFlow.firstPacket, BasicFlow.directFirst, BasicFlow.update,
      BasicFlow.checkFlags, BasicFlow.detectUpdateSubflows, BasicFlow.updateFlowBulk,
      Direction.first]
  · rw [hforward]
    simp [BasicFlow.opened, BasicFlow.firstPacket, BasicFlow.directFirst, Direction.first]
  · rw [hforward, hbackward]
    simp [Direction.first]

/-- The ends do not matter for a flow of one packet. -/
theorem measured_successor (s : Settings) (flow : BasicFlow) (packet : BasicPacketInfo) :
    Measured s [packet] (flow.successor s packet) :=
  have h := measured_opened s packet (flowId flow.key)
  ⟨h.1, h.2, h.3, h.4, h.5, h.6, h.7, h.8, h.9, h.10, h.11, h.12⟩

theorem forwardOf_concat (s : Settings) (src : Octets) (hne : packets ≠ [])
    (packet : BasicPacketInfo) : forwardOf s src (packets ++ [packet]) =
      if s.bidirectional = false ∨ src = packet.src then forwardOf s src packets ++ [packet]
      else forwardOf s src packets := by
  obtain ⟨first, rest, rfl⟩ := List.exists_cons_of_ne_nil hne
  rw [List.cons_append, forwardOf, forwardOf, List.filter_append, List.filter_singleton]
  split
  · next h =>
      have hkeep : (!s.bidirectional || decide (src = packet.src)) = true := by
        rcases h with h | h
        · simp [h]
        · simp [h]
      rw [hkeep, cond_true, List.cons_append]
  · next h =>
      rw [not_or] at h
      have hdrop : (!s.bidirectional || decide (src = packet.src)) = false := by
        simpa using h
      rw [hdrop, cond_false, List.append_nil]

theorem backwardOf_concat (s : Settings) (src : Octets) (hne : packets ≠ [])
    (packet : BasicPacketInfo) : backwardOf s src (packets ++ [packet]) =
      if s.bidirectional = true ∧ src ≠ packet.src then backwardOf s src packets ++ [packet]
      else backwardOf s src packets := by
  rw [backwardOf, List.tail_append_of_ne_nil hne, List.filter_append, List.filter_singleton,
    backwardOf]
  split
  · next h =>
      have hkeep : (s.bidirectional && decide (src ≠ packet.src)) = true := by
        simpa using h
      rw [hkeep, cond_true]
  · next h =>
      have hdrop : (s.bidirectional && decide (src ≠ packet.src)) = false := by
        simpa using h
      rw [hdrop, cond_false, List.append_nil]

/-- One packet more. -/
theorem Measured.addPacket (h : Measured s packets flow)
    (hbi : flow.isBidirectional = s.bidirectional)
    (hlast : packets.getLast?.map (·.timeStamp) = some flow.flowLastSeen)
    (packet : BasicPacketInfo) : Measured s (packets ++ [packet]) (flow.addPacket packet) := by
  have hne : packets ≠ [] := by
    rintro rfl
    cases hlast
  have hsrc : (flow.addPacket packet).src = flow.src := (flow.addPacket_same packet).src
  have hforwardNe : flow.forward.packets ≠ [] := by
    obtain ⟨first, rest, rfl⟩ := List.exists_cons_of_ne_nil hne
    rw [h.forward_packets]
    exact List.cons_ne_nil _ _
  -- by the direction the packet goes
  have hforward := flow.addPacket_forward packet
  have hbackward := flow.addPacket_backward packet
  rw [hbi] at hforward hbackward
  have hpackets : (flow.addPacket packet).forward.packets =
      if s.bidirectional = false ∨ flow.src = packet.src then flow.forward.packets ++ [packet]
      else flow.forward.packets := by
    rw [hforward]
    grind [Direction.add, Direction.addOneWay]
  constructor
  · rw [hsrc, forwardOf_concat s flow.src hne, ← h.forward_packets, hpackets]
  · rw [hsrc, backwardOf_concat s flow.src hne, ← h.backward_packets, hbackward]
    split <;> rfl
  · rw [hforward]
    split
    · split
      · exact h.forward.add packet
      · exact h.forward
    · exact h.forward.addOneWay hforwardNe packet
  · rw [hbackward]
    split
    · exact (h.backward.add packet).window _
    · exact h.backward
  · rw [flow.addPacket_flowIAT, SummaryStatistics.values_addValue, h.flowIAT, List.map_append]
    have htime : (packets.map (·.timeStamp)).getLast? = some flow.flowLastSeen := by
      rw [List.getLast?_map, hlast]
    exact (gaps_concat_of_getLast? htime _).symm
  · rw [flow.addPacket_flowLengthStats, SummaryStatistics.values_addValue, h.flowLengthStats,
      List.head?_append_of_ne_nil _ hne, List.map_append, List.append_assoc]
    rfl
  · intro f
    rw [flow.addPacket_flagCounts, h.flagCounts, List.countP_append, List.countP_singleton]
    split <;> rfl
  · rw [List.take_append_of_le_length (List.length_pos_iff.mpr hne), hforward, hbackward]
    have hpsh := h.psh_cnt
    grind [Direction.add, Direction.addOneWay]
  · rw [List.take_append_of_le_length (List.length_pos_iff.mpr hne), hforward, hbackward]
    have hurg := h.urg_cnt
    grind [Direction.add, Direction.addOneWay]
  · rw [flow.addPacket_act_data, hbi, hpackets, h.act_data_pkt_forward]
    split
    · rw [List.tail_append_of_ne_nil hforwardNe, List.countP_append, List.countP_singleton,
        BasicFlow.countPayload, h.act_data_pkt_forward]
      simp only [decide_eq_true_eq]
      split <;> rfl
    · rfl
  · have hmin := h.min_seg_size_forward
    rw [flow.addPacket_min_seg, hbi, hpackets]
    split
    · rw [List.map_append, List.map_singleton]
      rw [Int.min_comm]
      exact min?_concat hmin _
    · exact hmin
  · rw [List.head?_append_of_ne_nil _ hne, hforward, hbackward]
    have hwin := h.init_Win_bytes
    constructor
    · grind [Direction.add, Direction.addOneWay]
    · split
      · simp [Direction.add]
      · exact hwin.2

/-- The counters of the generator do not matter. -/
theorem Measured.countFIN (h : Measured s packets flow) (packet : BasicPacketInfo) :
    Measured s packets (flow.countFIN packet) := by
  unfold BasicFlow.countFIN
  split
  · split
    · exact ⟨h.1, h.2, h.3, h.4, h.5, h.6, h.7, h.8, h.9, h.10, h.11, h.12⟩
    · exact ⟨h.1, h.2, h.3, h.4, h.5, h.6, h.7, h.8, h.9, h.10, h.11, h.12⟩
  · exact h

theorem Measured.updateActiveIdleTime (h : Measured s packets flow) (t threshold : Int) :
    Measured s packets (flow.updateActiveIdleTime t threshold) :=
  ⟨h.1, h.2, h.3, h.4, h.5, h.6, h.7, h.8, h.9, h.10, h.11, h.12⟩

theorem Grown.measured (h : Grown s packets flow) : Measured s packets flow := by
  induction h with
  | opened packet => exact measured_opened s packet _
  | expired _ _ _ _ => exact measured_successor s _ _
  | @joined packets flow packet hgrown _ _ ih =>
      refine ((ih.countFIN packet).updateActiveIdleTime _ _).addPacket ?_ ?_ packet
      · exact BasicFlow.countFIN_isBidirectional.trans hgrown.isBidirectional
      · exact hgrown.spans.stop.trans (congrArg some BasicFlow.countFIN_flowLastSeen.symm)
  | dropped _ _ _ ih => exact ih.countFIN _

theorem Over.measured {capture : List BasicPacketInfo} (h : Over s capture packets flow) :
    Measured s packets flow := by
  cases h with
  | expired _ hgrown _ _ _ _ => exact hgrown.measured
  | @finished packets flow packet hgrown _ _ _ =>
      refine (hgrown.measured.countFIN packet).addPacket ?_ ?_ packet
      · exact BasicFlow.countFIN_isBidirectional.trans hgrown.isBidirectional
      · exact hgrown.spans.stop.trans (congrArg some BasicFlow.countFIN_flowLastSeen.symm)

/-- Where a row comes from, with what it was measured from. -/
theorem FlowGenerator.Tracked.row_measured {capture : List BasicPacketInfo} {g : FlowGenerator}
    (h : Tracked s capture g) {order : ValueOrder} {row : BasicFlow} (hrow : row ∈ g.rows order) :
    ∃ packets, packets.Sublist capture ∧ Spans s packets row ∧ Measured s packets row := by
  rcases List.mem_append.mp hrow with hrow | hrow
  · obtain ⟨packets, hover⟩ := h.generated row hrow
    exact ⟨packets, hover.sublist, hover.spans, hover.measured⟩
  · obtain ⟨e, he, rfl⟩ :=
      List.mem_map.mp ((order.perm _).mem_iff.mp (List.mem_filter.mp hrow).1)
    obtain ⟨-, packets, hsub, hgrown⟩ := h.current e.1 e.2 (AList.mem_lookup_iff.mpr he)
    exact ⟨packets, hsub, hgrown.spans, hgrown.measured⟩

/-- **What the rows say**: each is the measurement of packets of the capture, taken in their order.
The times between arrivals add up to the duration; the lengths are one more than the packets, and
their sum is too large by the length of the first. -/
theorem flows_measured (s : Settings) (order : ValueOrder) (capture : List BasicPacketInfo) :
    ∀ row ∈ ((FlowGenerator.init s).addPackets capture).rows order, ∃ packets,
      packets.Sublist capture ∧ row.packets.Perm packets ∧ Measured s packets row ∧
      row.flowIAT.getSum = row.flowLastSeen - row.flowStartTime ∧
      row.flowIAT.getN + 1 = packets.length ∧
      row.flowLengthStats.getN = packets.length + 1 ∧
      row.flowLengthStats.getSum = row.forward.bytes + row.backward.bytes +
        (packets.head?.map (·.payloadBytes)).getD 0 := by
  intro row hrow
  obtain ⟨packets, hsub, hspans, hmeasured⟩ :=
    (FlowGenerator.tracked_addPackets s capture).row_measured hrow
  have hne : packets ≠ [] := by
    rintro rfl
    cases hspans.start
  refine ⟨packets, hsub, hspans.perm, hmeasured, ?_, ?_, ?_, ?_⟩
  · rw [SummaryStatistics.getSum, hmeasured.flowIAT]
    refine sum_gaps ?_ ?_
    · rw [List.head?_map, hspans.start]
    · rw [List.getLast?_map, hspans.stop]
  · have hpos := List.length_pos_iff.mpr hne
    rw [SummaryStatistics.getN, hmeasured.flowIAT, length_gaps, List.length_map]
    omega
  · obtain ⟨first, rest, rfl⟩ := List.exists_cons_of_ne_nil hne
    rw [SummaryStatistics.getN, hmeasured.flowLengthStats]
    simp
  · have hbytes : row.forward.bytes + row.backward.bytes =
        (packets.map (·.payloadBytes)).sum := by
      rw [hmeasured.forward.bytes, hmeasured.backward.bytes, ← List.sum_append, ← List.map_append]
      exact (hspans.perm.map _).sum_eq
    rw [SummaryStatistics.getSum, hmeasured.flowLengthStats, hbytes]
    obtain ⟨first, rest, rfl⟩ := List.exists_cons_of_ne_nil hne
    simp
    omega

/-- The row of the first seven packets: they last 9.5 seconds, and one payload counts twice. -/
theorem slowChat_measured : ∃ row ∈ ((FlowGenerator.init FlowGenerator.cmdSettings).addPackets
    FlowGenerator.slowChat).rows FlowGenerator.entryOrder,
      row.flowIAT.getSum = 9500000 ∧ row.flowLengthStats.getSum = 800 ∧ ∃ packets,
        packets.Sublist FlowGenerator.slowChat ∧ Measured FlowGenerator.cmdSettings packets row ∧
        row.flowIAT.getSum = row.flowLastSeen - row.flowStartTime := by
  obtain ⟨row, hrow⟩ := List.length_eq_one_iff.mp FlowGenerator.generated_slowChat
  have hmem : row ∈ ((FlowGenerator.init FlowGenerator.cmdSettings).addPackets
      FlowGenerator.slowChat).rows FlowGenerator.entryOrder :=
    List.mem_append_left _ (hrow ▸ List.mem_cons_self)
  have hsums : ((FlowGenerator.init FlowGenerator.cmdSettings).addPackets
      FlowGenerator.slowChat).generated.map (fun row =>
        (row.flowIAT.getSum, row.flowLengthStats.getSum)) = [(9500000, 800)] := by
    decide +kernel
  rw [hrow, List.map_singleton, List.singleton_inj, Prod.mk.injEq] at hsums
  obtain ⟨packets, hsub, -, hmeasured, hsum, -⟩ := flows_measured FlowGenerator.cmdSettings
    FlowGenerator.entryOrder FlowGenerator.slowChat row hmem
  exact ⟨row, hmem, hsums.1, hsums.2, packets, hsub, hmeasured, hsum⟩

end SnortOptimizer.FlowMeter
