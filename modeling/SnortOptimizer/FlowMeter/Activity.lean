import SnortOptimizer.FlowMeter.Features

/-!
# Periods of activity

A flow is active while its packets follow each other within a time, and idle where one keeps it
waiting for longer. The flow meter notes a period when the next one begins, so the last is not noted
at all. It also counts the gaps of more than a second, as subflows.

The packet that closes a flow is not told to the clock of the periods, except by way of the
subflows. As long as the flow may be silent for a second before it counts as idle, that makes no
difference (`flows_active`).
-/

namespace SnortOptimizer.FlowMeter

open Extractor Series

/-! ## Periods of a series of times -/

/-- The gaps that are longer than the threshold. -/
def idlePeriods (threshold : Int) (times : List Int) : List Int :=
  (gaps times).filter fun gap => threshold < gap

/-- The series, cut where it is idle. -/
def activeRuns (threshold : Int) (times : List Int) : List (List Int) :=
  times.splitBy fun a b => b - a ≤ threshold

def span (run : List Int) : Int := run.getLast?.getD 0 - run.head?.getD 0

/-- The lengths of all runs but the last, as far as they have one. -/
def activePeriods (threshold : Int) (times : List Int) : List Int :=
  ((activeRuns threshold times).dropLast.map span).filter fun length => 0 < length

/-- What the clock of the periods shows. -/
structure Clocked (threshold : Int) (times : List Int) (a : Activity) : Prop where
  idle : a.flowIdle.values = idlePeriods threshold times
  active : a.flowActive.values = activePeriods threshold times
  stop : times.getLast? = some a.endActiveTime
  start : ∃ front last, activeRuns threshold times = front ++ [last] ∧
    last.head? = some a.startActiveTime ∧ last.getLast? = some a.endActiveTime

variable {threshold t e : Int} {times : List Int} {a : Activity}

theorem idlePeriods_concat (h : times.getLast? = some e) : idlePeriods threshold (times ++ [t]) =
    idlePeriods threshold times ++ if threshold < t - e then [t - e] else [] := by
  rw [idlePeriods, gaps_concat_of_getLast? h, List.filter_append, List.filter_singleton]
  by_cases hidle : threshold < t - e
  · rw [if_pos hidle, decide_eq_true hidle]
    rfl
  · rw [if_neg hidle, decide_eq_false hidle]
    rfl

/-- After a gap that is too long, the last run is noted. -/
theorem activePeriods_concat_idle {front : List (List Int)} {last : List Int}
    (h : times.getLast? = some e) (hidle : threshold < t - e)
    (hruns : activeRuns threshold times = front ++ [last]) :
    activeRuns threshold (times ++ [t]) = front ++ [last] ++ [[t]] ∧
      activePeriods threshold (times ++ [t]) =
        activePeriods threshold times ++ if 0 < span last then [span last] else [] := by
  have hnew : activeRuns threshold (times ++ [t]) = front ++ [last] ++ [[t]] := by
    rw [← hruns]
    refine splitBy_concat_new fun y hy => ?_
    rw [h, Option.some_inj] at hy
    exact decide_eq_false (by omega)
  refine ⟨hnew, ?_⟩
  rw [activePeriods, hnew, List.dropLast_concat, activePeriods, hruns, List.dropLast_concat,
    List.map_append, List.filter_append, List.map_singleton, List.filter_singleton]
  split
  · next hspan => rw [decide_eq_true hspan, cond_true]
  · next hspan => rw [decide_eq_false hspan, cond_false]

/-- Otherwise nothing is noted. -/
theorem activePeriods_concat_active {front : List (List Int)} {last : List Int}
    (h : times.getLast? = some e) (hactive : t - e ≤ threshold)
    (hruns : activeRuns threshold times = front ++ [last]) :
    activeRuns threshold (times ++ [t]) = front ++ [last ++ [t]] ∧
      activePeriods threshold (times ++ [t]) = activePeriods threshold times := by
  have hsame : activeRuns threshold (times ++ [t]) = front ++ [last ++ [t]] :=
    splitBy_concat_same h (decide_eq_true hactive) hruns
  refine ⟨hsame, ?_⟩
  rw [activePeriods, hsame, List.dropLast_concat, activePeriods, hruns, List.dropLast_concat]

theorem clocked_singleton (threshold t : Int) :
    Clocked threshold [t] { startActiveTime := t, endActiveTime := t } :=
  ⟨rfl, rfl, rfl, [], [t], rfl, rfl, rfl⟩

/-- `updateActiveIdleTime` takes the clock one packet further. -/
theorem Clocked.update (h : Clocked threshold times a) (t : Int) :
    Clocked threshold (times ++ [t]) (a.updateActiveIdleTime t threshold) := by
  obtain ⟨front, last, hruns, hhead, hend⟩ := h.start
  have hne : last ≠ [] := List.ne_nil_of_mem (List.mem_of_getLast? hend)
  have hspan : span last = a.endActiveTime - a.startActiveTime := by
    rw [span, hhead, hend]
    rfl
  unfold Activity.updateActiveIdleTime
  by_cases hidle : threshold < t - a.endActiveTime
  · obtain ⟨hnew, hperiods⟩ := activePeriods_concat_idle h.stop hidle hruns
    rw [if_pos hidle]
    refine ⟨?_, ?_, List.getLast?_concat, front ++ [last], [t], hnew, rfl, rfl⟩
    · rw [SummaryStatistics.values_addValue, idlePeriods_concat h.stop, if_pos hidle, h.idle]
    · rw [hperiods, hspan, ← h.active]
      split
      · rfl
      · exact (List.append_nil _).symm
  · obtain ⟨hsame, hperiods⟩ := activePeriods_concat_active (t := t) h.stop (by omega) hruns
    rw [if_neg hidle]
    refine ⟨?_, ?_, List.getLast?_concat, front, last ++ [t], hsame, ?_, List.getLast?_concat⟩
    · rw [idlePeriods_concat h.stop, if_neg hidle, h.idle, List.append_nil]
    · rw [hperiods, h.active]
    · rw [List.head?_append_of_ne_nil _ hne, hhead]

/-- A second reading at the same time changes nothing. -/
theorem Activity.updateActiveIdleTime_again (hthreshold : 0 ≤ threshold) (a : Activity) (t : Int) :
    (a.updateActiveIdleTime t threshold).updateActiveIdleTime t threshold =
      a.updateActiveIdleTime t threshold := by
  have hstop : (a.updateActiveIdleTime t threshold).endActiveTime = t := by
    unfold updateActiveIdleTime
    split <;> rfl
  rw [updateActiveIdleTime, if_neg (by omega)]
  generalize a.updateActiveIdleTime t threshold = b at hstop
  cases b
  simp_all

/-! ## Flows -/

variable {s : Settings} {packets : List BasicPacketInfo} {flow : BasicFlow}
  {packet : BasicPacketInfo}

theorem not_split_first (packet : BasicPacketInfo) : ¬ Subflows.Split {} packet := by
  simp [Subflows.Split, Subflows.start, second]

theorem opened_activity (packet : BasicPacketInfo) (b : Bool) (t : Int) (id : String) :
    (BasicFlow.opened packet b t id).activity =
      { startActiveTime := packet.timeStamp, endActiveTime := packet.timeStamp } := by
  simp only [BasicFlow.opened, BasicFlow.firstPacket, BasicFlow.directFirst, if_true,
    BasicFlow.update, BasicFlow.checkFlags, BasicFlow.detectUpdateSubflows,
    BasicFlow.updateFlowBulk, if_neg (not_split_first packet)]

theorem opened_subflows (packet : BasicPacketInfo) (b : Bool) (t : Int) (id : String) :
    (BasicFlow.opened packet b t id).subflows =
      { sfLastPacketTS := packet.timeStamp, sfCount := 0, sfAcHelper := packet.timeStamp } := by
  simp only [BasicFlow.opened, BasicFlow.firstPacket, BasicFlow.directFirst, if_true,
    BasicFlow.update, BasicFlow.checkFlags, BasicFlow.detectUpdateSubflows,
    BasicFlow.updateFlowBulk, Subflows.detect, if_neg (not_split_first packet)]
  rfl

theorem countFIN_periods : (flow.countFIN packet).activity = flow.activity ∧
    (flow.countFIN packet).subflows = flow.subflows ∧
    (flow.countFIN packet).activityTimeout = flow.activityTimeout := by
  unfold BasicFlow.countFIN
  split
  · split <;> exact ⟨rfl, rfl, rfl⟩
  · exact ⟨rfl, rfl, rfl⟩

/-- The subflows of a series of times. -/
structure Counted (times : List Int) (f : Subflows) : Prop where
  last : times.getLast? = some f.sfLastPacketTS
  count : f.sfCount = (gaps times).countP fun gap => second < gap

/-- A packet splits the flow exactly if it has been silent for more than a second. -/
theorem Counted.split_iff {f : Subflows} (h : Counted times f) (hpos : ∀ t ∈ times, 0 < t) :
    f.Split packet ↔ second < packet.timeStamp - f.sfLastPacketTS := by
  have hlast := hpos _ (List.mem_of_getLast? h.last)
  rw [Subflows.Split, Subflows.start, if_neg (by omega)]

theorem Counted.detect {f : Subflows} (h : Counted times f) (hpos : ∀ t ∈ times, 0 < t) :
    Counted (times ++ [packet.timeStamp]) (f.detect packet) := by
  have hlast := hpos _ (List.mem_of_getLast? h.last)
  have hstart : f.start packet = f := by rw [Subflows.start, if_neg (by omega)]
  refine ⟨List.getLast?_concat, ?_⟩
  rw [gaps_concat_of_getLast? h.last, List.countP_append, List.countP_singleton, ← h.count]
  simp only [Subflows.detect, hstart, h.split_iff hpos, decide_eq_true_eq]
  split <;> rfl

theorem Grown.activityTimeout (h : Grown s packets flow) :
    flow.activityTimeout = s.flowActivityTimeOut := by
  induction h with
  | opened packet =>
      simp only [BasicFlow.opened, BasicFlow.firstPacket, BasicFlow.directFirst, if_true,
        (BasicFlow.update_same _ packet).activityTimeout]
  | @expired _ _ packet _ _ _ _ =>
      simp only [BasicFlow.successor, BasicFlow.reopened, BasicFlow.opened, BasicFlow.firstPacket,
        BasicFlow.directFirst, if_true, (BasicFlow.update_same _ packet).activityTimeout]
  | joined _ _ _ ih =>
      rw [BasicFlow.joined_same.activityTimeout, countFIN_periods.2.2, ih]
  | dropped _ _ _ ih => rw [countFIN_periods.2.2, ih]

/-- The times of the packets of a flow, as its clocks have them. -/
theorem Grown.clocked (h : Grown s packets flow) (hthreshold : second ≤ s.flowActivityTimeOut)
    (hpos : ∀ p ∈ packets, 0 < p.timeStamp) :
    Clocked s.flowActivityTimeOut (packets.map (·.timeStamp)) flow.activity ∧
      Counted (packets.map (·.timeStamp)) flow.subflows := by
  have hsecond : 0 ≤ s.flowActivityTimeOut := by
    rw [second] at hthreshold
    omega
  induction h with
  | opened packet =>
      rw [opened_activity, opened_subflows]
      exact ⟨clocked_singleton _ _, rfl, rfl⟩
  | @expired _ flow packet _ _ _ _ =>
      have hactivity : (flow.successor s packet).activity =
          { startActiveTime := packet.timeStamp, endActiveTime := packet.timeStamp } := by
        simp only [BasicFlow.successor, BasicFlow.reopened, opened_activity]
      have hsubflows : (flow.successor s packet).subflows =
          { sfLastPacketTS := packet.timeStamp, sfCount := 0, sfAcHelper := packet.timeStamp } := by
        simp only [BasicFlow.successor, BasicFlow.reopened, opened_subflows]
      rw [hactivity, hsubflows]
      exact ⟨clocked_singleton _ _, rfl, rfl⟩
  | @joined packets flow packet hgrown _ _ ih =>
      have hpos' : ∀ p ∈ packets, 0 < p.timeStamp := fun p hp =>
        hpos p (List.mem_append_left _ hp)
      obtain ⟨hclocked, hcounted⟩ := ih hpos'
      have htimes : ∀ t ∈ packets.map (·.timeStamp), 0 < t := by
        simpa using hpos'
      -- the clock is read twice if the packet splits the flow
      have hactivity : (flow.joined s packet).activity =
          flow.activity.updateActiveIdleTime packet.timeStamp s.flowActivityTimeOut := by
        simp only [BasicFlow.joined, BasicFlow.addPacket_activity, BasicFlow.updateActiveIdleTime,
          countFIN_periods.1, countFIN_periods.2.2, hgrown.activityTimeout]
        rw [Activity.updateActiveIdleTime_again hsecond, ite_self]
      have hsubflows : (flow.joined s packet).subflows = flow.subflows.detect packet := by
        simp only [BasicFlow.joined, BasicFlow.addPacket_subflows, BasicFlow.updateActiveIdleTime,
          countFIN_periods.2.1]
      rw [hactivity, hsubflows, List.map_append]
      exact ⟨hclocked.update _, hcounted.detect htimes⟩
  | dropped _ _ _ ih =>
      rw [countFIN_periods.1, countFIN_periods.2.1]
      exact ih hpos

/-- What is noted of a flow, whether or not its last packet was told to the clock. -/
structure Periods (s : Settings) (packets : List BasicPacketInfo) (flow : BasicFlow) : Prop where
  idle : flow.activity.flowIdle.values =
    idlePeriods s.flowActivityTimeOut (packets.map (·.timeStamp))
  active : flow.activity.flowActive.values =
    activePeriods s.flowActivityTimeOut (packets.map (·.timeStamp))
  subflows : flow.subflows.sfCount =
    (gaps (packets.map (·.timeStamp))).countP fun gap => second < gap

theorem Over.periods {capture : List BasicPacketInfo} (h : Over s capture packets flow)
    (hthreshold : second ≤ s.flowActivityTimeOut) (hpos : ∀ p ∈ packets, 0 < p.timeStamp) :
    Periods s packets flow := by
  cases h with
  | expired _ hgrown _ _ _ _ =>
      obtain ⟨hclocked, hcounted⟩ := hgrown.clocked hthreshold hpos
      exact ⟨hclocked.idle, hclocked.active, hcounted.count⟩
  | @finished packets flow packet hgrown _ _ _ =>
      have hpos' : ∀ p ∈ packets, 0 < p.timeStamp := fun p hp =>
        hpos p (List.mem_append_left _ hp)
      have htimes : ∀ t ∈ packets.map (·.timeStamp), 0 < t := by
        simpa using hpos'
      obtain ⟨hclocked, hcounted⟩ := hgrown.clocked hthreshold hpos'
      have hsubflows : (flow.finished packet).subflows = flow.subflows.detect packet := by
        simp only [BasicFlow.finished, BasicFlow.addPacket_subflows, countFIN_periods.2.1]
      have hactivity : (flow.finished packet).activity =
          if flow.subflows.Split packet then
            flow.activity.updateActiveIdleTime packet.timeStamp s.flowActivityTimeOut
          else flow.activity := by
        simp only [BasicFlow.finished, BasicFlow.addPacket_activity, countFIN_periods.1,
          countFIN_periods.2.1, countFIN_periods.2.2, hgrown.activityTimeout]
      have hcount : (flow.finished packet).subflows.sfCount =
          (gaps ((packets ++ [packet]).map (·.timeStamp))).countP fun gap => second < gap := by
        rw [hsubflows, List.map_append]
        exact (hcounted.detect htimes).count
      by_cases hsplit : flow.subflows.Split packet
      · rw [if_pos hsplit] at hactivity
        have hupdate := hclocked.update packet.timeStamp
        refine ⟨?_, ?_, hcount⟩
        · rw [hactivity, List.map_append, List.map_singleton, hupdate.idle]
        · rw [hactivity, List.map_append, List.map_singleton, hupdate.active]
      · -- less than a second: the flow is active all the same
        rw [if_neg hsplit] at hactivity
        rw [hcounted.split_iff htimes] at hsplit
        have hlast : flow.subflows.sfLastPacketTS = flow.activity.endActiveTime :=
          Option.some.inj (hcounted.last.symm.trans hclocked.stop)
        have hsoon : packet.timeStamp - flow.activity.endActiveTime ≤ s.flowActivityTimeOut := by
          omega
        obtain ⟨front, last, hruns, -⟩ := hclocked.start
        refine ⟨?_, ?_, hcount⟩
        · rw [hactivity, List.map_append, List.map_singleton, idlePeriods_concat hclocked.stop,
            if_neg (by omega), List.append_nil, hclocked.idle]
        · rw [hactivity, List.map_append, List.map_singleton,
            (activePeriods_concat_active hclocked.stop hsoon hruns).2, hclocked.active]

/-- **Periods of activity**: what a row says of them is what the times of its packets say. -/
theorem flows_active (s : Settings) (order : ValueOrder) (capture : List BasicPacketInfo)
    (hthreshold : second ≤ s.flowActivityTimeOut) (hpos : ∀ p ∈ capture, 0 < p.timeStamp) :
    ∀ row ∈ ((FlowGenerator.init s).addPackets capture).rows order, ∃ packets,
      packets.Sublist capture ∧ row.packets.Perm packets ∧
      row.activity.flowIdle.values =
        idlePeriods s.flowActivityTimeOut (packets.map (·.timeStamp)) ∧
      row.activity.flowActive.values =
        activePeriods s.flowActivityTimeOut (packets.map (·.timeStamp)) ∧
      row.subflows.sfCount =
        (gaps (packets.map (·.timeStamp))).countP fun gap => second < gap := by
  intro row hrow
  have htracked := FlowGenerator.tracked_addPackets s capture
  rcases List.mem_append.mp hrow with hrow | hrow
  · obtain ⟨packets, hover⟩ := htracked.generated row hrow
    have hperiods := hover.periods hthreshold fun p hp => hpos p (hover.sublist.subset hp)
    exact ⟨packets, hover.sublist, hover.spans.perm, hperiods.idle, hperiods.active,
      hperiods.subflows⟩
  · obtain ⟨e, he, rfl⟩ :=
      List.mem_map.mp ((order.perm _).mem_iff.mp (List.mem_filter.mp hrow).1)
    obtain ⟨-, packets, hsub, hgrown⟩ := htracked.current e.1 e.2 (AList.mem_lookup_iff.mpr he)
    obtain ⟨hclocked, hcounted⟩ :=
      hgrown.clocked hthreshold fun p hp => hpos p (hsub.subset hp)
    exact ⟨packets, hsub, hgrown.spans.perm, hclocked.idle, hclocked.active, hcounted.count⟩

/-- The first row has an idle period and, before it, an active one. Both rows have a gap of more
than a second. -/
theorem slowChat_active : second ≤ FlowGenerator.cmdSettings.flowActivityTimeOut ∧
    (∀ p ∈ FlowGenerator.slowChat, 0 < p.timeStamp) ∧
    (((FlowGenerator.init FlowGenerator.cmdSettings).addPackets FlowGenerator.slowChat).rows
      FlowGenerator.entryOrder).map (fun row => (row.activity.flowIdle.values,
        row.activity.flowActive.values, row.subflows.sfCount)) =
      [([8600000], [400000], 1), ([], [], 1)] ∧
    ∀ row ∈ ((FlowGenerator.init FlowGenerator.cmdSettings).addPackets
      FlowGenerator.slowChat).rows FlowGenerator.entryOrder, ∃ packets : List BasicPacketInfo,
        packets.Sublist FlowGenerator.slowChat ∧ row.packets.Perm packets ∧
        row.activity.flowIdle.values = idlePeriods 5000000 (packets.map (·.timeStamp)) ∧
        row.activity.flowActive.values = activePeriods 5000000 (packets.map (·.timeStamp)) ∧
        row.subflows.sfCount =
          (gaps (packets.map (·.timeStamp))).countP fun gap => second < gap := by
  have hthreshold : second ≤ FlowGenerator.cmdSettings.flowActivityTimeOut := by decide
  have hpos : ∀ p ∈ FlowGenerator.slowChat, 0 < p.timeStamp := by decide
  exact ⟨hthreshold, hpos, by decide +kernel, flows_active FlowGenerator.cmdSettings
    FlowGenerator.entryOrder FlowGenerator.slowChat hthreshold hpos⟩

end SnortOptimizer.FlowMeter
