import SnortOptimizer.Analyser.Flow
import SnortOptimizer.Counting.Basic
import Mathlib.Algebra.BigOperators.Ring.Finset
import Mathlib.Algebra.Order.Field.Rat
import Mathlib.Data.List.Induction

/-!
# Judging a rule set (`analyser/sql/eval.go`, `analyser/sql/rule_fp.go`)

`evaluateAlerts` counts flows over all alerts of a run, `buildRuleFPStats` counts flows for every
rule on its own. The two aggregations are written separately: the first collects the alerted flows
and walks over the flow list, the second walks over the alerts and remembers per rule which flows
it has seen.

Both are shown to count sets of flows. What trimming a set of rules can do to the overall numbers is
then bounded by the per-rule numbers of the rules that go (`evaluateAlerts_trim_bounds`).
-/

namespace SnortOptimizer.Analyser

open Counting

/-- The result of an evaluation; rates are exact. -/
structure Evaluation where
  totalFlows : Nat
  benignFlows : Nat
  maliciousFlows : Nat
  alertedFlows : Nat
  falsePositiveFlows : Nat
  detectedMaliciousFlows : Nat
  missedFlows : Nat
  unmatchedAlertFlows : Nat
  falsePositiveRate : ℚ
  missRate : ℚ
  deriving DecidableEq

def Evaluation.zero : Evaluation :=
  { totalFlows := 0, benignFlows := 0, maliciousFlows := 0, alertedFlows := 0
    falsePositiveFlows := 0, detectedMaliciousFlows := 0, missedFlows := 0
    unmatchedAlertFlows := 0, falsePositiveRate := 0, missRate := 0 }

/-- One flow in the loop of `evaluateAlerts`. -/
def countFlow (alerted : Finset Nat) (eval : Evaluation) (x : FlowRecord × Nat) : Evaluation :=
  if x.1.isBenign then
    { eval with
      benignFlows := eval.benignFlows + 1
      falsePositiveFlows := eval.falsePositiveFlows + if x.2 ∈ alerted then 1 else 0 }
  else if x.1.isMalicious then
    if x.2 ∈ alerted then
      { eval with
        maliciousFlows := eval.maliciousFlows + 1
        detectedMaliciousFlows := eval.detectedMaliciousFlows + 1 }
    else
      { eval with
        maliciousFlows := eval.maliciousFlows + 1
        missedFlows := eval.missedFlows + 1 }
  else eval

def evaluateAlerts (rt : Runtime) (fs : FlowSet) (alerts : List AlertForEval) : Evaluation :=
  let (found, unmatched) := matchAlertsToFlows rt fs alerts
  let alerted := found.foldl (fun m x => insert x.flow m) (∅ : Finset Nat)
  let eval := fs.flows.zipIdx.foldl (countFlow alerted)
    { Evaluation.zero with
      totalFlows := fs.flows.length
      alertedFlows := alerted.card
      unmatchedAlertFlows := unmatched }
  { eval with
    falsePositiveRate :=
      if 0 < eval.totalFlows then eval.falsePositiveFlows / eval.totalFlows else 0
    missRate :=
      if 0 < eval.maliciousFlows then eval.missedFlows / eval.maliciousFlows else 0 }

/-- The numbers kept for one rule, with the flows seen so far. -/
structure RuleFPStat where
  alertedFlows : Nat
  benignAlertedFlows : Nat
  maliciousAlertedFlows : Nat
  unmatchedAlerts : Nat
  seenFlows : Finset Nat

def RuleFPStat.zero : RuleFPStat :=
  { alertedFlows := 0, benignAlertedFlows := 0, maliciousAlertedFlows := 0, unmatchedAlerts := 0
    seenFlows := ∅ }

def ruleKey (gid sid : Int) : String := toString gid ++ ":" ++ toString sid

abbrev RuleFPStats := String → Option RuleFPStat

/-- A lookup in the map; a missing key gives the zero value. -/
def RuleFPStats.get (stats : RuleFPStats) (key : String) : RuleFPStat :=
  (stats key).getD RuleFPStat.zero

/-- What one alert does to the numbers of its rule. -/
def RuleFPStat.addAlert (rt : Runtime) (fs : FlowSet) (stat : RuleFPStat) (alert : AlertForEval) :
    RuleFPStat :=
  match matchAlertToFlow rt fs alert with
  | none => { stat with unmatchedAlerts := stat.unmatchedAlerts + 1 }
  | some i =>
      if i ∈ stat.seenFlows then stat
      else
        let stat := { stat with
          seenFlows := insert i stat.seenFlows
          alertedFlows := stat.alertedFlows + 1 }
        match fs.flows[i]? with
        | none => stat             -- a matched flow exists
        | some flow =>
            if flow.isBenign then { stat with benignAlertedFlows := stat.benignAlertedFlows + 1 }
            else if flow.isMalicious then
              { stat with maliciousAlertedFlows := stat.maliciousAlertedFlows + 1 }
            else stat

def buildRuleFPStats (rt : Runtime) (fs : FlowSet) (alerts : List AlertForEval) : RuleFPStats :=
  alerts.foldl
    (fun stats alert =>
      let key := ruleKey alert.gid alert.sid
      Function.update stats key (some ((stats.get key).addAlert rt fs alert)))
    fun _ => none

/-! ## The sets that are counted -/

variable (rt : Runtime) (fs : FlowSet)

def benignSet : Finset Nat := positions (fun flow => flow.isBenign) fs.flows

/-- A flow marked both ways counts as benign. -/
def maliciousSet : Finset Nat :=
  positions (fun flow => !flow.isBenign && flow.isMalicious) fs.flows

/-- The flows some alert matches. -/
def alertedSet (alerts : List AlertForEval) : Finset Nat :=
  (alerts.filterMap (matchAlertToFlow rt fs)).toFinset

/-- The keys of the alerts that match no flow. -/
def unmatchedSet (alerts : List AlertForEval) : Finset String :=
  ((alerts.filter fun a => (matchAlertToFlow rt fs a).isNone).map alertUnmatchedKey).toFinset

variable {rt fs} {alerts : List AlertForEval}

theorem mem_alertedSet {i : Nat} :
    i ∈ alertedSet rt fs alerts ↔ ∃ a ∈ alerts, matchAlertToFlow rt fs a = some i := by
  rw [alertedSet, List.mem_toFinset, List.mem_filterMap]

theorem alertedSet_append (alerts alerts' : List AlertForEval) :
    alertedSet rt fs (alerts ++ alerts') = alertedSet rt fs alerts ∪ alertedSet rt fs alerts' := by
  rw [alertedSet, List.filterMap_append, List.toFinset_append, alertedSet, alertedSet]

/-! ## The overall numbers -/

theorem foldl_insert_flow (found : List MatchedAlert) (m : Finset Nat) :
    found.foldl (fun m x => insert x.flow m) m = m ∪ (found.map MatchedAlert.flow).toFinset := by
  induction found generalizing m with
  | nil => simp
  | cons x found ih =>
      rw [List.foldl_cons, ih, List.map_cons, List.toFinset_cons,
        Finset.insert_union, Finset.union_insert]

theorem alerted_eq_alertedSet :
    (matchAlertsToFlows rt fs alerts).1.foldl (fun m x => insert x.flow m) ∅ =
      alertedSet rt fs alerts := by
  rw [foldl_insert_flow, matchAlertsToFlows_flows, Finset.empty_union, alertedSet]

theorem foldl_matchAlert_unmatched (alerts : List AlertForEval)
    (acc : List MatchedAlert × Finset String) :
    (alerts.foldl (matchAlert rt fs) acc).2 = acc.2 ∪ unmatchedSet rt fs alerts := by
  induction alerts generalizing acc with
  | nil => simp [unmatchedSet]
  | cons alert alerts ih =>
      rw [List.foldl_cons, ih, matchAlert]
      cases h : matchAlertToFlow rt fs alert with
      | none => simp [unmatchedSet, h, Finset.insert_union, Finset.union_insert]
      | some i => simp [unmatchedSet, h]

theorem matchAlertsToFlows_unmatched (alerts : List AlertForEval) :
    (matchAlertsToFlows rt fs alerts).2 = (unmatchedSet rt fs alerts).card := by
  have hfold : (alerts.foldl (matchAlert rt fs) ([], ∅)).2 = ∅ ∪ unmatchedSet rt fs alerts :=
    foldl_matchAlert_unmatched alerts ([], ∅)
  rw [Finset.empty_union] at hfold
  rw [← hfold]
  rfl

/-- The loop over the flows, counter by counter. -/
theorem foldl_countFlow (alerted : Finset Nat) (xs : List (FlowRecord × Nat))
    (eval : Evaluation) :
    let mal : FlowRecord → Bool := fun flow => !flow.isBenign && flow.isMalicious
    let out := xs.foldl (countFlow alerted) eval
    (out.totalFlows = eval.totalFlows ∧ out.alertedFlows = eval.alertedFlows ∧
      out.unmatchedAlertFlows = eval.unmatchedAlertFlows) ∧
    out.benignFlows = eval.benignFlows + xs.countP (fun x => x.1.isBenign) ∧
    out.falsePositiveFlows = eval.falsePositiveFlows +
      xs.countP (fun x => x.1.isBenign && decide (x.2 ∈ alerted)) ∧
    out.maliciousFlows = eval.maliciousFlows + xs.countP (fun x => mal x.1) ∧
    out.detectedMaliciousFlows = eval.detectedMaliciousFlows +
      xs.countP (fun x => mal x.1 && decide (x.2 ∈ alerted)) ∧
    out.missedFlows = eval.missedFlows +
      xs.countP (fun x => mal x.1 && !decide (x.2 ∈ alerted)) := by
  induction xs generalizing eval with
  | nil => simp
  | cons x xs ih =>
      obtain ⟨⟨h0, h1, h2⟩, h3, h4, h5, h6, h7⟩ := ih (countFlow alerted eval x)
      simp only [List.foldl_cons, List.countP_cons]
      -- benign, malicious or neither, alerted or not: each counter moves as its predicate says
      rw [h0, h1, h2, h3, h4, h5, h6, h7, countFlow]
      cases x.1.isBenign <;> cases x.1.isMalicious <;> by_cases hx : x.2 ∈ alerted <;>
        simp [hx] <;> omega

/-- The evaluation before the rates, counter by counter. -/
theorem evaluateAlerts_numbers (rt : Runtime) (fs : FlowSet) (alerts : List AlertForEval) :
    let alerted := alertedSet rt fs alerts
    let out := evaluateAlerts rt fs alerts
    (out.totalFlows = fs.flows.length ∧ out.alertedFlows = alerted.card ∧
      out.unmatchedAlertFlows = (unmatchedSet rt fs alerts).card) ∧
    out.benignFlows = (benignSet fs).card ∧
    out.falsePositiveFlows = (benignSet fs ∩ alerted).card ∧
    out.maliciousFlows = (maliciousSet fs).card ∧
    out.detectedMaliciousFlows = (maliciousSet fs ∩ alerted).card ∧
    out.missedFlows = (maliciousSet fs \ alerted).card := by
  intro alerted out
  have hcounts := foldl_countFlow alerted fs.flows.zipIdx
    { Evaluation.zero with
      totalFlows := fs.flows.length
      alertedFlows := alerted.card
      unmatchedAlertFlows := (unmatchedSet rt fs alerts).card }
  simp only [countP_zipIdx (p := fun flow : FlowRecord => flow.isBenign),
    countP_zipIdx (p := fun flow : FlowRecord => !flow.isBenign && flow.isMalicious),
    countP_zipIdx_not (p := fun flow : FlowRecord => !flow.isBenign && flow.isMalicious),
    countP_zipIdx_all (p := fun flow : FlowRecord => flow.isBenign),
    countP_zipIdx_all (p := fun flow : FlowRecord => !flow.isBenign && flow.isMalicious),
    Evaluation.zero, Nat.zero_add] at hcounts
  simp only [out, evaluateAlerts, alerted_eq_alertedSet, matchAlertsToFlows_unmatched]
  exact hcounts

theorem evaluateAlerts_congr {alerts alerts' : List AlertForEval}
    (hflows : alertedSet rt fs alerts = alertedSet rt fs alerts')
    (hkeys : unmatchedSet rt fs alerts = unmatchedSet rt fs alerts') :
    evaluateAlerts rt fs alerts = evaluateAlerts rt fs alerts' := by
  simp only [evaluateAlerts, alerted_eq_alertedSet, matchAlertsToFlows_unmatched, hflows, hkeys]

theorem unmatchedSet_append (alerts alerts' : List AlertForEval) :
    unmatchedSet rt fs (alerts ++ alerts') =
      unmatchedSet rt fs alerts ∪ unmatchedSet rt fs alerts' := by
  rw [unmatchedSet, List.filter_append, List.map_append, List.toFinset_append]
  rfl

/-- What the counters of an evaluation count. -/
structure Counts (alerted : Finset Nat) (eval : Evaluation) (fs : FlowSet) : Prop where
  total : eval.totalFlows = fs.flows.length
  falsePositive : eval.falsePositiveFlows = (benignSet fs ∩ alerted).card
  malicious : eval.maliciousFlows = (maliciousSet fs).card
  missed : eval.missedFlows = (maliciousSet fs \ alerted).card
  falsePositiveRate : eval.falsePositiveRate =
    if 0 < eval.totalFlows then (eval.falsePositiveFlows : ℚ) / eval.totalFlows else 0
  missRate : eval.missRate =
    if 0 < eval.maliciousFlows then (eval.missedFlows : ℚ) / eval.maliciousFlows else 0

/-- **The evaluation counts sets of flows.** -/
theorem evaluateAlerts_counts (rt : Runtime) (fs : FlowSet) (alerts : List AlertForEval) :
    Counts (alertedSet rt fs alerts) (evaluateAlerts rt fs alerts) fs := by
  obtain ⟨⟨htotal, _, _⟩, _, hfp, hmal, _, hmissed⟩ := evaluateAlerts_numbers rt fs alerts
  exact ⟨htotal, hfp, hmal, hmissed, rfl, rfl⟩

theorem rate_mem {count total : Nat} (h : count ≤ total) :
    0 ≤ (if 0 < total then (count : ℚ) / total else 0) ∧
      (if 0 < total then (count : ℚ) / total else 0) ≤ 1 := by
  split
  · next hpos =>
      have hpos : (0 : ℚ) < total := Nat.cast_pos.mpr hpos
      refine ⟨div_nonneg (Nat.cast_nonneg _) hpos.le, ?_⟩
      rw [div_le_one₀ hpos]
      exact Nat.cast_le.mpr h
  · exact ⟨le_refl 0, zero_le_one⟩

/-- Rates lie between 0 and 1. -/
theorem Counts.rates {alerted : Finset Nat} {eval : Evaluation} (h : Counts alerted eval fs) :
    (0 ≤ eval.missRate ∧ eval.missRate ≤ 1) ∧
      0 ≤ eval.falsePositiveRate ∧ eval.falsePositiveRate ≤ 1 := by
  rw [h.missRate, h.falsePositiveRate]
  refine ⟨rate_mem ?_, rate_mem ?_⟩
  · rw [h.missed, h.malicious]
    exact Finset.card_le_card Finset.sdiff_subset
  · rw [h.falsePositive, h.total]
    exact (Finset.card_le_card Finset.inter_subset_left).trans card_positions_le

/-! ## The numbers of one rule -/

/-- What the numbers of a rule count: the flows matched by the alerts with its key. -/
structure StatCounts (fs : FlowSet) (seen : Finset Nat) (stat : RuleFPStat) : Prop where
  seen_eq : stat.seenFlows = seen
  alerted : stat.alertedFlows = seen.card
  benign : stat.benignAlertedFlows = (benignSet fs ∩ seen).card
  malicious : stat.maliciousAlertedFlows = (maliciousSet fs ∩ seen).card

/-- The numbers that count these flows, and so many unmatched alerts. -/
def RuleFPStat.counting (fs : FlowSet) (seen : Finset Nat) (unmatched : Nat) : RuleFPStat :=
  { alertedFlows := seen.card
    benignAlertedFlows := (benignSet fs ∩ seen).card
    maliciousAlertedFlows := (maliciousSet fs ∩ seen).card
    unmatchedAlerts := unmatched
    seenFlows := seen }

theorem RuleFPStat.counting_empty : RuleFPStat.counting fs ∅ 0 = RuleFPStat.zero := by
  simp [RuleFPStat.counting, RuleFPStat.zero]

theorem mem_benignSet {i : Nat} {flow : FlowRecord} (h : fs.flows[i]? = some flow) :
    i ∈ benignSet fs ↔ flow.isBenign = true := by
  rw [benignSet, mem_positions]
  constructor
  · rintro ⟨a, ha, hb⟩
    rw [h] at ha
    cases ha
    exact hb
  · intro hb
    exact ⟨flow, h, hb⟩

theorem mem_maliciousSet {i : Nat} {flow : FlowRecord} (h : fs.flows[i]? = some flow) :
    i ∈ maliciousSet fs ↔ flow.isBenign = false ∧ flow.isMalicious = true := by
  rw [maliciousSet, mem_positions]
  constructor
  · rintro ⟨a, ha, hb⟩
    rw [h] at ha
    cases ha
    simpa using hb
  · intro hb
    exact ⟨flow, h, by simpa using hb⟩

/-- Adding one new flow to a count of flows. -/
theorem card_inter_insert {F seen : Finset Nat} {i : Nat} (h : i ∉ seen) :
    (F ∩ insert i seen).card = (F ∩ seen).card + if i ∈ F then 1 else 0 := by
  by_cases hF : i ∈ F
  · rw [Finset.inter_insert_of_mem hF, Finset.card_insert_of_notMem, if_pos hF]
    intro hmem
    exact h (Finset.mem_inter.mp hmem).2
  · rw [Finset.inter_insert_of_notMem hF, if_neg hF, Nat.add_zero]

/-- One alert adds its flow, if it has one, to the flows of its rule. -/
theorem RuleFPStat.counting_addAlert (seen : Finset Nat) (n : Nat) (alert : AlertForEval) :
    (RuleFPStat.counting fs seen n).addAlert rt fs alert =
      RuleFPStat.counting fs (seen ∪ alertedSet rt fs [alert])
        (n + if (matchAlertToFlow rt fs alert).isNone then 1 else 0) := by
  unfold RuleFPStat.addAlert
  cases hm : matchAlertToFlow rt fs alert with
  | none =>
      have hset : alertedSet rt fs [alert] = ∅ := by simp [alertedSet, hm]
      rw [hset, Finset.union_empty]
      rfl
  | some i =>
      have hset : seen ∪ alertedSet rt fs [alert] = insert i seen := by
        simp [alertedSet, hm, Finset.union_comm seen]
      rw [hset]
      dsimp only
      split
      · next hin =>
          rw [Finset.insert_eq_of_mem (show i ∈ seen from hin)]
          rfl
      · next hin =>
          have hin : i ∉ seen := hin
          have hlt := matchAlertToFlow_lt hm
          have hflow : fs.flows[i]? = some fs.flows[i] := List.getElem?_eq_getElem hlt
          have hben := card_inter_insert (F := benignSet fs) hin
          have hmal := card_inter_insert (F := maliciousSet fs) hin
          rw [if_congr (mem_benignSet hflow) rfl rfl] at hben
          rw [if_congr (mem_maliciousSet hflow) rfl rfl] at hmal
          have hcard := Finset.card_insert_of_notMem hin
          rw [hflow]
          cases hb : fs.flows[i].isBenign <;> cases hi : fs.flows[i].isMalicious <;>
            simp [RuleFPStat.counting, hb, hi, hben, hmal, hcard]

/-- The map has an entry for every rule with an alert. -/
theorem buildRuleFPStats_apply (rt : Runtime) (fs : FlowSet) (alerts : List AlertForEval)
    (key : String) :
    let own := alerts.filter fun a => ruleKey a.gid a.sid = key
    buildRuleFPStats rt fs alerts key =
      if own = [] then none
      else some (RuleFPStat.counting fs (alertedSet rt fs own)
        (own.countP fun a => (matchAlertToFlow rt fs a).isNone)) := by
  induction alerts using List.reverseRecOn with
  | nil => rfl
  | append_singleton alerts alert ih =>
      dsimp only at ih ⊢
      rw [buildRuleFPStats, List.foldl_append, List.foldl_cons, List.foldl_nil,
        ← buildRuleFPStats, List.filter_append, List.filter_singleton]
      by_cases hkey : ruleKey alert.gid alert.sid = key
      · rw [decide_eq_true hkey, cond_true, if_neg (by simp), hkey, Function.update_self,
          alertedSet_append, List.countP_append, List.countP_singleton,
          ← RuleFPStat.counting_addAlert, RuleFPStats.get, ih]
        split
        · next hnil =>
            rw [hnil, List.countP_nil]
            show some (RuleFPStat.zero.addAlert rt fs alert) = _
            rw [← RuleFPStat.counting_empty]
            rfl
        · rfl
      · rw [decide_eq_false hkey, cond_false, List.append_nil,
          Function.update_of_ne (Ne.symm hkey)]
        exact ih

theorem buildRuleFPStats_get (rt : Runtime) (fs : FlowSet) (alerts : List AlertForEval)
    (key : String) :
    let own := alerts.filter fun a => ruleKey a.gid a.sid = key
    (buildRuleFPStats rt fs alerts).get key = RuleFPStat.counting fs (alertedSet rt fs own)
      (own.countP fun a => (matchAlertToFlow rt fs a).isNone) := by
  intro own
  rw [RuleFPStats.get, buildRuleFPStats_apply]
  split
  · next hnil =>
      have hown : own = [] := hnil
      rw [hown, List.countP_nil]
      exact RuleFPStat.counting_empty.symm
  · rfl

/-- **The numbers of a rule count the flows matched by its alerts.** -/
theorem buildRuleFPStats_counts (rt : Runtime) (fs : FlowSet) (alerts : List AlertForEval)
    (key : String) :
    StatCounts fs (alertedSet rt fs (alerts.filter fun a => ruleKey a.gid a.sid = key))
      ((buildRuleFPStats rt fs alerts).get key) := by
  rw [buildRuleFPStats_get]
  exact ⟨rfl, rfl, rfl, rfl⟩

/-! ## Trimming -/

/-- The alerts that are left when a set of rules is gone. -/
def withoutRules (R : Finset (Int × Int)) (alerts : List AlertForEval) : List AlertForEval :=
  alerts.filter fun a => (a.gid, a.sid) ∉ R

theorem alertedSet_withoutRules_subset (R : Finset (Int × Int)) :
    alertedSet rt fs (withoutRules R alerts) ⊆ alertedSet rt fs alerts := by
  intro i hi
  obtain ⟨a, ha, hm⟩ := mem_alertedSet.mp hi
  exact mem_alertedSet.mpr ⟨a, (List.mem_filter.mp ha).1, hm⟩

/-- An alerted flow stays alerted, or one of the rules that go had alerted on it. -/
theorem alertedSet_subset_withoutRules (rt : Runtime) (fs : FlowSet) (alerts : List AlertForEval)
    (R : Finset (Int × Int)) :
    alertedSet rt fs alerts ⊆ alertedSet rt fs (withoutRules R alerts) ∪
      R.biUnion fun r => alertedSet rt fs
        (alerts.filter fun a => ruleKey a.gid a.sid = ruleKey r.1 r.2) := by
  intro i hi
  obtain ⟨a, ha, hm⟩ := mem_alertedSet.mp hi
  by_cases hR : (a.gid, a.sid) ∈ R
  · apply Finset.mem_union_right
    refine Finset.mem_biUnion.mpr ⟨(a.gid, a.sid), hR, mem_alertedSet.mpr ⟨a, ?_, hm⟩⟩
    exact List.mem_filter.mpr ⟨ha, decide_eq_true rfl⟩
  · apply Finset.mem_union_left
    exact mem_alertedSet.mpr ⟨a, List.mem_filter.mpr ⟨ha, decide_eq_true hR⟩, hm⟩

/-- **Trimming bounds.** Taking away the alerts of a set of rules raises the number of missed flows
by no more than the malicious flows these rules alerted on, counted rule by rule, and lowers the
number of false positives by no more than their benign ones. -/
theorem evaluateAlerts_trim_bounds (rt : Runtime) (fs : FlowSet) (alerts : List AlertForEval)
    (R : Finset (Int × Int)) :
    let before := evaluateAlerts rt fs alerts
    let after := evaluateAlerts rt fs (withoutRules R alerts)
    let stat (r : Int × Int) := (buildRuleFPStats rt fs alerts).get (ruleKey r.1 r.2)
    before.missedFlows ≤ after.missedFlows ∧
    after.missedFlows ≤ before.missedFlows + ∑ r ∈ R, (stat r).maliciousAlertedFlows ∧
    (before.falsePositiveFlows : Int) - ∑ r ∈ R, ((stat r).benignAlertedFlows : Int) ≤
      after.falsePositiveFlows ∧
    after.falsePositiveFlows ≤ before.falsePositiveFlows := by
  intro before after stat
  have hb := evaluateAlerts_counts rt fs alerts
  have ha := evaluateAlerts_counts rt fs (withoutRules R alerts)
  have hstat (r : Int × Int) := buildRuleFPStats_counts rt fs alerts (ruleKey r.1 r.2)
  have hsub : alertedSet rt fs (withoutRules R alerts) ⊆ alertedSet rt fs alerts :=
    alertedSet_withoutRules_subset R
  have hcover := alertedSet_subset_withoutRules rt fs alerts R
  have hmissed := card_sdiff_le_of_cover (F := maliciousSet fs) hcover
  have hfalse := card_inter_le_of_cover (F := benignSet fs) hcover
  have hsumMal : ∑ r ∈ R, (stat r).maliciousAlertedFlows = ∑ r ∈ R, (maliciousSet fs ∩
      alertedSet rt fs (alerts.filter fun a => ruleKey a.gid a.sid = ruleKey r.1 r.2)).card :=
    Finset.sum_congr rfl fun r _ => (hstat r).malicious
  have hsumBen : ∑ r ∈ R, (stat r).benignAlertedFlows = ∑ r ∈ R, (benignSet fs ∩
      alertedSet rt fs (alerts.filter fun a => ruleKey a.gid a.sid = ruleKey r.1 r.2)).card :=
    Finset.sum_congr rfl fun r _ => (hstat r).benign
  refine ⟨?_, ?_, ?_, ?_⟩
  · rw [hb.missed, ha.missed]
    exact Finset.card_le_card (Finset.sdiff_subset_sdiff (Finset.Subset.refl _) hsub)
  · rw [hb.missed, ha.missed, hsumMal]
    exact hmissed
  · rw [← hsumBen, ← hb.falsePositive, ← ha.falsePositive] at hfalse
    rw [← Nat.cast_sum]
    have hbound : before.falsePositiveFlows ≤
        after.falsePositiveFlows + ∑ r ∈ R, (stat r).benignAlertedFlows := hfalse
    omega
  · rw [hb.falsePositive, ha.falsePositive]
    exact Finset.card_le_card (Finset.inter_subset_inter (Finset.Subset.refl _) hsub)

end SnortOptimizer.Analyser
