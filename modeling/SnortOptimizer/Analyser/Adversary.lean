import SnortOptimizer.Analyser.Search

/-!
# A search in which nothing is accepted

One rule, one flow, and functions that propose to drop the rule whenever they are asked. The flow
is malicious and only run 0 alerts on it, or it is benign and every run but run 0 alerts on it:
either way each candidate is worse than run 0 by as much as a rate can change, and unless the
configuration allows for that it is rolled back.

`Rejecting` is what the search keeps while this goes on. The results are about every configuration:
the search never fails here, and each function that reaches the cut-off leaves the next run id at
the id it used last (`rejecting_rounds`).
-/

namespace SnortOptimizer.Analyser

variable {cfg : Config} {env : Externals} {flows : FlowSet} {s : SearchState}

/-! ## When the stages succeed -/

theorem ensureRuleStore_ready {inst : Instance} {runID : Int} {db : SnortDB}
    (hc : db.created = true) (hrows : runID ≠ 0 → rowsOf db.rules runID ≠ []) :
    ensureRuleStore cfg env inst runID db = .ok db := by
  unfold ensureRuleStore
  by_cases hz : runID = 0
  · rw [if_neg (not_not.mpr hz), if_pos hc]
    rfl
  · have hcreated : ¬ db.created = false := by simp [hc]
    rw [if_pos hz, if_neg hcreated, if_neg (hrows hz)]
    rfl

theorem runInstance_succeeds {clock : Nat} {inst : Instance} {runID : Int} {db : SnortDB}
    (hstore : ensureRuleStore cfg env inst runID db = .ok db)
    (hsnort : ∀ rules, ∃ alerts, env.snort clock inst runID rules = .ok alerts) :
    ∃ db', runInstance cfg env clock inst runID db = .ok db' := by
  obtain ⟨alerts, halerts⟩ := hsnort (listRulesFromDB db.rules runID true)
  unfold runInstance
  refine ⟨_, bind_eq_ok.mpr ⟨db, ?_, bind_eq_ok.mpr ⟨alerts, halerts, rfl⟩⟩⟩
  rw [hstore]
  rfl

theorem runAll_succeeds {clock : Nat} {runID : Int} {dbs : Databases}
    (hc : ∀ i, (dbs.get i).created = true)
    (hrows : runID ≠ 0 → ∀ i, rowsOf (dbs.get i).rules runID ≠ [])
    (hsnort : ∀ clock inst rules, ∃ alerts, env.snort clock inst runID rules = .ok alerts) :
    ∃ dbs', runAll cfg env flows clock runID dbs = .ok dbs' := by
  have hone : ∀ clock i, ∃ db', runInstance cfg env clock i runID (dbs.get i) = .ok db' := by
    intro clock i
    apply runInstance_succeeds
    · exact ensureRuleStore_ready (hc i) fun hz => hrows hz i
    · exact hsnort clock i
  obtain ⟨exp, hexp⟩ := hone clock .exp
  obtain ⟨real, hreal⟩ := hone (clock + 1) .real
  obtain ⟨base, hbase⟩ := hone (clock + 2) .base
  exact ⟨_, bind_eq_ok.mpr ⟨exp, hexp, bind_eq_ok.mpr ⟨real, hreal,
    bind_eq_ok.mpr ⟨base, hbase, rfl⟩⟩⟩⟩

theorem baseline_succeeds (sch : Scheduler) {dbs : Databases}
    (hc : ∀ i, (dbs.get i).created = true)
    (hsnort : ∀ clock inst rules, ∃ alerts, env.snort clock inst 0 rules = .ok alerts)
    (store : AnalyserStore) : ∃ s, baseline sch env flows dbs store = .ok s := by
  obtain ⟨dbs', hdbs⟩ := runAll_succeeds hc (fun hz => absurd rfl hz) hsnort
  exact ⟨_, bind_eq_ok.mpr ⟨dbs', hdbs, rfl⟩⟩

/-- Databases that do not exist yet are all initialised alike. -/
theorem prepareRuleDatabases_empty {db : SnortDB} (hreset : env.resetWorkDir = .ok ())
    (hinit : initRuleDB cfg env .empty = .ok db) (store : AnalyserStore) :
    ∃ store', prepareRuleDatabases cfg env .empty store =
      .ok ({ exp := db, real := db, base := db }, store') := by
  have hstart : ∃ store', startDatabases cfg env .empty store = .ok (.empty, store') := by
    unfold startDatabases
    split
    · exact ⟨store, rfl⟩
    · rw [hreset]
      exact ⟨_, rfl⟩
  have hwrap : ∀ pre, wrapError pre (initRuleDB cfg env .empty) = .ok db := by
    intro pre
    rw [hinit]
    rfl
  obtain ⟨store', hstore⟩ := hstart
  refine ⟨store', bind_eq_ok.mpr ⟨_, hstore, ?_⟩⟩
  exact bind_eq_ok.mpr ⟨_, hwrap _, bind_eq_ok.mpr ⟨_, hwrap _, bind_eq_ok.mpr ⟨_, hwrap _, rfl⟩⟩⟩

/-- A run that has rules can be copied, and Snort then has rules to run with. -/
theorem tryCandidate_succeeds (trimmed : List TrimmedRule) (hne : s.acceptedRunID ≠ s.nextRunID)
    (hrows : ∀ i, rowsOf (s.dbs.get i).rules s.acceptedRunID ≠ [])
    (hsnort : ∀ clock inst rules, ∃ alerts, env.snort clock inst s.nextRunID rules = .ok alerts) :
    ∃ result, tryCandidate cfg env flows s trimmed = .ok result := by
  choose rules hrules _ hcopies using fun i =>
    cloneRulesInDB_eq hne (s.dbs.get i).rules (trimmed.map TrimmedRule.toRuleRef)
  let copied : Databases :=
    { exp := { s.dbs.exp with created := true, rules := rules .exp }
      real := { s.dbs.real with created := true, rules := rules .real }
      base := { s.dbs.base with created := true, rules := rules .base } }
  have hcopied : cloneRulesForRun cfg s.dbs s.acceptedRunID s.nextRunID trimmed = .ok copied := by
    simp only [cloneRulesForRun, hrules, wrapError]
    rfl
  have hcopiedRows : ∀ i, rowsOf (copied.get i).rules s.nextRunID ≠ [] := by
    intro i
    have hi : (copied.get i).rules = rules i := by cases i <;> rfl
    rw [hi, hcopies i]
    exact fun hnil => hrows i (List.map_eq_nil_iff.mp hnil)
  obtain ⟨dbs, hdbs⟩ : ∃ dbs, runAll cfg env flows s.clock s.nextRunID copied = .ok dbs := by
    apply runAll_succeeds
    · intro i
      cases i <;> rfl
    · exact fun _ => hcopiedRows
    · exact hsnort
  exact ⟨_, bind_eq_ok.mpr ⟨copied, hcopied, bind_eq_ok.mpr ⟨dbs, hdbs, rfl⟩⟩⟩

/-! ## One rule and one flow -/

def loneRule : Rule :=
  { sid := 1, gid := 1, rev := 1, action := "alert", proto := "tcp", srcNet := "any"
    srcPort := "any", direction := "->", dstNet := "any", dstPort := "80", msg := "lone"
    classtype := "", enabled := true, sourceFile := "lone.rules"
    rawText := "alert tcp any any -> any 80 (msg:\"lone\"; gid:1; sid:1; rev:1;)" }

def loneFlow (malicious : Bool) : FlowRecord :=
  { id := "1", srcIP := "10.0.0.1", srcPort := 4000, dstIP := "10.0.0.2", dstPort := 80
    protocol := "TCP", start := 946684800000000000, duration := 1000000000
    label := if malicious then "Attack" else "BENIGN"
    isBenign := !malicious, isMalicious := malicious }

def loneFlows (malicious : Bool) : FlowSet :=
  { flows := [loneFlow malicious]
    index := fun key =>
      if key = "10.0.0.1|4000|10.0.0.2|80|TCP" ∨ key = "10.0.0.2|80|10.0.0.1|4000|TCP" then [0]
      else []
    year := 2000
    index_lt := by
      intro key i hi
      split at hi
      · rw [List.mem_singleton.mp hi]
        exact Nat.zero_lt_one
      · cases hi }

def loneAlert : AlertForEval :=
  { id := 1, timestamp := "01/01-00:00:00.500000", proto := "TCP", srcAP := "10.0.0.1:4000"
    dstAP := "10.0.0.2:80", gid := 1, sid := 1, rev := 1 }

/-- Snort alerts on the malicious flow in run 0 only, and on the benign flow in all other runs. -/
def lone (malicious : Bool) : Externals :=
  { rt := { upper := Char.toUpper, local_ := id }
    resetWorkDir := .ok ()
    rawSnortSQLite := .ok [loneRule]
    rawRulePath := .ok [loneRule]
    flows := .ok (loneFlows malicious)
    snort := fun _ _ runID _ => .ok (if decide (runID = 0) = malicious then [loneAlert] else []) }

/-- An ITER function that wants the rule to go whenever it is asked. -/
def persistent : RegisteredFunction :=
  { name := "persistent"
    type := .ITER
    fn := fun _ _ => .ok [
      { gid := 1, sid := 1, rev := 0, sourceFile := "", msg := "", reason := "persistent"
        function := "", type := .ITER, metrics := [] }] }

/-- What `normalizeConfig` makes of a configuration without numbers. -/
def defaultConfig : Config := normalizeNumbers
  { analyserWorkingDir := "/var/lib/snort-optimizer/analyser", rawSnortSQLite := ""
    rawRulePath := "/etc/snort/rules", maxRound := 0, initialFactor := 0
    maxMissRateIncrease := 0, maxFPRateIncrease := 0, preserveWorkDBs := false }

/-- The default configuration, with every change of a rate allowed. -/
def lenientConfig : Config :=
  { defaultConfig with maxMissRateIncrease := 1, maxFPRateIncrease := 1 }

theorem lone_matches (malicious : Bool) :
    matchAlertToFlow (lone malicious).rt (loneFlows malicious) loneAlert = some 0 := by
  cases malicious <;> decide +kernel

variable {malicious : Bool}

theorem lone_alertedSet {alerts : List AlertForEval} (h : ∀ a ∈ alerts, a = loneAlert) :
    alertedSet (lone malicious).rt (loneFlows malicious) alerts =
      if alerts = [] then ∅ else {0} := by
  by_cases hnil : alerts = []
  · rw [if_pos hnil, hnil]
    rfl
  · rw [if_neg hnil]
    ext i
    rw [mem_alertedSet, Finset.mem_singleton]
    constructor
    · rintro ⟨a, ha, hi⟩
      rw [h a ha, lone_matches, Option.some.injEq] at hi
      exact hi.symm
    · rintro rfl
      obtain ⟨a, ha⟩ := List.exists_mem_of_ne_nil alerts hnil
      refine ⟨a, ha, ?_⟩
      rw [h a ha]
      exact lone_matches malicious

/-- A run after run 0: the flow is missed, or a false positive. -/
theorem lone_evaluation_other {alerts : List AlertForEval} (h : ∀ a ∈ alerts, a = loneAlert)
    (hnil : alerts = [] ↔ malicious = true) :
    let eval := evaluateAlerts (lone malicious).rt (loneFlows malicious) alerts
    eval.totalFlows = 1 ∧ eval.maliciousFlows = (if malicious then 1 else 0) ∧
      if malicious then eval.missRate = 1 else eval.falsePositiveRate = 1 := by
  intro eval
  have hcounts := evaluateAlerts_counts (lone malicious).rt (loneFlows malicious) alerts
  have htotal : eval.totalFlows = 1 := hcounts.total
  have hmal : eval.maliciousFlows = if malicious then 1 else 0 := by
    rw [hcounts.malicious]
    cases malicious <;> rfl
  refine ⟨htotal, hmal, ?_⟩
  cases malicious with
  | true =>
      have hmissed : eval.missedFlows = 1 := by
        rw [hcounts.missed, lone_alertedSet h, if_pos (hnil.mpr rfl)]
        rfl
      rw [if_pos rfl, hcounts.missRate]
      show (if 0 < eval.maliciousFlows then (eval.missedFlows : ℚ) / eval.maliciousFlows else 0) = 1
      rw [hmal, hmissed]
      norm_num
  | false =>
      have hne : alerts ≠ [] := fun hn => Bool.false_ne_true (hnil.mp hn)
      have hfalse : eval.falsePositiveFlows = 1 := by
        rw [hcounts.falsePositive, lone_alertedSet h, if_neg hne]
        rfl
      rw [if_neg Bool.false_ne_true, hcounts.falsePositiveRate]
      show (if 0 < eval.totalFlows then (eval.falsePositiveFlows : ℚ) / eval.totalFlows else 0) = 1
      rw [htotal, hfalse]
      norm_num

/-- The configuration does not allow for the change of rate that `lone` brings about. -/
def Config.Strict (cfg : Config) (malicious : Bool) : Prop :=
  if malicious then cfg.maxMissRateIncrease < 1 else cfg.maxFPRateIncrease < 1

theorem lone_rejected (hstrict : cfg.Strict malicious) {accepted : Evaluation}
    (hrates : accepted.missRate = 0 ∧ accepted.falsePositiveRate = 0)
    {alerts : List AlertForEval} (h : ∀ a ∈ alerts, a = loneAlert)
    (hnil : alerts = [] ↔ malicious = true) :
    (evaluateCandidate cfg accepted
      (evaluateAlerts (lone malicious).rt (loneFlows malicious) alerts)).1 = false := by
  obtain ⟨htotal, hmal, hrate⟩ := lone_evaluation_other h hnil
  unfold evaluateCandidate
  rw [hrates.1, hrates.2, htotal, hmal]
  unfold Config.Strict at hstrict
  cases malicious with
  | true =>
      rw [if_pos rfl] at hstrict hrate
      simp [hrate, hstrict]
  | false =>
      rw [if_neg Bool.false_ne_true] at hstrict hrate
      simp [hrate, hstrict]

/-! ## Rounds -/

/-- The rules table that holds the rule as run 0. -/
def loneRules : RuleTable := insertRules Table.empty 0 [loneRule]

/-- Merging decisions reads no other rows than those of the run. -/
theorem aggregateAndEnrich_congr {t t' : RuleTable} {runID : Int}
    (h : rowsOf t runID = rowsOf t' runID) (typ : FunctionType) (raw : List TrimDecision) :
    aggregateAndEnrich t runID typ raw = aggregateAndEnrich t' runID typ raw := by
  unfold aggregateAndEnrich enabledRuleMap listRulesFromDB
  rw [h]

structure Rejecting (malicious : Bool) (s : SearchState) : Prop where
  rules : ∀ i, rowsOf (s.dbs.get i).rules 0 = rowsOf loneRules 0
  accepted : s.acceptedRunID = 0
  next : 0 < s.nextRunID
  rates : s.acceptedEval.missRate = 0 ∧ s.acceptedEval.falsePositiveRate = 0
  alerts : ∀ e ∈ s.dbs.exp.alerts, e.1 ≠ 0 → malicious = false ∧ e.2 = loneAlert

theorem Rejecting.ne_next (h : Rejecting malicious s) : s.acceptedRunID ≠ s.nextRunID := by
  rw [h.accepted]
  exact ne_of_lt h.next

/-- A round never fails, and never ends for lack of a proposal. -/
theorem Rejecting.iterRound_succeeds (h : Rejecting malicious s) (sch : Scheduler) (round : Nat)
    (factor : ℚ) :
    ∃ outcome, iterRound sch (lone malicious) (loneFlows malicious) persistent round factor s =
      .ok outcome ∧ ∀ u, outcome ≠ .exhausted u := by
  -- the proposal is merged against the rows of run 0, which are those of `loneRules`
  obtain ⟨decisions, hdecisions⟩ : ∃ decisions, executeFunction persistent s.clock
      { dbs := s.dbs, round := round, sourceRunID := s.acceptedRunID, factor := factor } =
        .ok decisions ∧ aggregateAndEnrich loneRules 0 .ITER decisions ≠ [] :=
    ⟨_, rfl, by decide +kernel⟩
  have hsome : aggregateAndEnrich s.dbs.exp.rules s.acceptedRunID .ITER decisions ≠ [] := by
    have hrules : rowsOf s.dbs.exp.rules 0 = rowsOf loneRules 0 := h.rules .exp
    rw [h.accepted, aggregateAndEnrich_congr hrules]
    exact hdecisions.2
  let trimmed := setTrimRunID
    (aggregateAndEnrich s.dbs.exp.rules s.acceptedRunID .ITER decisions) s.nextRunID
  obtain ⟨⟨u, eval⟩, hu⟩ : ∃ result, tryCandidate sch.cfg (lone malicious) (loneFlows malicious)
      { s with clock := s.clock + 1 } trimmed = .ok result := by
    apply tryCandidate_succeeds
    · exact h.ne_next
    · intro i
      show rowsOf (s.dbs.get i).rules s.acceptedRunID ≠ []
      rw [h.accepted, h.rules i]
      decide +kernel
    · exact fun _ _ _ => ⟨_, rfl⟩
  let verdict := evaluateCandidate sch.cfg u.acceptedEval eval
  let v := u.record trimmed
    { runID := u.nextRunID, committed := verdict.1, rolledBack := !verdict.1, factor := factor
      reason := persistent.name ++ ": " ++ verdict.2, evaluation := eval }
  refine ⟨if verdict.1 then .committed (v.commit trimmed eval) else .rolledBack v,
    bind_eq_ok.mpr ⟨decisions, hdecisions.1, ?_⟩, ?_⟩
  · dsimp only
    rw [if_neg hsome]
    exact bind_eq_ok.mpr ⟨(u, eval), hu, rfl⟩
  · intro u
    split <;> simp

/-- The alerts stored under the next run id once it has been executed. -/
theorem Rejecting.stored_alerts {trimmed : List TrimmedRule} {dbs : Databases}
    {eval : Evaluation} (h : Rejecting malicious s)
    (htried : Tried (lone malicious) (loneFlows malicious) s trimmed dbs eval) :
    (∀ e ∈ dbs.exp.alerts, e.1 ≠ 0 → malicious = false ∧ e.2 = loneAlert) ∧
      (loadEvalAlerts dbs.exp s.nextRunID = [] ↔ malicious = true) := by
  obtain ⟨clock, alerts, halerts, hexp⟩ := htried.executed
  have hne : s.nextRunID ≠ 0 := ne_of_gt h.next
  have hnew : alerts = if malicious then [] else [loneAlert] := by
    rw [← Except.ok.inj halerts]
    cases malicious <;> simp [hne]
  have hstored : dbs.exp.alerts = s.dbs.exp.alerts ++ alerts.map fun a => (s.nextRunID, a) := by
    rw [hexp]
    rfl
  have hall : ∀ e ∈ dbs.exp.alerts, e.1 ≠ 0 → malicious = false ∧ e.2 = loneAlert := by
    rw [hstored]
    intro e he hz
    rcases List.mem_append.mp he with he | he
    · exact h.alerts e he hz
    · obtain ⟨a, ha, rfl⟩ := List.mem_map.mp he
      rw [hnew] at ha
      cases malicious with
      | true => cases ha
      | false => exact ⟨rfl, List.mem_singleton.mp ha⟩
  refine ⟨hall, ?_, ?_⟩
  · intro hnil
    by_contra hm
    have hlast : (s.nextRunID, loneAlert) ∈ dbs.exp.alerts := by
      rw [hstored, hnew, if_neg hm]
      exact List.mem_append_right _ List.mem_cons_self
    have hmem : loneAlert ∈ loadEvalAlerts dbs.exp s.nextRunID :=
      List.mem_map.mpr ⟨_, List.mem_filter.mpr ⟨hlast, decide_eq_true rfl⟩, rfl⟩
    rw [hnil] at hmem
    cases hmem
  · intro hm
    rw [loadEvalAlerts, List.map_eq_nil_iff, List.filter_eq_nil_iff]
    intro e he hid
    have hid : e.1 = s.nextRunID := of_decide_eq_true hid
    obtain ⟨hfalse, _⟩ := hall e he (hid ▸ hne)
    rw [hm] at hfalse
    cases hfalse

/-- **Every round ends with a rollback**, and everything stays as it was but for the recorded
run. -/
theorem Rejecting.round (h : Rejecting malicious s) {sch : Scheduler}
    (hstrict : sch.cfg.Strict malicious) (round : Nat) (factor : ℚ) :
    ∃ u, iterRound sch (lone malicious) (loneFlows malicious) persistent round factor s =
        .ok (.rolledBack u) ∧ Rejecting malicious u ∧ u.nextRunID = s.nextRunID ∧
      u.runs.map (·.runID) = s.runs.map (·.runID) ++ [s.nextRunID] := by
  obtain ⟨outcome, hround, hnot⟩ := h.iterRound_succeeds sch round factor
  rcases iterRound_cases hround with ⟨clock, hexhausted⟩ |
    ⟨clock, clock', dbs, trimmed, r, htried, hid, _, hj, houtcome⟩
  · exact absurd hexhausted (hnot _)
  · have hclock : Rejecting malicious { s with clock := clock } := { h with }
    obtain ⟨hall, hnil⟩ := hclock.stored_alerts htried
    have hlone : ∀ a ∈ loadEvalAlerts dbs.exp s.nextRunID, a = loneAlert := by
      intro a ha
      obtain ⟨e, he, rfl⟩ := List.mem_map.mp ha
      obtain ⟨he, hid⟩ := List.mem_filter.mp he
      have hid : e.1 = s.nextRunID := of_decide_eq_true hid
      exact (hall e he (hid ▸ ne_of_gt h.next)).2
    have hfalse : r.committed = false := by
      rw [hj, htried.evaluated]
      exact lone_rejected hstrict h.rates hlone hnil
    rw [hfalse] at houtcome
    refine ⟨{ s with dbs := dbs, clock := clock' }.record trimmed r, ?_,
      ⟨?_, h.accepted, h.next, h.rates, hall⟩, rfl, ?_⟩
    · rw [hround, houtcome]
      rfl
    · intro i
      have hzero : (0 : Int) ≠ s.nextRunID := ne_of_lt h.next
      exact ((htried.rules h.ne_next i).1 0 hzero).trans (h.rules i)
    · show (s.runs ++ [r]).map (·.runID) = _
      rw [List.map_append, List.map_singleton, hid]

theorem Rejecting.advance (h : Rejecting malicious s) : Rejecting malicious s.advance := by
  refine { h with next := ?_ }
  show 0 < s.nextRunID + 1
  have := h.next
  omega

/-- **A function that reaches the cut-off uses up no run id.** Its runs have ids from the next one
on, and the id of its last run is still the next one afterwards. -/
theorem rejecting_rounds {sch : Scheduler} (hstrict : sch.cfg.Strict malicious) (n : Nat) :
    ∀ (round : Nat) (factor : ℚ) (s : SearchState), Rejecting malicious s →
      factor / 2 ^ (n + 1) ≤ factorCutoff →
      ∃ s' ids, iterRounds sch (lone malicious) (loneFlows malicious) persistent (n + 1) round
          factor s = .ok s' ∧ Rejecting malicious s' ∧
        s'.runs.map (·.runID) = s.runs.map (·.runID) ++ ids ∧
        ids.head? = some s.nextRunID ∧ ids.getLast? = some s'.nextRunID := by
  induction n with
  | zero =>
      intro round factor s h hcut
      obtain ⟨u, hu, hreject, hnext, hids⟩ := h.round hstrict round factor
      rw [zero_add, pow_one] at hcut
      refine ⟨u, [s.nextRunID], bind_eq_ok.mpr ⟨_, hu, ?_⟩, hreject, hids, rfl, ?_⟩
      · dsimp only
        rw [if_pos hcut]
        rfl
      · rw [hnext]
        rfl
  | succ n ih =>
      intro round factor s h hcut
      obtain ⟨u, hu, hreject, hnext, hids⟩ := h.round hstrict round factor
      by_cases hhalf : factor / 2 ≤ factorCutoff
      · refine ⟨u, [s.nextRunID], bind_eq_ok.mpr ⟨_, hu, ?_⟩, hreject, hids, rfl, ?_⟩
        · dsimp only
          rw [if_pos hhalf]
          rfl
        · rw [hnext]
          rfl
      · -- the loop goes on with half the factor and the next id
        have hcut' : factor / 2 / 2 ^ (n + 1) ≤ factorCutoff := by
          rw [div_div, ← pow_succ']
          exact hcut
        obtain ⟨s', ids, hs', hreject', hids', hhead, hlast⟩ :=
          ih (round + 1) (factor / 2) u.advance hreject.advance hcut'
        refine ⟨s', s.nextRunID :: ids, bind_eq_ok.mpr ⟨_, hu, ?_⟩, hreject', ?_, rfl, ?_⟩
        · dsimp only
          rw [if_neg hhalf]
          exact hs'
        · have hids' : s'.runs.map (·.runID) = u.runs.map (·.runID) ++ ids := hids'
          rw [hids', hids, List.append_assoc, List.singleton_append]
        · rw [List.getLast?_cons, hlast]
          rfl

/-- The function is asked with every one of its rounds to go. -/
theorem rejecting_function (sch : Scheduler) (hstrict : sch.cfg.Strict malicious)
    (hround : 1 ≤ sch.cfg.maxRound)
    (hcut : sch.cfg.initialFactor / 2 ^ sch.cfg.maxRound.toNat ≤ factorCutoff)
    (h : Rejecting malicious s) :
    ∃ s' ids, iterRounds sch (lone malicious) (loneFlows malicious) persistent
        sch.cfg.maxRound.toNat 1 sch.cfg.initialFactor s = .ok s' ∧ Rejecting malicious s' ∧
      s'.runs.map (·.runID) = s.runs.map (·.runID) ++ ids ∧
      ids.head? = some s.nextRunID ∧ ids.getLast? = some s'.nextRunID := by
  obtain ⟨n, hn⟩ : ∃ n, sch.cfg.maxRound.toNat = n + 1 := ⟨sch.cfg.maxRound.toNat - 1, by omega⟩
  rw [hn] at hcut ⊢
  exact rejecting_rounds hstrict n 1 _ s h hcut

theorem rejecting_functions (sch : Scheduler) (hstrict : sch.cfg.Strict malicious)
    (hround : 1 ≤ sch.cfg.maxRound)
    (hcut : sch.cfg.initialFactor / 2 ^ sch.cfg.maxRound.toNat ≤ factorCutoff) (n : Nat) :
    ∀ s : SearchState, Rejecting malicious s →
      ∃ s', iterFunctions sch (lone malicious) (loneFlows malicious) (List.replicate n persistent)
          s = .ok s' ∧ s.runs.map (·.runID) <+: s'.runs.map (·.runID) := by
  induction n with
  | zero =>
      intro s _
      exact ⟨s, rfl, List.prefix_rfl⟩
  | succ n ih =>
      intro s h
      obtain ⟨t, ids, ht, hreject, hids, _, _⟩ := rejecting_function sch hstrict hround hcut h
      obtain ⟨s', hs', hpre⟩ := ih t hreject
      refine ⟨s', bind_eq_ok.mpr ⟨t, ht, hs'⟩, List.IsPrefix.trans ?_ hpre⟩
      rw [hids]
      exact List.prefix_append _ _

/-! ## Whole runs -/

def loneDB : SnortDB := { created := true, rules := loneRules, alerts := [], ruleFP := [] }

theorem lone_prepared (cfg : Config) (malicious : Bool) :
    ∃ store, prepareRuleDatabases cfg (lone malicious) .empty { runs := [], trimDecisions := [] } =
      .ok ({ exp := loneDB, real := loneDB, base := loneDB }, store) := by
  apply prepareRuleDatabases_empty rfl
  unfold initRuleDB
  split <;> rfl

/-- After the baseline run nothing has been rejected yet, but everything will be. -/
theorem rejecting_baseline (sch : Scheduler) (malicious : Bool) (store : AnalyserStore) :
    ∃ s, baseline sch (lone malicious) (loneFlows malicious)
        { exp := loneDB, real := loneDB, base := loneDB } store = .ok s ∧
      Rejecting malicious s := by
  let dbs : Databases := { exp := loneDB, real := loneDB, base := loneDB }
  have hcreated : ∀ i, (dbs.get i).created = true := by
    intro i
    cases i <;> rfl
  obtain ⟨s, hs⟩ : ∃ s, baseline sch (lone malicious) (loneFlows malicious) dbs store = .ok s :=
    baseline_succeeds sch hcreated (fun _ _ _ => ⟨_, rfl⟩) store
  refine ⟨s, hs, ?_⟩
  obtain ⟨_, r, hrun, _, _, heval, hsdbs, hacc, haccEval, hnext, _, _, _⟩ := baseline_eq_ok hs
  obtain ⟨alerts, halerts, rfl⟩ := runAll_created hcreated hrun
  have hfirst : alerts = if malicious then [loneAlert] else [] := by
    rw [← Except.ok.inj halerts]
    cases malicious <;> rfl
  refine ⟨?_, hacc, ?_, ?_, ?_⟩
  · intro i
    rw [hsdbs]
    cases i <;> rfl
  · rw [hnext]
    decide
  · rw [haccEval, heval, hfirst]
    cases malicious <;> decide +kernel
  · intro e he hz
    rw [hsdbs, hfirst] at he
    cases malicious with
    | true =>
        -- the only alert stored is one of run 0
        have he : e ∈ [((0 : Int), loneAlert)] := he
        rw [List.mem_singleton.mp he] at hz
        exact absurd rfl hz
    | false => cases he

/-- **Reuse.** In a strict configuration whose cut-off can be reached, the first two of any number
of functions leave two runs with one id, one after the other. -/
theorem rejecting_run {cfg : Config} (hstrict : cfg.Strict malicious) (hround : 1 ≤ cfg.maxRound)
    (hcut : cfg.initialFactor / 2 ^ cfg.maxRound.toNat ≤ factorCutoff) (n : Nat) :
    ∃ out ids x,
      Scheduler.run { cfg := cfg, functions := List.replicate (n + 2) persistent } (lone malicious)
        .empty { runs := [], trimDecisions := [] } = .ok out ∧
      ids ++ [x, x] <+: out.result.runs.map (·.runID) := by
  let sch : Scheduler := { cfg := cfg, functions := List.replicate (n + 2) persistent }
  have hITER : sch.functionsByType .ITER = List.replicate (n + 2) persistent := by
    show (List.replicate (n + 2) persistent).filter _ = _
    rw [List.filter_replicate_of_pos (by rfl)]
  have hSAFE : sch.functionsByType .SAFE = [] := by
    show (List.replicate (n + 2) persistent).filter _ = _
    rw [List.filter_replicate_of_neg (by decide)]
  obtain ⟨store, hprep⟩ := lone_prepared cfg malicious
  obtain ⟨s, hs, hreject⟩ := rejecting_baseline sch malicious store
  have hsafe : safeStage sch (lone malicious) (loneFlows malicious) s = .ok s := by
    unfold safeStage
    rw [hSAFE]
    rfl
  obtain ⟨t, first, ht, hreject₁, hfirst, _, hlast⟩ :=
    rejecting_function sch hstrict hround hcut hreject
  obtain ⟨u, second, hu, hreject₂, hsecond, hhead, _⟩ :=
    rejecting_function sch hstrict hround hcut hreject₁
  obtain ⟨final, hfinal, hpre⟩ := rejecting_functions sch hstrict hround hcut n u hreject₂
  have hiter : iterFunctions sch (lone malicious) (loneFlows malicious)
      (sch.functionsByType .ITER) s = .ok final := by
    rw [hITER]
    exact bind_eq_ok.mpr ⟨t, ht, bind_eq_ok.mpr ⟨u, hu, hfinal⟩⟩
  -- the last id of the first function is the first of the second
  obtain ⟨before, rfl⟩ := List.getLast?_eq_some_iff.mp hlast
  obtain ⟨after, rfl⟩ := List.head?_eq_some_iff.mp hhead
  refine ⟨_, s.runs.map (·.runID) ++ before, t.nextRunID, bind_eq_ok.mpr ⟨_, hprep,
    bind_eq_ok.mpr ⟨_, rfl, bind_eq_ok.mpr ⟨s, hs, bind_eq_ok.mpr ⟨s, hsafe,
      bind_eq_ok.mpr ⟨final, hiter, rfl⟩⟩⟩⟩⟩, ?_⟩
  refine List.IsPrefix.trans ?_ hpre
  rw [hsecond, hfirst]
  exact ⟨after, by simp⟩

end SnortOptimizer.Analyser
