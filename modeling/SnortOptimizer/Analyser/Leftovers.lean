import SnortOptimizer.Analyser.StoreWrites
import SnortOptimizer.Analyser.RunIDs

/-!
# Evaluations in a preserved working directory (`analyser/sql/eval.go`)

With `PreserveWorkDBs` the databases of an earlier execution stay. Alerts and profiler rows are only
ever appended and are found again by their run id, and every execution numbers its runs from 0. So
`EvaluateRun` reads what the earlier execution has left under an id together with what the run has
added itself.

Here an execution is followed evaluation by evaluation, also when it fails later, with the rows each
evaluation has read: those that were there at the start, and those added since. The profiler tables
of the real instance only matter here, so they are kept beside the databases of the scheduler.
-/

namespace SnortOptimizer.Analyser

/-! ## What `EvaluateRun` reads -/

/-- The rows of a table that has a `run_id` column. -/
def rowsFor {α : Type} (rows : List (Int × α)) (runID : Int) : List α :=
  (rows.filter (·.1 = runID)).map Prod.snd

/-- The rows of one run: its alerts in exp's database, its profiler rows in real's. -/
structure RunRows where
  alerts : List AlertForEval
  ruleTimes : List Int                          -- `time_us` in `rule_profiler_metrics`
  systemProfiles : List (Option ℚ × Option ℚ)   -- `avg_cpu` and `avg_mem_mb`, by their ids

def RunRows.append (left own : RunRows) : RunRows :=
  { alerts := left.alerts ++ own.alerts, ruleTimes := left.ruleTimes ++ own.ruleTimes
    systemProfiles := left.systemProfiles ++ own.systemProfiles }

/-- SQLite's `sum` over integers fails when a partial sum does not fit into 64 bits. -/
def sumInt64 (values : List Int) : Option Int :=
  values.foldlM
    (fun acc v => if -2 ^ 63 ≤ acc + v ∧ acc + v < 2 ^ 63 then some (acc + v) else none) 0

/-- `SumRuleTimeUS`; the caller drops the error. -/
def sumRuleTimeUS (times : List Int) : Int := (sumInt64 times).getD 0

/-- `LatestSystemProfile`. -/
def latestSystemProfile (profiles : List (Option ℚ × Option ℚ)) : ℚ × ℚ :=
  match profiles.getLast? with
  | none => (0, 0)
  | some (cpu, mem) => (cpu.getD 0, mem.getD 0)

/-- An evaluation with the numbers of the real instance. -/
structure MeasuredEvaluation where
  runID : Int
  evaluation : Evaluation
  realRuleTimeUS : Int
  realAvgCPU : ℚ
  realAvgMemMB : ℚ
  deriving DecidableEq

/-- `EvaluateRun`, on the rows it finds under the run id. -/
def evaluateRows (rt : Runtime) (flows : FlowSet) (runID : Int) (rows : RunRows) :
    MeasuredEvaluation :=
  { runID := runID
    evaluation := evaluateAlerts rt flows rows.alerts
    realRuleTimeUS := sumRuleTimeUS rows.ruleTimes
    realAvgCPU := (latestSystemProfile rows.systemProfiles).1
    realAvgMemMB := (latestSystemProfile rows.systemProfiles).2 }

/-! ## Which rows do no harm -/

/-- What an alert adds to the numbers: the flow it is matched to, or its key among the unmatched. -/
def outcome (rt : Runtime) (fs : FlowSet) (alert : AlertForEval) : Nat ⊕ String :=
  match matchAlertToFlow rt fs alert with
  | some i => .inl i
  | none => .inr (alertUnmatchedKey alert)

/-- Every alert adds what one of the run's own adds anyway. -/
def Repeated (rt : Runtime) (fs : FlowSet) (left own : List AlertForEval) : Prop :=
  ∀ a ∈ left, ∃ b ∈ own, outcome rt fs a = outcome rt fs b

variable {rt : Runtime} {fs : FlowSet}

theorem mem_alertedSet_iff_outcome {alerts : List AlertForEval} {i : Nat} :
    i ∈ alertedSet rt fs alerts ↔ ∃ a ∈ alerts, outcome rt fs a = .inl i := by
  rw [mem_alertedSet]
  refine exists_congr fun a => and_congr_right fun _ => ?_
  unfold outcome
  cases matchAlertToFlow rt fs a <;> simp

theorem mem_unmatchedSet_iff_outcome {alerts : List AlertForEval} {key : String} :
    key ∈ unmatchedSet rt fs alerts ↔ ∃ a ∈ alerts, outcome rt fs a = .inr key := by
  simp only [unmatchedSet, List.mem_toFinset, List.mem_map, List.mem_filter, and_assoc]
  refine exists_congr fun a => and_congr_right fun _ => ?_
  unfold outcome
  cases matchAlertToFlow rt fs a <;> simp

/-- Alerts are repeated exactly if they add no flow and no unmatched key. -/
theorem repeated_iff {left own : List AlertForEval} :
    Repeated rt fs left own ↔ alertedSet rt fs left ⊆ alertedSet rt fs own ∧
      unmatchedSet rt fs left ⊆ unmatchedSet rt fs own := by
  simp only [Repeated, Finset.subset_iff, mem_alertedSet_iff_outcome, mem_unmatchedSet_iff_outcome]
  constructor
  · intro h
    constructor
    · rintro i ⟨a, ha, hi⟩
      obtain ⟨b, hb, hab⟩ := h a ha
      exact ⟨b, hb, hab ▸ hi⟩
    · rintro key ⟨a, ha, hkey⟩
      obtain ⟨b, hb, hab⟩ := h a ha
      exact ⟨b, hb, hab ▸ hkey⟩
  · rintro ⟨hflows, hkeys⟩ a ha
    cases hout : outcome rt fs a with
    | inl i =>
        obtain ⟨b, hb, hbi⟩ := hflows ⟨a, ha, hout⟩
        exact ⟨b, hb, hbi.symm⟩
    | inr key =>
        obtain ⟨b, hb, hbk⟩ := hkeys ⟨a, ha, hout⟩
        exact ⟨b, hb, hbk.symm⟩

/-- **When further alerts change nothing**: exactly when they are repeated. -/
theorem evaluateAlerts_append_iff (left own : List AlertForEval) :
    evaluateAlerts rt fs (left ++ own) = evaluateAlerts rt fs own ↔ Repeated rt fs left own := by
  rw [repeated_iff]
  constructor
  · intro h
    -- the two counters of the alerts count a larger and a smaller set
    have hflows := congrArg Evaluation.alertedFlows h
    have hkeys := congrArg Evaluation.unmatchedAlertFlows h
    obtain ⟨⟨_, hflows₁, hkeys₁⟩, _⟩ := evaluateAlerts_numbers rt fs (left ++ own)
    obtain ⟨⟨_, hflows₂, hkeys₂⟩, _⟩ := evaluateAlerts_numbers rt fs own
    rw [hflows₁, hflows₂, alertedSet_append] at hflows
    rw [hkeys₁, hkeys₂, unmatchedSet_append] at hkeys
    have hflows := Finset.eq_of_subset_of_card_le Finset.subset_union_right hflows.le
    have hkeys := Finset.eq_of_subset_of_card_le Finset.subset_union_right hkeys.le
    exact ⟨Finset.union_eq_right.mp hflows.symm, Finset.union_eq_right.mp hkeys.symm⟩
  · rintro ⟨hflows, hkeys⟩
    apply evaluateAlerts_congr
    · rw [alertedSet_append, Finset.union_eq_right.mpr hflows]
    · rw [unmatchedSet_append, Finset.union_eq_right.mpr hkeys]

/-- Rows that cannot be told from no rows at all. -/
structure Harmless (rt : Runtime) (fs : FlowSet) (left own : RunRows) : Prop where
  alerts : Repeated rt fs left.alerts own.alerts
  ruleTimes : sumInt64 left.ruleTimes = some 0
  systemProfiles : own.systemProfiles ≠ [] ∨ latestSystemProfile left.systemProfiles = (0, 0)

theorem sumInt64_append {left own : List Int} (h : sumInt64 left = some 0) :
    sumInt64 (left ++ own) = sumInt64 own := by
  unfold sumInt64 at h ⊢
  rw [List.foldlM_append, h]
  rfl

theorem latestSystemProfile_append {left own : List (Option ℚ × Option ℚ)}
    (h : own ≠ [] ∨ latestSystemProfile left = (0, 0)) :
    latestSystemProfile (left ++ own) = latestSystemProfile own := by
  cases own with
  | nil =>
      rw [List.append_nil]
      exact h.resolve_left (not_not.mpr rfl)
  | cons p own =>
      unfold latestSystemProfile
      rw [List.getLast?_append_of_ne_nil _ (List.cons_ne_nil p own)]

theorem Harmless.evaluateRows {left own : RunRows} (h : Harmless rt fs left own) (runID : Int) :
    evaluateRows rt fs runID (left.append own) = evaluateRows rt fs runID own := by
  have halerts := (evaluateAlerts_append_iff left.alerts own.alerts).mpr h.alerts
  have htimes : sumInt64 (left.ruleTimes ++ own.ruleTimes) = _ := sumInt64_append h.ruleTimes
  have hprofiles := latestSystemProfile_append h.systemProfiles
  simp only [Analyser.evaluateRows, RunRows.append, sumRuleTimeUS, halerts, htimes, hprofiles]

/-! ## The evaluations of an execution -/

structure ProfileTables where
  ruleTimes : List (Int × Int)
  systemProfiles : List (Int × Option ℚ × Option ℚ)

def ProfileTables.empty : ProfileTables := { ruleTimes := [], systemProfiles := [] }

def ProfileTables.append (left own : ProfileTables) : ProfileTables :=
  { ruleTimes := left.ruleTimes ++ own.ruleTimes
    systemProfiles := left.systemProfiles ++ own.systemProfiles }

/-- What one run of the real instance adds to the tables. -/
structure RunProfile where
  ruleTimes : List Int
  systemProfiles : List (Option ℚ × Option ℚ)

/-- What the recorded runs have added, one run of the real instance each. -/
def addedProfiles (profiles : Nat → RunProfile) (runs : List RunResult) : ProfileTables :=
  { ruleTimes := runs.zipIdx.flatMap fun x => (profiles x.2).ruleTimes.map fun t => (x.1.runID, t)
    systemProfiles :=
      runs.zipIdx.flatMap fun x => (profiles x.2).systemProfiles.map fun p => (x.1.runID, p) }

def rowsAt (alerts : List (Int × AlertForEval)) (tables : ProfileTables) (runID : Int) : RunRows :=
  { alerts := rowsFor alerts runID
    ruleTimes := rowsFor tables.ruleTimes runID
    systemProfiles := rowsFor tables.systemProfiles runID }

/-- An evaluation that was computed, with the rows left under its run id by earlier executions and
those added by this one. -/
structure Evaluated where
  flows : FlowSet
  found : MeasuredEvaluation
  left : RunRows
  own : RunRows

/-- The states an execution reaches, until it returns with or without an error. -/
def Scheduler.reached (sch : Scheduler) (env : Externals) (dbs : Databases)
    (store : AnalyserStore) : List (FlowSet × SearchState) :=
  match prepareRuleDatabases sch.cfg env dbs store with
  | .error _ => []
  | .ok (dbs, store) =>
      match env.flows with
      | .error _ => []
      | .ok flows =>
          match baseline sch env flows dbs store with
          | .error _ => []
          | .ok s => (searchReached sch env flows s).map fun u => (flows, u)

/-- The evaluation of one recorded run, as `EvaluateRun` has made it from the databases of that
time. -/
def evaluatedRun (flows : FlowSet) (dbs : Databases) (tables : ProfileTables)
    (profiles : Nat → RunProfile) (runs : List RunResult) (x : (RunResult × Databases) × Nat) :
    Evaluated :=
  let runID := x.1.1.runID
  let added := addedProfiles profiles (runs.take (x.2 + 1))
  let real := tables.append added
  { flows := flows
    found :=
      { runID := runID
        evaluation := x.1.1.evaluation
        realRuleTimeUS := sumRuleTimeUS (rowsFor real.ruleTimes runID)
        realAvgCPU := (latestSystemProfile (rowsFor real.systemProfiles runID)).1
        realAvgMemMB := (latestSystemProfile (rowsFor real.systemProfiles runID)).2 }
    left := rowsAt dbs.exp.alerts tables runID
    own := rowsAt (x.1.2.exp.alerts.drop dbs.exp.alerts.length) added runID }

/-- All evaluations of an execution that starts on the given databases and profiler tables. The last
state reached has them all. -/
def Scheduler.evaluatedRuns (sch : Scheduler) (env : Externals) (dbs : Databases)
    (store : AnalyserStore) (tables : ProfileTables) (profiles : Nat → RunProfile) :
    List Evaluated :=
  match (sch.reached env dbs store).getLast? with
  | none => []
  | some (flows, s) =>
      (s.runs.zip s.trace).zipIdx.map (evaluatedRun flows dbs tables profiles s.runs)

/-- The same scheduler with `PreserveWorkDBs`. -/
def Scheduler.preserving (sch : Scheduler) : Scheduler :=
  { sch with cfg := { sch.cfg with preserveWorkDBs := true } }

/-! ## Rows are only appended -/

variable {cfg : Config} {env : Externals} {flows : FlowSet} {typ : FunctionType}
  {s s' : SearchState} {left : List (Int × AlertForEval)}

/-- Every run was evaluated on all alerts under its id, those at the start among them. -/
structure Appended (rt : Runtime) (flows : FlowSet) (left : List (Int × AlertForEval))
    (s : SearchState) : Prop where
  now : left <+: s.dbs.exp.alerts
  recorded : List.Forall₂ (fun r dbs => left <+: dbs.exp.alerts ∧
    r.evaluation = evaluateRun rt flows r.runID dbs) s.runs s.trace

theorem Appended.record (h : Appended env.rt flows left s) {trimmed : List TrimmedRule}
    {dbs : Databases} {r : RunResult} (tried : Tried env flows s trimmed dbs r.evaluation)
    (hid : r.runID = s.nextRunID) (clock : Nat) :
    Appended env.rt flows left ({ s with dbs := dbs, clock := clock }.record trimmed r) := by
  obtain ⟨_, alerts, _, hexp⟩ := tried.executed
  have hnow : left <+: dbs.exp.alerts := by
    rw [hexp]
    exact h.now.trans (List.prefix_append _ _)
  refine ⟨hnow, ?_⟩
  apply List.rel_append h.recorded
  refine List.forall₂_cons.mpr ⟨⟨hnow, ?_⟩, .nil⟩
  rw [hid]
  exact tried.evaluated

theorem appended_step (h : Step cfg env flows typ s s') (hs : Appended env.rt flows left s) :
    Appended env.rt flows left s' := by
  cases h with
  | tick clock => exact { hs with }
  | advance => exact { hs with }
  | commit clock dbs trimmed r tried hid _ _ => exact { hs.record tried hid clock with }
  | rollback clock dbs trimmed r tried hid _ _ => exact hs.record tried hid clock

/-! ## Whole executions -/

/-- Something that every step keeps, and that does not look at the next run id. -/
structure Kept (cfg : Config) (env : Externals) (flows : FlowSet) (I : SearchState → Prop) :
    Prop where
  step : ∀ typ {s s'}, Step cfg env flows typ s s' → I s → I s'
  back : ∀ {s : SearchState}, I s.advance → I s

theorem Kept.steps {I : SearchState → Prop} (hI : Kept cfg env flows I)
    (h : Steps cfg env flows typ s s') (hs : I s) : I s' :=
  h.invariant (fun _ _ => hI.step typ) hs

theorem Kept.iterRoundsReached {sch : Scheduler} {I : SearchState → Prop}
    (hI : Kept sch.cfg env flows I) (fn : RegisteredFunction) (n round : Nat) (factor : ℚ)
    (hs : I s) : ∀ u ∈ iterRoundsReached sch env flows fn n round factor s, I u := by
  induction n generalizing round factor s with
  | zero =>
      intro u hu
      cases hu
  | succ n ih =>
      intro u hu
      rw [Analyser.iterRoundsReached] at hu
      cases hround : iterRound sch env flows fn round factor s with
      | error e =>
          rw [hround] at hu
          cases hu
      | ok outcome =>
          rw [hround] at hu
          rcases iterRound_cases hround with ⟨clock, rfl⟩ |
            ⟨clock, clock', dbs, trimmed, r, htried, hid, _, hj, rfl⟩
          · rw [List.mem_singleton.mp hu]
            exact hI.step .ITER (.tick s clock) hs
          · have htick : I { s with clock := clock } := hI.step .ITER (.tick s clock) hs
            cases hc : r.committed with
            | true =>
                -- the round ends before `nextRunID++`
                have hcommit := hI.step .ITER (.commit { s with clock := clock } clock' dbs
                  trimmed r htried hid hc fun _ => hj ▸ hc) htick
                simp only [hc, if_true] at hu
                rcases List.mem_cons.mp hu with rfl | hu
                · exact hI.back hcommit
                · exact ih (round + 1) factor hcommit u hu
            | false =>
                have hroll := hI.step .ITER (.rollback { s with clock := clock } clock' dbs
                  trimmed r htried hid hc (hj ▸ hc)) htick
                simp only [hc, Bool.false_eq_true, if_false] at hu
                rcases List.mem_cons.mp hu with rfl | hu
                · exact hroll
                · split at hu
                  · cases hu
                  · exact ih (round + 1) (factor / 2) (hI.step .ITER (.advance _) hroll) u hu

theorem Kept.iterFunctionsReached {sch : Scheduler} {I : SearchState → Prop}
    (hI : Kept sch.cfg env flows I) (fns : List RegisteredFunction) (hs : I s) :
    ∀ u ∈ iterFunctionsReached sch env flows fns s, I u := by
  induction fns generalizing s with
  | nil =>
      intro u hu
      cases hu
  | cons fn fns ih =>
      intro u hu
      rw [Analyser.iterFunctionsReached] at hu
      rcases List.mem_append.mp hu with hu | hu
      · exact hI.iterRoundsReached fn _ 1 _ hs u hu
      · cases hr : iterRounds sch env flows fn sch.cfg.maxRound.toNat 1 sch.cfg.initialFactor s with
        | error e =>
            rw [hr] at hu
            cases hu
        | ok t =>
            rw [hr] at hu
            exact ih (hI.steps (iterRounds_steps hr) hs) u hu

theorem Kept.searchReached {sch : Scheduler} {I : SearchState → Prop}
    (hI : Kept sch.cfg env flows I) (hs : I s) : ∀ u ∈ searchReached sch env flows s, I u := by
  intro u hu
  rw [Analyser.searchReached] at hu
  rcases List.mem_cons.mp hu with rfl | hu
  · exact hs
  · cases hsafe : safeStage sch env flows s with
    | error e =>
        rw [hsafe] at hu
        cases hu
    | ok safe =>
        rw [hsafe] at hu
        have hsafe : I safe := hI.steps (safeStage_steps hsafe) hs
        rcases List.mem_cons.mp hu with rfl | hu
        · exact hsafe
        · exact hI.iterFunctionsReached _ hsafe u hu

theorem appended_kept (cfg : Config) (env : Externals) (flows : FlowSet)
    (left : List (Int × AlertForEval)) : Kept cfg env flows (Appended env.rt flows left) :=
  ⟨fun _ => appended_step, fun h => { h with }⟩

/-- With `PreserveWorkDBs` the alerts are there when the first run starts. -/
theorem prepareRuleDatabases_alerts {dbs dbs₀ : Databases} {store store₀ : AnalyserStore}
    (hp : cfg.preserveWorkDBs = true)
    (h : prepareRuleDatabases cfg env dbs store = .ok (dbs₀, store₀)) :
    dbs₀.exp.alerts = dbs.exp.alerts := by
  unfold prepareRuleDatabases startDatabases at h
  rw [if_pos hp] at h
  obtain ⟨⟨start, startStore⟩, hstart, h⟩ := bind_eq_ok.mp h
  cases hstart
  obtain ⟨exp, hexp, h⟩ := bind_eq_ok.mp h
  obtain ⟨real, _, h⟩ := bind_eq_ok.mp h
  obtain ⟨base, _, h⟩ := bind_eq_ok.mp h
  cases h
  exact initRuleDB_alerts (wrapError_eq_ok hexp)

theorem appended_baseline {sch : Scheduler} {dbs : Databases} {store : AnalyserStore}
    (h : baseline sch env flows dbs store = .ok s) : Appended env.rt flows dbs.exp.alerts s := by
  obtain ⟨dbs', r, hrun, hid, _, heval, hdbs, _, _, _, _, hruns, htrace⟩ := baseline_eq_ok h
  obtain ⟨u, alerts, hu, _, rfl⟩ := runAll_eq_ok hrun
  have hexp : ensureRuleStore sch.cfg env .exp 0 dbs.exp = .ok u.exp := hu .exp
  have hstart : dbs.exp.alerts <+: (stored env.rt flows 0 u.exp alerts).alerts := by
    rw [← ensureRuleStore_alerts hexp]
    exact List.prefix_append _ _
  refine ⟨?_, ?_⟩
  · rw [hdbs]
    exact hstart
  · rw [hruns, htrace]
    refine List.forall₂_cons.mpr ⟨⟨hstart, ?_⟩, .nil⟩
    rw [hid]
    exact heval

theorem reached_appended (sch : Scheduler) (env : Externals) (dbs : Databases)
    (store : AnalyserStore) :
    ∀ x ∈ sch.preserving.reached env dbs store, Appended env.rt x.1 dbs.exp.alerts x.2 := by
  intro x hx
  unfold Scheduler.reached at hx
  split at hx
  · cases hx
  · next dbs₀ store₀ hprep =>
      split at hx
      · cases hx
      · next flows hflows =>
          split at hx
          · cases hx
          · next s hbase =>
              obtain ⟨u, hu, rfl⟩ := List.mem_map.mp hx
              rw [← prepareRuleDatabases_alerts rfl hprep]
              exact (appended_kept _ env flows _).searchReached (appended_baseline hbase) u hu

theorem rowsFor_append {α : Type} (rows rows' : List (Int × α)) (runID : Int) :
    rowsFor (rows ++ rows') runID = rowsFor rows runID ++ rowsFor rows' runID := by
  rw [rowsFor, List.filter_append, List.map_append]
  rfl

/-- Every evaluation is made from the rows that were left and those that were added. -/
theorem evaluatedRuns_found (sch : Scheduler) (env : Externals) (dbs : Databases)
    (store : AnalyserStore) (tables : ProfileTables) (profiles : Nat → RunProfile) :
    ∀ e ∈ sch.preserving.evaluatedRuns env dbs store tables profiles,
      e.found = evaluateRows env.rt e.flows e.found.runID (e.left.append e.own) := by
  intro e he
  unfold Scheduler.evaluatedRuns at he
  split at he
  · cases he
  · next flows s hlast =>
      have happended := reached_appended sch env dbs store _ (List.mem_of_getLast? hlast)
      obtain ⟨⟨⟨r, db⟩, i⟩, hx, rfl⟩ := List.mem_map.mp he
      have hmem : (r, db) ∈ s.runs.zip s.trace := (List.mem_zipIdx hx).2.2 ▸ List.getElem_mem _
      obtain ⟨⟨new, hnew⟩, heval⟩ := (List.forall₂_iff_zip.mp happended.recorded).2 hmem
      have halerts : rowsFor dbs.exp.alerts r.runID ++
          rowsFor (db.exp.alerts.drop dbs.exp.alerts.length) r.runID =
          rowsFor db.exp.alerts r.runID := by
        rw [← rowsFor_append, ← hnew, List.drop_left]
      simp only [evaluatedRun, evaluateRows, RunRows.append, rowsAt, ProfileTables.append,
        rowsFor_append, halerts, heval]
      rfl

/-- **When an evaluation depends on its own run only.** In every execution with `PreserveWorkDBs`,
whatever the earlier ones have left behind and however it ends: as long as the rows left under a run
id are harmless, the evaluation of that run is the one computed from the rows it has added. As far
as the alerts go, harmless means that they are repeated by the run. -/
theorem evaluations_own_of_harmless (sch : Scheduler) (env : Externals) (dbs : Databases)
    (store : AnalyserStore) (tables : ProfileTables) (profiles : Nat → RunProfile) :
    let evaluated := sch.preserving.evaluatedRuns env dbs store tables profiles
    ((∀ e ∈ evaluated, Harmless env.rt e.flows e.left e.own) →
      ∀ e ∈ evaluated, e.found = evaluateRows env.rt e.flows e.found.runID e.own) ∧
    ∀ e ∈ evaluated, e.found.evaluation = evaluateAlerts env.rt e.flows e.own.alerts ↔
      Repeated env.rt e.flows e.left.alerts e.own.alerts := by
  intro evaluated
  constructor
  · intro hharmless e he
    rw [← (hharmless e he).evaluateRows]
    exact evaluatedRuns_found sch env dbs store tables profiles e he
  · intro e he
    have hfound := congrArg MeasuredEvaluation.evaluation
      (evaluatedRuns_found sch env dbs store tables profiles e he)
    rw [hfound]
    exact evaluateAlerts_append_iff e.left.alerts e.own.alerts

/-- A scheduler without functions, which evaluates the initial rules only. -/
def baselineOnly : Scheduler := { cfg := defaultConfig, functions := [] }

/-- The environment of one malicious flow, with a Snort that raises no alert. -/
def silent : Externals := { lone true with snort := fun _ _ _ _ => .ok [] }

/-- The first execution detects the flow, the second one raises no alert at all, and its evaluation
of run 0 still says that the flow was detected. -/
theorem detected_again_without_alerts :
    ∃ out, baselineOnly.preserving.run (lone true) .empty .empty = .ok out ∧
      ∃ e ∈ baselineOnly.preserving.evaluatedRuns silent out.dbs out.store .empty
          fun _ => { ruleTimes := [], systemProfiles := [] },
        e.own.alerts = [] ∧ e.found.evaluation.detectedMaliciousFlows = 1 ∧
          e.found ≠ evaluateRows silent.rt e.flows e.found.runID e.own := by
  have hcheck : (baselineOnly.preserving.run (lone true) .empty .empty).toOption.any (fun out =>
      (baselineOnly.preserving.evaluatedRuns silent out.dbs out.store .empty
          fun _ => { ruleTimes := [], systemProfiles := [] }).any fun e =>
        e.own.alerts.isEmpty && decide (e.found.evaluation.detectedMaliciousFlows = 1 ∧
          e.found ≠ evaluateRows silent.rt e.flows e.found.runID e.own)) = true := by
    decide +kernel
  obtain ⟨out, hout, hcheck⟩ := (Option.any_eq_true _ _).mp hcheck
  obtain ⟨e, he, hcheck⟩ := List.any_eq_true.mp hcheck
  rw [Bool.and_eq_true, List.isEmpty_iff, decide_eq_true_eq] at hcheck
  exact ⟨out, eq_ok_of_toOption hout, e, he, hcheck⟩

end SnortOptimizer.Analyser
