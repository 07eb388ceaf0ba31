import SnortOptimizer.Analyser.Scheduler

/-!
# What the search can do

`Scheduler.Run` is taken apart once, here. `Tried` says what is known of a candidate that has been
copied, executed and evaluated; `Step` lists everything that can happen to the variables of the
search. Each stage of the scheduler is a sequence of such steps (`safeStage_steps`,
`iterFunctions_steps`), and everything proved about whole runs is proved from the steps.
-/

namespace SnortOptimizer.Analyser

theorem wrapError_eq_ok {α : Type} {pre : String} {x : Except String α} {a : α}
    (h : wrapError pre x = .ok a) : x = .ok a := by
  cases x with
  | error e => cases h
  | ok b => exact h

/-! ## Running Snort -/

/-- Replacing the rows of one run. -/
theorem filter_replace {runID id : Int} {rows new : List RuleFPRow}
    (hnew : ∀ r ∈ new, r.runID = runID) :
    (rows.filter (·.runID ≠ runID) ++ new).filter (·.runID = id) =
      if id = runID then new else rows.filter (·.runID = id) := by
  rw [List.filter_append, List.filter_filter]
  by_cases hid : id = runID
  · subst hid
    have hold : (rows.filter fun r => decide (r.runID = id) && decide (r.runID ≠ id)) = [] := by
      rw [List.filter_eq_nil_iff]
      intro r _
      simp
    have hall : new.filter (·.runID = id) = new := by
      rw [List.filter_eq_self]
      intro r hr
      exact decide_eq_true (hnew r hr)
    rw [if_pos rfl, hold, hall, List.nil_append]
  · have hnone : new.filter (·.runID = id) = [] := by
      rw [List.filter_eq_nil_iff]
      intro r hr
      simpa [hnew r hr] using Ne.symm hid
    rw [if_neg hid, hnone, List.append_nil]
    apply List.filter_congr
    intro r _
    by_cases hr : r.runID = id
    · simp [hr, hid]
    · simp [hr]

variable {cfg : Config} {env : Externals} {flows : FlowSet}

theorem ensureRuleStore_created {inst : Instance} {runID : Int} {db db' : SnortDB}
    (hc : db.created = true) (h : ensureRuleStore cfg env inst runID db = .ok db') : db' = db := by
  unfold ensureRuleStore at h
  dsimp only at h
  split at h
  · split at h
    · cases h
    · split at h
      · cases h
      · cases h
        rfl
  · cases h
    rfl

theorem runInstance_eq_ok {clock : Nat} {inst : Instance} {runID : Int} {db db' : SnortDB}
    (h : runInstance cfg env clock inst runID db = .ok db') :
    ∃ u alerts, ensureRuleStore cfg env inst runID db = .ok u ∧
      env.snort clock inst runID (listRulesFromDB u.rules runID true) = .ok alerts ∧
      db' = if inst = .exp then { u with alerts := u.alerts ++ alerts.map fun a => (runID, a) }
        else u := by
  unfold runInstance at h
  obtain ⟨u, hu, h⟩ := bind_eq_ok.mp h
  obtain ⟨alerts, halerts, h⟩ := bind_eq_ok.mp h
  exact ⟨u, alerts, wrapError_eq_ok hu, halerts, (Except.ok.inj h).symm⟩

/-- What an execution of Snort under a run id leaves in the database of the exp instance. -/
def stored (rt : Runtime) (flows : FlowSet) (runID : Int) (db : SnortDB)
    (alerts : List AlertForEval) : SnortDB :=
  refreshRuleFP rt flows runID
    { db with alerts := db.alerts ++ alerts.map fun a => (runID, a) }

/-- The three instances see to their rules, and one execution of exp is stored. -/
theorem runAll_eq_ok {clock : Nat} {runID : Int} {dbs dbs' : Databases}
    (h : runAll cfg env flows clock runID dbs = .ok dbs') :
    ∃ (u : Databases) (alerts : List AlertForEval),
      (∀ i, ensureRuleStore cfg env i runID (dbs.get i) = .ok (u.get i)) ∧
      env.snort clock .exp runID (listRulesFromDB u.exp.rules runID true) = .ok alerts ∧
      dbs' = { u with exp := stored env.rt flows runID u.exp alerts } := by
  unfold runAll at h
  obtain ⟨exp, hexp, h⟩ := bind_eq_ok.mp h
  obtain ⟨real, hreal, h⟩ := bind_eq_ok.mp h
  obtain ⟨base, hbase, h⟩ := bind_eq_ok.mp h
  obtain ⟨uexp, alerts, hue, halerts, rfl⟩ := runInstance_eq_ok hexp
  obtain ⟨_, _, hur, _, rfl⟩ := runInstance_eq_ok hreal
  obtain ⟨_, _, hub, _, rfl⟩ := runInstance_eq_ok hbase
  refine ⟨{ exp := uexp, real := real, base := base }, alerts, ?_, halerts, ?_⟩
  · intro i
    cases i with
    | exp => exact hue
    | real => exact hur
    | base => exact hub
  · exact (Except.ok.inj h).symm

/-- Databases that exist keep their rules. -/
theorem runAll_created {clock : Nat} {runID : Int} {dbs dbs' : Databases}
    (hc : ∀ i, (dbs.get i).created = true) (h : runAll cfg env flows clock runID dbs = .ok dbs') :
    ∃ alerts, env.snort clock .exp runID (listRulesFromDB dbs.exp.rules runID true) = .ok alerts ∧
      dbs' = { dbs with exp := stored env.rt flows runID dbs.exp alerts } := by
  obtain ⟨u, alerts, hu, halerts, rfl⟩ := runAll_eq_ok h
  have hexp : u.exp = dbs.exp := ensureRuleStore_created (hc .exp) (hu .exp)
  have hreal : u.real = dbs.real := ensureRuleStore_created (hc .real) (hu .real)
  have hbase : u.base = dbs.base := ensureRuleStore_created (hc .base) (hu .base)
  rw [hexp] at halerts
  refine ⟨alerts, halerts, ?_⟩
  rw [hexp, hreal, hbase]

theorem cloneRulesForRun_eq_ok {dbs dbs' : Databases} {fromRunID toRunID : Int}
    {decisions : List TrimmedRule}
    (h : cloneRulesForRun cfg dbs fromRunID toRunID decisions = .ok dbs') :
    ∀ i, ∃ rules,
      cloneRulesInDB (dbs.get i).rules fromRunID toRunID (decisions.map TrimmedRule.toRuleRef) =
        .ok rules ∧
      dbs'.get i = { dbs.get i with created := true, rules := rules } := by
  unfold cloneRulesForRun at h
  obtain ⟨exp, hexp, h⟩ := bind_eq_ok.mp h
  obtain ⟨real, hreal, h⟩ := bind_eq_ok.mp h
  obtain ⟨base, hbase, h⟩ := bind_eq_ok.mp h
  cases h
  have hone : ∀ i (db : SnortDB), (do
      let rules ← wrapError (cfg.dbPath i ++ " clone rules: ") (cloneRulesInDB (dbs.get i).rules
        fromRunID toRunID (decisions.map TrimmedRule.toRuleRef))
      return { dbs.get i with created := true, rules := rules }) = Except.ok db →
      ∃ rules, cloneRulesInDB (dbs.get i).rules fromRunID toRunID
        (decisions.map TrimmedRule.toRuleRef) = .ok rules ∧
        db = { dbs.get i with created := true, rules := rules } := by
    intro i db hdb
    obtain ⟨rules, hrules, hdb⟩ := bind_eq_ok.mp hdb
    exact ⟨rules, wrapError_eq_ok hrules, (Except.ok.inj hdb).symm⟩
  intro i
  cases i with
  | exp => exact hone .exp exp hexp
  | real => exact hone .real real hreal
  | base => exact hone .base base hbase

/-! ## Steps -/

/-- A candidate that drops `trimmed` from the accepted rules was copied to the next run id,
executed and evaluated, leaving the databases `dbs`. -/
structure Tried (env : Externals) (flows : FlowSet) (s : SearchState) (trimmed : List TrimmedRule)
    (dbs : Databases) (eval : Evaluation) : Prop where
  ne_nil : trimmed ≠ []
  nodup : (trimmed.map fun r => r.key).Nodup
  enabled : ∀ r ∈ trimmed, r.key ∈ enabledSet s.dbs.exp.rules s.acceptedRunID
  cloned : ∀ i, cloneRulesInDB (s.dbs.get i).rules s.acceptedRunID s.nextRunID
    (trimmed.map TrimmedRule.toRuleRef) = .ok (dbs.get i).rules
  executed : ∃ clock alerts,
    env.snort clock .exp s.nextRunID (listRulesFromDB dbs.exp.rules s.nextRunID true) =
      .ok alerts ∧
    dbs.exp = stored env.rt flows s.nextRunID
      { s.dbs.exp with created := true, rules := dbs.exp.rules } alerts
  evaluated : eval = evaluateRun env.rt flows s.nextRunID dbs

variable {s s' : SearchState}

/-- What copying a candidate does to the rules of one database. -/
theorem Tried.rules {trimmed : List TrimmedRule} {dbs : Databases} {eval : Evaluation}
    (h : Tried env flows s trimmed dbs eval)
    (hne : s.acceptedRunID ≠ s.nextRunID) (i : Instance) :
    (∀ id, id ≠ s.nextRunID → rowsOf (dbs.get i).rules id = rowsOf (s.dbs.get i).rules id) ∧
      enabledSet (dbs.get i).rules s.nextRunID =
        enabledSet (s.dbs.get i).rules s.acceptedRunID \
          (trimmed.map fun r => r.key).toFinset := by
  obtain ⟨t, ht, hothers, hnext⟩ := cloneRulesInDB_eq hne (s.dbs.get i).rules
    (trimmed.map TrimmedRule.toRuleRef)
  have hsame : t = (dbs.get i).rules := by
    rw [h.cloned i] at ht
    exact (Except.ok.inj ht).symm
  subst hsame
  refine ⟨hothers, ?_⟩
  rw [enabledSet_clone hnext, List.map_map]
  rfl

/-- Everything that can happen to the variables of the search. SAFE candidates are committed
unseen, ITER candidates by comparison with the accepted evaluation. -/
inductive Step (cfg : Config) (env : Externals) (flows : FlowSet) (typ : FunctionType) :
    SearchState → SearchState → Prop where
  | tick (s : SearchState) (clock : Nat) : Step cfg env flows typ s { s with clock := clock }
  | commit (s : SearchState) (clock : Nat) (dbs : Databases) (trimmed : List TrimmedRule)
      (r : RunResult) (tried : Tried env flows s trimmed dbs r.evaluation)
      (hid : r.runID = s.nextRunID) (hc : r.committed = true)
      (hj : typ = .ITER → (evaluateCandidate cfg s.acceptedEval r.evaluation).1 = true) :
      Step cfg env flows typ s
        ((({ s with dbs := dbs, clock := clock }.record trimmed r).commit trimmed
          r.evaluation).advance)
  | rollback (s : SearchState) (clock : Nat) (dbs : Databases) (trimmed : List TrimmedRule)
      (r : RunResult) (tried : Tried env flows s trimmed dbs r.evaluation)
      (hid : r.runID = s.nextRunID) (hc : r.committed = false)
      (hj : (evaluateCandidate cfg s.acceptedEval r.evaluation).1 = false) :
      Step cfg env flows typ s ({ s with dbs := dbs, clock := clock }.record trimmed r)
  | advance (s : SearchState) : Step cfg env flows typ s s.advance

abbrev Steps (cfg : Config) (env : Externals) (flows : FlowSet) (typ : FunctionType) :=
  Relation.ReflTransGen (Step cfg env flows typ)

/-- **Invariant rule**: what every step preserves, a sequence of steps preserves. -/
theorem Steps.invariant {typ : FunctionType} {I : SearchState → Prop}
    (hstep : ∀ s s', Step cfg env flows typ s s' → I s → I s')
    (h : Steps cfg env flows typ s s') (hs : I s) : I s' := by
  induction h with
  | refl => exact hs
  | tail _ hlast ih => exact hstep _ _ hlast ih

theorem setTrimRunID_keys (trimmed : List TrimmedRule) (runID : Int) :
    (setTrimRunID trimmed runID).map (fun r => r.key) = trimmed.map fun r => r.key := by
  rw [setTrimRunID, List.map_map]
  rfl

/-- A merged, non-empty list of decisions makes a candidate. -/
theorem tryCandidate_tried {typ : FunctionType} {decisions : List TrimDecision}
    {u : SearchState} {eval : Evaluation}
    (hne : aggregateAndEnrich s.dbs.exp.rules s.acceptedRunID typ decisions ≠ [])
    (h : tryCandidate cfg env flows s (setTrimRunID
      (aggregateAndEnrich s.dbs.exp.rules s.acceptedRunID typ decisions) s.nextRunID) =
        .ok (u, eval)) :
    ∃ dbs, u = { s with dbs := dbs, clock := s.clock + 3 } ∧
      Tried env flows s (setTrimRunID
        (aggregateAndEnrich s.dbs.exp.rules s.acceptedRunID typ decisions) s.nextRunID) dbs
        eval := by
  unfold tryCandidate at h
  obtain ⟨copied, hcopied, h⟩ := bind_eq_ok.mp h
  obtain ⟨dbs, hdbs, h⟩ := bind_eq_ok.mp h
  cases h
  have hclone := cloneRulesForRun_eq_ok hcopied
  have hcreated : ∀ i, (copied.get i).created = true := by
    intro i
    obtain ⟨rules, _, hi⟩ := hclone i
    rw [hi]
  obtain ⟨alerts, halerts, rfl⟩ := runAll_created hcreated hdbs
  obtain ⟨hnodup, henabled⟩ :=
    aggregateAndEnrich_keys s.dbs.exp.rules s.acceptedRunID typ decisions
  refine ⟨_, rfl, ?_, ?_, ?_, ?_, ⟨_, alerts, halerts, ?_⟩, rfl⟩
  · intro hnil
    exact hne (List.map_eq_nil_iff.mp hnil)
  · rw [setTrimRunID_keys]
    exact hnodup
  · intro r hr
    obtain ⟨r', hr', rfl⟩ := List.mem_map.mp hr
    exact henabled r' hr'
  · intro i
    obtain ⟨rules, hrules, hi⟩ := hclone i
    rw [hrules]
    cases i <;> exact congrArg (fun db : SnortDB => Except.ok db.rules) hi.symm
  · obtain ⟨rules, _, hexp⟩ := hclone .exp
    have hexp : copied.exp = { s.dbs.exp with created := true, rules := rules } := hexp
    show stored env.rt flows s.nextRunID copied.exp alerts =
      stored env.rt flows s.nextRunID
        { s.dbs.exp with created := true, rules := copied.exp.rules } alerts
    rw [hexp]

/-- The SAFE stage commits at most one run. -/
theorem safeStage_cases {sch : Scheduler} (h : safeStage sch env flows s = .ok s') :
    (∃ clock, s' = { s with clock := clock }) ∨
    ∃ clock clock' dbs trimmed r,
      Tried env flows { s with clock := clock } trimmed dbs r.evaluation ∧
      r.runID = s.nextRunID ∧ r.committed = true ∧
      s' = ((({ s with dbs := dbs, clock := clock' }.record trimmed r).commit trimmed
        r.evaluation).advance) := by
  unfold safeStage at h
  obtain ⟨decisions, _, h⟩ := bind_eq_ok.mp h
  dsimp only at h
  split at h
  · cases h
    exact .inl ⟨_, rfl⟩
  · next hne =>
      obtain ⟨⟨u, eval⟩, hu, h⟩ := bind_eq_ok.mp h
      obtain ⟨dbs, rfl, htried⟩ := tryCandidate_tried
        (s := { s with clock := s.clock + (sch.functionsByType .SAFE).length }) hne hu
      let r : RunResult :=
        { runID := s.nextRunID, committed := true, rolledBack := false, factor := 1
          reason := "SAFE functions are committed directly", evaluation := eval }
      exact .inr ⟨_, _, dbs, _, r, htried, rfl, rfl, (Except.ok.inj h).symm⟩

theorem safeStage_steps {sch : Scheduler} (h : safeStage sch env flows s = .ok s') :
    Steps sch.cfg env flows .SAFE s s' := by
  rcases safeStage_cases h with ⟨clock, rfl⟩ |
    ⟨clock, clock', dbs, trimmed, r, htried, hid, hc, rfl⟩
  · exact .single (.tick s clock)
  · refine .tail (.single (.tick s clock)) ?_
    exact .commit { s with clock := clock } clock' dbs trimmed r htried hid hc (by simp)

/-- What a round of an ITER function does. -/
theorem iterRound_cases {sch : Scheduler} {fn : RegisteredFunction} {round : Nat} {factor : ℚ}
    {outcome : RoundOutcome} (h : iterRound sch env flows fn round factor s = .ok outcome) :
    (∃ clock, outcome = .exhausted { s with clock := clock }) ∨
    ∃ clock clock' dbs trimmed r,
      Tried env flows { s with clock := clock } trimmed dbs r.evaluation ∧
      r.runID = s.nextRunID ∧ r.factor = factor ∧
      r.committed = (evaluateCandidate sch.cfg s.acceptedEval r.evaluation).1 ∧
      outcome =
        if r.committed then
          .committed (({ s with dbs := dbs, clock := clock' }.record trimmed r).commit trimmed
            r.evaluation)
        else .rolledBack ({ s with dbs := dbs, clock := clock' }.record trimmed r) := by
  unfold iterRound at h
  obtain ⟨decisions, _, h⟩ := bind_eq_ok.mp h
  dsimp only at h
  split at h
  · cases h
    exact .inl ⟨_, rfl⟩
  · next hne =>
      obtain ⟨⟨u, eval⟩, hu, h⟩ := bind_eq_ok.mp h
      obtain ⟨dbs, rfl, htried⟩ := tryCandidate_tried
        (s := { s with clock := s.clock + 1 }) hne hu
      -- trying a candidate leaves the accepted evaluation alone
      let verdict := evaluateCandidate sch.cfg s.acceptedEval eval
      let r : RunResult :=
        { runID := s.nextRunID, committed := verdict.1, rolledBack := !verdict.1, factor := factor
          reason := fn.name ++ ": " ++ verdict.2, evaluation := eval }
      exact .inr ⟨_, _, dbs, _, r, htried, rfl, rfl, rfl, (Except.ok.inj h).symm⟩

/-- How the loop goes on after a round. -/
theorem iterRounds_cases {sch : Scheduler} {fn : RegisteredFunction} {n round : Nat} {factor : ℚ}
    (h : iterRounds sch env flows fn (n + 1) round factor s = .ok s') :
    (∃ clock, s' = { s with clock := clock }) ∨
    ∃ clock clock' dbs trimmed r,
      Tried env flows { s with clock := clock } trimmed dbs r.evaluation ∧
      r.runID = s.nextRunID ∧
      r.committed = (evaluateCandidate sch.cfg s.acceptedEval r.evaluation).1 ∧
      let t := { s with dbs := dbs, clock := clock' }.record trimmed r
      ((r.committed = true ∧ iterRounds sch env flows fn n (round + 1) factor
          (t.commit trimmed r.evaluation).advance = .ok s') ∨
        (r.committed = false ∧ factor / 2 ≤ factorCutoff ∧ s' = t) ∨
        (r.committed = false ∧
          iterRounds sch env flows fn n (round + 1) (factor / 2) t.advance = .ok s')) := by
  rw [iterRounds] at h
  obtain ⟨outcome, houtcome, h⟩ := bind_eq_ok.mp h
  rcases iterRound_cases houtcome with ⟨clock, rfl⟩ |
    ⟨clock, clock', dbs, trimmed, r, htried, hid, _, hj, rfl⟩
  · cases h
    exact .inl ⟨clock, rfl⟩
  · refine .inr ⟨clock, clock', dbs, trimmed, r, htried, hid, hj, ?_⟩
    cases hc : r.committed with
    | true =>
        rw [hc] at h
        exact .inl ⟨rfl, h⟩
    | false =>
        rw [hc] at h
        simp only [Bool.false_eq_true, if_false] at h
        split at h
        · next hcut =>
            cases h
            exact .inr (.inl ⟨rfl, hcut, rfl⟩)
        · exact .inr (.inr ⟨rfl, h⟩)

theorem iterRounds_steps {sch : Scheduler} {fn : RegisteredFunction} {n round : Nat} {factor : ℚ}
    (h : iterRounds sch env flows fn n round factor s = .ok s') :
    Steps sch.cfg env flows .ITER s s' := by
  induction n generalizing round factor s with
  | zero =>
      cases h
      exact .refl
  | succ n ih =>
      rcases iterRounds_cases h with ⟨clock, rfl⟩ |
        ⟨clock, clock', dbs, trimmed, r, htried, hid, hj, hrest⟩
      · exact .single (.tick s clock)
      · have htick : Steps sch.cfg env flows .ITER s { s with clock := clock } :=
          .single (.tick s clock)
        have hroll (hc : r.committed = false) := htick.tail
          (.rollback { s with clock := clock } clock' dbs trimmed r htried hid hc (hj ▸ hc))
        rcases hrest with ⟨hc, h⟩ | ⟨hc, _, rfl⟩ | ⟨hc, h⟩
        · refine (htick.tail ?_).trans (ih h)
          exact .commit { s with clock := clock } clock' dbs trimmed r htried hid hc
            fun _ => (hj ▸ hc)
        · -- left at the cut-off, with the run id not advanced
          exact hroll hc
        · exact ((hroll hc).tail (.advance _)).trans (ih h)

theorem iterFunctions_steps {sch : Scheduler} {fns : List RegisteredFunction}
    (h : iterFunctions sch env flows fns s = .ok s') : Steps sch.cfg env flows .ITER s s' := by
  induction fns generalizing s with
  | nil =>
      cases h
      exact .refl
  | cons fn fns ih =>
      rw [iterFunctions] at h
      obtain ⟨t, ht, h⟩ := bind_eq_ok.mp h
      exact (iterRounds_steps ht).trans (ih h)

/-! ## Whole runs -/

/-- The working directory is cleared, or there is nothing in it. -/
def Fresh (cfg : Config) (dbs : Databases) : Prop :=
  cfg.preserveWorkDBs = false ∨ dbs = Databases.empty

/-- In a fresh working directory every database is set up from nothing. -/
theorem prepareRuleDatabases_fresh {dbs dbs₀ : Databases} {store store₀ : AnalyserStore}
    (hfresh : Fresh cfg dbs) (h : prepareRuleDatabases cfg env dbs store = .ok (dbs₀, store₀))
    (i : Instance) : initRuleDB cfg env SnortDB.empty = .ok (dbs₀.get i) := by
  unfold prepareRuleDatabases at h
  obtain ⟨⟨start, startStore⟩, hstart, h⟩ := bind_eq_ok.mp h
  have hempty : start = Databases.empty := by
    unfold startDatabases at hstart
    by_cases hp : cfg.preserveWorkDBs = true
    · rw [if_pos hp] at hstart
      rcases hfresh with hf | hf
      · rw [hf] at hp
        cases hp
      · cases hstart
        exact hf
    · rw [if_neg hp] at hstart
      obtain ⟨_, _, hstart⟩ := bind_eq_ok.mp hstart
      cases hstart
      rfl
  subst hempty
  obtain ⟨exp, hexp, h⟩ := bind_eq_ok.mp h
  obtain ⟨real, hreal, h⟩ := bind_eq_ok.mp h
  obtain ⟨base, hbase, h⟩ := bind_eq_ok.mp h
  cases h
  cases i with
  | exp => exact wrapError_eq_ok hexp
  | real => exact wrapError_eq_ok hreal
  | base => exact wrapError_eq_ok hbase

/-- A run that returns a result: the databases were prepared, run 0 recorded, and then steps taken
by the SAFE stage and by the ITER stage. -/
theorem run_eq_ok {sch : Scheduler} {dbs : Databases} {store : AnalyserStore} {out : Output}
    (h : sch.run env dbs store = .ok out) :
    ∃ flows dbs₀ store₀ s safe final,
      env.flows = .ok flows ∧
      prepareRuleDatabases sch.cfg env dbs store = .ok (dbs₀, store₀) ∧
      baseline sch env flows dbs₀ store₀ = .ok s ∧
      safeStage sch env flows s = .ok safe ∧
      iterFunctions sch env flows (sch.functionsByType .ITER) safe = .ok final ∧
      out = {
        result :=
          { finalRunID := final.acceptedRunID
            trimmedRules := sortTrimmedRules final.trimmedRules
            runs := final.runs }
        dbs := final.dbs, store := final.store, trace := final.trace
        safeRuns := safe.runs.length } := by
  unfold Scheduler.run at h
  obtain ⟨⟨dbs₀, store₀⟩, hprep, h⟩ := bind_eq_ok.mp h
  obtain ⟨flows, hflows, h⟩ := bind_eq_ok.mp h
  obtain ⟨s, hs, h⟩ := bind_eq_ok.mp h
  obtain ⟨safe, hsafe, h⟩ := bind_eq_ok.mp h
  obtain ⟨final, hfinal, h⟩ := bind_eq_ok.mp h
  cases h
  exact ⟨flows, dbs₀, store₀, s, safe, final, hflows, hprep, hs, hsafe, hfinal, rfl⟩

/-- The state after the baseline run. -/
theorem baseline_eq_ok {sch : Scheduler} {dbs : Databases} {store : AnalyserStore}
    (h : baseline sch env flows dbs store = .ok s) :
    ∃ dbs' r, runAll sch.cfg env flows 0 0 dbs = .ok dbs' ∧ r.runID = 0 ∧ r.committed = true ∧
      r.evaluation = evaluateRun env.rt flows 0 dbs' ∧
      s.dbs = dbs' ∧ s.acceptedRunID = 0 ∧ s.acceptedEval = r.evaluation ∧ s.nextRunID = 1 ∧
      s.trimmedRules = [] ∧ s.runs = [r] ∧ s.trace = [dbs'] := by
  unfold baseline at h
  obtain ⟨dbs', hdbs, h⟩ := bind_eq_ok.mp h
  cases h
  exact ⟨dbs', _, hdbs, rfl, rfl, rfl, rfl, rfl, rfl, rfl, rfl, rfl, rfl⟩

end SnortOptimizer.Analyser
