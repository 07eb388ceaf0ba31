import SnortOptimizer.Analyser.Adversary
import Mathlib.Algebra.Order.Field.Basic

/-!
# Run ids

Everything a run produces is stored under its id, so an id must not be used twice. The search takes
the next id for every candidate and counts it up after the round, except in one place: a rollback
that brings the factor down to the cut-off leaves the loop before the count. The next function then
runs its first candidate under the id of the candidate just rolled back, and the alerts of both are
evaluated together.

`runIDs_inOrder_iff` says for which configurations this cannot happen: with fewer than two ITER
functions, with a factor that the allowed number of halvings does not bring down to the cut-off, or
when no rollback is possible because every change of rate is allowed.
-/

namespace SnortOptimizer.Analyser

/-- The ids are 0, 1, 2, … -/
def InOrder (runs : List RunResult) : Prop :=
  runs.map (·.runID) = (List.range runs.length).map Int.ofNat

/-- What the exp database holds under a run id comes from one execution of Snort on the rules it
holds under that id. -/
def FromOneExecution (env : Externals) (flows : FlowSet) (db : SnortDB) (runID : Int) : Prop :=
  ∃ clock alerts,
    env.snort clock .exp runID (listRulesFromDB db.rules runID true) = .ok alerts ∧
    loadEvalAlerts db runID = alerts ∧
    db.ruleFP.filter (·.runID = runID) = (listRulesFromDB db.rules runID true).map
      (ruleFPRow (buildRuleFPStats env.rt flows alerts) runID)

/-- No run id is used twice; in a fresh working directory, what is stored under an id then comes
from one execution. -/
structure NeverReused (cfg : Config) (env : Externals) (dbs : Databases) (out : Output) :
    Prop where
  inOrder : InOrder out.result.runs
  single : Fresh cfg dbs → ∀ flows, env.flows = .ok flows → ∀ r ∈ out.result.runs,
    FromOneExecution env flows out.dbs.exp r.runID

variable {cfg : Config} {env : Externals} {flows : FlowSet} {s s' : SearchState}

theorem InOrder.append {runs : List RunResult} {r : RunResult} (h : InOrder runs)
    (hr : r.runID = runs.length) : InOrder (runs ++ [r]) := by
  rw [InOrder, List.map_append, h, List.length_append, List.length_singleton, List.range_succ,
    List.map_append, List.map_singleton, List.map_singleton, hr]
  rfl

theorem InOrder.nodup {runs : List RunResult} (h : InOrder runs) :
    (runs.map (·.runID)).Nodup := by
  rw [h]
  exact List.nodup_range.map fun _ _ => Int.ofNat.inj

/-! ## Ids along the search -/

/-- The ids so far are in order and the next one continues them. -/
structure Numbered (s : SearchState) : Prop where
  inOrder : InOrder s.runs
  next : s.nextRunID = s.runs.length
  rates : 0 ≤ s.acceptedEval.missRate ∧ 0 ≤ s.acceptedEval.falsePositiveRate

/-- What recording a run under the next id makes of the ids. -/
theorem Numbered.record (hs : Numbered s) {r : RunResult} (hid : r.runID = s.nextRunID) :
    InOrder (s.runs ++ [r]) ∧ s.nextRunID + 1 = ((s.runs ++ [r]).length : Int) := by
  refine ⟨hs.inOrder.append (hid.trans hs.next), ?_⟩
  rw [hs.next, List.length_append, List.length_singleton]
  rfl

/-- A configuration that allows for every change of a rate. -/
def Config.Lenient (cfg : Config) : Prop :=
  1 ≤ cfg.maxMissRateIncrease ∧ 1 ≤ cfg.maxFPRateIncrease

theorem evaluateRun_rates (rt : Runtime) (flows : FlowSet) (runID : Int) (dbs : Databases) :
    let eval := evaluateRun rt flows runID dbs
    (0 ≤ eval.missRate ∧ eval.missRate ≤ 1) ∧
      0 ≤ eval.falsePositiveRate ∧ eval.falsePositiveRate ≤ 1 :=
  (evaluateAlerts_counts rt flows (loadEvalAlerts dbs.exp runID)).rates

theorem Tried.rates {trimmed : List TrimmedRule} {dbs : Databases} {eval : Evaluation}
    (h : Tried env flows s trimmed dbs eval) :
    (0 ≤ eval.missRate ∧ eval.missRate ≤ 1) ∧
      0 ≤ eval.falsePositiveRate ∧ eval.falsePositiveRate ≤ 1 := by
  rw [h.evaluated]
  exact evaluateRun_rates env.rt flows s.nextRunID dbs

theorem lenient_accepts (hl : cfg.Lenient) {accepted candidate : Evaluation}
    (ha : 0 ≤ accepted.missRate ∧ 0 ≤ accepted.falsePositiveRate)
    (hc : candidate.missRate ≤ 1 ∧ candidate.falsePositiveRate ≤ 1) :
    (evaluateCandidate cfg accepted candidate).1 = true := by
  unfold evaluateCandidate
  dsimp only
  have hmiss : ¬ cfg.maxMissRateIncrease < candidate.missRate - accepted.missRate := by
    linarith [hl.1]
  have hfp : ¬ cfg.maxFPRateIncrease <
      candidate.falsePositiveRate - accepted.falsePositiveRate := by
    linarith [hl.2]
  rw [if_neg fun h => hmiss h.2, if_neg fun h => hfp h.2]

/-- A factor that stays above the cut-off through `n + 1` halvings is above it after one, and stays
above it through `n` more, halved or not. -/
theorem cutoff_lt {factor : ℚ} {n : Nat} (h : factorCutoff < factor / 2 ^ (n + 1)) :
    factorCutoff < factor / 2 ∧ factorCutoff < factor / 2 / 2 ^ n ∧
      factorCutoff < factor / 2 ^ n := by
  have hcut : 0 < factorCutoff := by
    unfold factorCutoff
    norm_num
  have hpow : (1 : ℚ) ≤ 2 ^ n := one_le_pow₀ one_le_two
  have hhalf : factorCutoff < factor / 2 / 2 ^ n := by
    rw [div_div, ← pow_succ']
    exact h
  have hpos : 0 < factor / 2 := by
    by_contra hneg
    have := div_nonpos_of_nonpos_of_nonneg (not_lt.mp hneg) (zero_le_one.trans hpow)
    linarith
  refine ⟨hhalf.trans_le (div_le_self hpos.le hpow), hhalf, ?_⟩
  calc factorCutoff < factor / 2 / 2 ^ n := hhalf
    _ ≤ factor / 2 ^ n := by
        apply div_le_div_of_nonneg_right _ (zero_le_one.trans hpow)
        linarith

/-- One function: the ids stay in order, and unless the loop can break off at the cut-off the next
id continues them. -/
theorem iterRounds_numbered {sch : Scheduler} {fn : RegisteredFunction} (n : Nat) :
    ∀ (round : Nat) (factor : ℚ) (s s' : SearchState), Numbered s →
      iterRounds sch env flows fn n round factor s = .ok s' →
      InOrder s'.runs ∧ (factorCutoff < factor / 2 ^ n ∨ sch.cfg.Lenient → Numbered s') := by
  induction n with
  | zero =>
      intro round factor s s' hs h
      cases h
      exact ⟨hs.inOrder, fun _ => hs⟩
  | succ n ih =>
      intro round factor s s' hs h
      rcases iterRounds_cases h with ⟨clock, rfl⟩ |
        ⟨clock, clock', dbs, trimmed, r, htried, hid, hj, hrest⟩
      · exact ⟨hs.inOrder, fun _ => { hs with }⟩
      · have hrates := htried.rates
        obtain ⟨happend, hnext⟩ := hs.record hid
        -- a commit and a rollback both record a run; only the cut-off skips the count
        rcases hrest with ⟨hc, h⟩ | ⟨hc, hcut, rfl⟩ | ⟨hc, h⟩
        · have hnumbered : Numbered ((({ s with dbs := dbs, clock := clock' }.record trimmed
              r).commit trimmed r.evaluation).advance) :=
            ⟨happend, hnext, hrates.1.1, hrates.2.1⟩
          obtain ⟨horder, hrest⟩ := ih _ _ _ _ hnumbered h
          refine ⟨horder, fun hcond => hrest ?_⟩
          -- the factor is what it was, with one halving less to come
          exact hcond.imp_left fun hlarge => (cutoff_lt hlarge).2.2
        · refine ⟨happend, fun hcond => ?_⟩
          rcases hcond with hlarge | hlenient
          · exact absurd hcut (not_le.mpr (cutoff_lt hlarge).1)
          · have haccept := lenient_accepts hlenient hs.rates ⟨hrates.1.2, hrates.2.2⟩
            rw [← hj, hc] at haccept
            cases haccept
        · have hnumbered : Numbered ({ s with dbs := dbs, clock := clock' }.record trimmed
              r).advance := ⟨happend, hnext, hs.rates⟩
          obtain ⟨horder, hrest⟩ := ih _ _ _ _ hnumbered h
          exact ⟨horder, fun hcond => hrest (hcond.imp_left fun hlarge =>
            (cutoff_lt hlarge).2.1)⟩

/-- All functions: the ids are in order if there is one function at most, or if none breaks off. -/
theorem iterFunctions_inOrder {sch : Scheduler} (fns : List RegisteredFunction) :
    ∀ s s' : SearchState, Numbered s → iterFunctions sch env flows fns s = .ok s' →
      fns.length ≤ 1 ∨ factorCutoff < sch.cfg.initialFactor / 2 ^ sch.cfg.maxRound.toNat ∨
        sch.cfg.Lenient →
      InOrder s'.runs := by
  induction fns with
  | nil =>
      intro s s' hs h _
      cases h
      exact hs.inOrder
  | cons fn fns ih =>
      intro s s' hs h hcond
      obtain ⟨t, ht, h⟩ := bind_eq_ok.mp h
      obtain ⟨horder, hnumbered⟩ := iterRounds_numbered _ _ _ _ _ hs ht
      rcases hcond with hone | hnever
      · -- nothing comes after the only function
        have hnil : fns = [] := List.length_eq_zero_iff.mp (by simpa using hone)
        subst hnil
        cases h
        exact horder
      · exact ih t s' (hnumbered hnever) h (.inr hnever)

theorem numbered_baseline {sch : Scheduler} {dbs : Databases} {store : AnalyserStore}
    (h : baseline sch env flows dbs store = .ok s) : Numbered s := by
  obtain ⟨_, r, _, hid, _, heval, _, _, hacceptedEval, hnext, _, hruns, _⟩ := baseline_eq_ok h
  refine ⟨?_, ?_, ?_⟩
  · rw [hruns, InOrder, List.map_singleton, hid]
    rfl
  · rw [hnext, hruns]
    rfl
  · rw [hacceptedEval, heval]
    exact ⟨(evaluateRun_rates _ _ _ _).1.1, (evaluateRun_rates _ _ _ _).2.1⟩

theorem numbered_safeStage {sch : Scheduler} (hs : Numbered s)
    (h : safeStage sch env flows s = .ok s') : Numbered s' := by
  rcases safeStage_cases h with ⟨clock, rfl⟩ | ⟨_, clock, dbs, trimmed, r, htried, hid, _, rfl⟩
  · exact { hs with }
  · have hrates := htried.rates
    obtain ⟨happend, hnext⟩ := hs.record hid
    exact ⟨happend, hnext, hrates.1.1, hrates.2.1⟩

/-! ## What is stored under an id -/

variable {runID id : Int} {db : SnortDB} {alerts : List AlertForEval}

theorem loadEvalAlerts_stored_of_ne (h : id ≠ runID) :
    loadEvalAlerts (stored env.rt flows runID db alerts) id = loadEvalAlerts db id := by
  show ((db.alerts ++ alerts.map fun a => (runID, a)).filter (·.1 = id)).map Prod.snd = _
  have hnone : (alerts.map fun a => (runID, a)).filter (·.1 = id) = [] := by
    rw [List.filter_eq_nil_iff]
    intro e he
    obtain ⟨a, _, rfl⟩ := List.mem_map.mp he
    simpa using Ne.symm h
  rw [List.filter_append, hnone, List.append_nil]
  rfl

/-- Under an id that had no alerts, exactly the new ones are found. -/
theorem loadEvalAlerts_stored_self (env : Externals) (flows : FlowSet)
    (alerts : List AlertForEval) (h : ∀ e ∈ db.alerts, e.1 ≠ runID) :
    loadEvalAlerts (stored env.rt flows runID db alerts) runID = alerts := by
  show ((db.alerts ++ alerts.map fun a => (runID, a)).filter (·.1 = runID)).map Prod.snd = _
  have hold : db.alerts.filter (·.1 = runID) = [] := by
    rw [List.filter_eq_nil_iff]
    intro e he
    simpa using h e he
  have hnew : (alerts.map fun a => (runID, a)).filter (·.1 = runID) =
      alerts.map fun a => (runID, a) := by
    rw [List.filter_eq_self]
    intro e he
    obtain ⟨a, _, rfl⟩ := List.mem_map.mp he
    exact decide_eq_true rfl
  rw [List.filter_append, hold, hnew, List.nil_append, List.map_map]
  exact List.map_id alerts

/-- The derived rows are replaced under the id of the execution and kept under all others. -/
theorem ruleFP_stored :
    (stored env.rt flows runID db alerts).ruleFP.filter (·.runID = id) =
      if id = runID then
        (listRulesFromDB db.rules runID true).map (ruleFPRow (buildRuleFPStats env.rt flows
          (loadEvalAlerts (stored env.rt flows runID db alerts) runID)) runID)
      else db.ruleFP.filter (·.runID = id) := by
  apply filter_replace
  intro r hr
  obtain ⟨rule, _, rfl⟩ := List.mem_map.mp hr
  rfl

/-- An execution under an id that had no alerts is all there is under that id. -/
theorem fromOneExecution_stored {clock : Nat} (h : ∀ e ∈ db.alerts, e.1 ≠ runID)
    (hsnort : env.snort clock .exp runID (listRulesFromDB db.rules runID true) = .ok alerts) :
    FromOneExecution env flows (stored env.rt flows runID db alerts) runID := by
  have halerts := loadEvalAlerts_stored_self env flows alerts h
  refine ⟨clock, alerts, hsnort, halerts, ?_⟩
  rw [ruleFP_stored, if_pos rfl, halerts]
  rfl

/-- An execution under another id leaves alone what is under this one. -/
theorem FromOneExecution.keep {db' : SnortDB} (h : FromOneExecution env flows db id)
    (hrules : rowsOf db'.rules id = rowsOf db.rules id)
    (halerts : loadEvalAlerts db' id = loadEvalAlerts db id)
    (hruleFP : db'.ruleFP.filter (·.runID = id) = db.ruleFP.filter (·.runID = id)) :
    FromOneExecution env flows db' id := by
  obtain ⟨clock, alerts, hsnort, hload, hfp⟩ := h
  have hlist : listRulesFromDB db'.rules id true = listRulesFromDB db.rules id true := by
    rw [listRulesFromDB, hrules, listRulesFromDB]
  refine ⟨clock, alerts, ?_, ?_, ?_⟩
  · rw [hlist]
    exact hsnort
  · rw [halerts]
    exact hload
  · rw [hruleFP, hlist]
    exact hfp

/-- As long as no id is used twice, every id has its one execution. -/
structure Sourced (env : Externals) (flows : FlowSet) (s : SearchState) : Prop where
  accepted_lt : s.acceptedRunID < s.nextRunID
  known : ∀ e ∈ s.dbs.exp.alerts, e.1 ∈ s.runs.map (·.runID)
  single : (s.runs.map (·.runID)).Nodup → ∀ r ∈ s.runs,
    FromOneExecution env flows s.dbs.exp r.runID

/-- Recording a candidate keeps the alerts known, and the ids that differ keep their execution. -/
theorem Sourced.record (hS : Sourced env flows s) {trimmed : List TrimmedRule} {dbs : Databases}
    {r : RunResult} (h : Tried env flows s trimmed dbs r.evaluation)
    (hid : r.runID = s.nextRunID) :
    (∀ e ∈ dbs.exp.alerts, e.1 ∈ (s.runs ++ [r]).map (·.runID)) ∧
      (((s.runs ++ [r]).map (·.runID)).Nodup → ∀ x ∈ s.runs ++ [r],
        FromOneExecution env flows dbs.exp x.runID) := by
  obtain ⟨clock, alerts, hsnort, hexp⟩ := h.executed
  refine ⟨fun e he => ?_, fun hnodup x hx => ?_⟩
  · rw [List.map_append, List.mem_append]
    rw [hexp] at he
    rcases List.mem_append.mp he with he | he
    · exact .inl (hS.known e he)
    · obtain ⟨a, _, rfl⟩ := List.mem_map.mp he
      right
      rw [List.map_singleton, List.mem_singleton]
      exact hid.symm
  · rw [List.map_append, List.map_singleton, hid, List.nodup_append] at hnodup
    obtain ⟨hold, _, hnew⟩ := hnodup
    rcases List.mem_append.mp hx with hx | hx
    · -- an older run: its id is not the one executed now
      have hne : x.runID ≠ s.nextRunID :=
        hnew _ (List.mem_map.mpr ⟨x, hx, rfl⟩) _ (List.mem_singleton.mpr rfl)
      apply (hS.single hold x hx).keep
      · exact (h.rules (ne_of_lt hS.accepted_lt) .exp).1 _ hne
      · rw [hexp, loadEvalAlerts_stored_of_ne hne]
        rfl
      · rw [hexp, ruleFP_stored, if_neg hne]
    · rw [List.mem_singleton.mp hx, hid, hexp]
      apply fromOneExecution_stored
      · intro e he heq
        exact hnew _ (hS.known e he) _ (List.mem_singleton.mpr rfl) heq
      · exact hsnort

theorem sourced_step {typ : FunctionType} (h : Step cfg env flows typ s s')
    (hS : Sourced env flows s) : Sourced env flows s' := by
  have hlt := hS.accepted_lt
  cases h with
  | tick clock => exact { hS with }
  | advance =>
      refine { hS with accepted_lt := ?_ }
      show s.acceptedRunID < s.nextRunID + 1
      omega
  | commit clock dbs trimmed r tried hid _ _ =>
      obtain ⟨hknown, hsingle⟩ := hS.record tried hid
      refine ⟨?_, hknown, hsingle⟩
      show s.nextRunID < s.nextRunID + 1
      omega
  | rollback clock dbs trimmed r tried hid _ _ =>
      obtain ⟨hknown, hsingle⟩ := hS.record tried hid
      exact ⟨hlt, hknown, hsingle⟩

/-! ## Whole runs -/

theorem initRuleDB_alerts {db' : SnortDB} (h : initRuleDB cfg env db = .ok db') :
    db'.alerts = db.alerts := by
  unfold initRuleDB at h
  split at h
  · obtain ⟨rules, _, h⟩ := bind_eq_ok.mp h
    split at h
    · cases h
    · cases h
      rfl
  · obtain ⟨records, _, h⟩ := bind_eq_ok.mp h
    rw [← Except.ok.inj h]
    split <;> rfl

theorem ensureRuleStore_alerts {db' : SnortDB} {inst : Instance}
    (h : ensureRuleStore cfg env inst runID db = .ok db') : db'.alerts = db.alerts := by
  cases hc : db.created with
  | true => rw [ensureRuleStore_created hc h]
  | false =>
      unfold ensureRuleStore at h
      by_cases hz : runID ≠ 0
      · rw [if_pos hz, if_pos hc] at h
        cases h
      · rw [if_neg hz, hc] at h
        obtain ⟨records, _, h⟩ := bind_eq_ok.mp h
        rw [← Except.ok.inj h]

theorem sourced_baseline {sch : Scheduler} {dbs dbs₀ : Databases} {store store₀ : AnalyserStore}
    (hfresh : Fresh sch.cfg dbs)
    (hprep : prepareRuleDatabases sch.cfg env dbs store = .ok (dbs₀, store₀))
    (h : baseline sch env flows dbs₀ store₀ = .ok s) : Sourced env flows s := by
  obtain ⟨_, r, hrun, hid, _, _, hdbs, hacc, _, hnext, _, hruns, _⟩ := baseline_eq_ok h
  obtain ⟨u, alerts, hu, hsnort, rfl⟩ := runAll_eq_ok hrun
  have hnone : u.exp.alerts = [] := by
    have hexp : ensureRuleStore sch.cfg env .exp 0 dbs₀.exp = .ok u.exp := hu .exp
    have hinit : initRuleDB sch.cfg env SnortDB.empty = .ok dbs₀.exp :=
      prepareRuleDatabases_fresh hfresh hprep .exp
    rw [ensureRuleStore_alerts hexp, initRuleDB_alerts hinit]
    rfl
  refine ⟨?_, ?_, ?_⟩
  · rw [hacc, hnext]
    decide
  · intro e he
    rw [hruns, List.map_singleton, hid, List.mem_singleton]
    rw [hdbs] at he
    have he : e ∈ u.exp.alerts ++ alerts.map fun a => ((0 : Int), a) := he
    rw [hnone, List.nil_append] at he
    obtain ⟨a, _, rfl⟩ := List.mem_map.mp he
    rfl
  · intro _ x hx
    rw [hruns, List.mem_singleton] at hx
    rw [hx, hid, hdbs]
    apply fromOneExecution_stored
    · rw [hnone]
      intro e he
      cases he
    · exact hsnort

/-- **When run ids are never reused.** For every configuration and every number of ITER functions:
all runs, whatever the functions propose and however the candidates turn out, number their runs 0,
1, 2, … and keep one execution under each id if and only if there are not two ITER functions, the
allowed halvings do not bring the factor down to the cut-off, or no change of rate is too large. -/
theorem runIDs_inOrder_iff (cfg : Config) (hcfg : cfg.Normalized) (n : Nat) :
    (∀ (sch : Scheduler) (env : Externals) (dbs : Databases) (store : AnalyserStore) (out : Output),
      sch.cfg = cfg → (sch.functionsByType .ITER).length = n → sch.run env dbs store = .ok out →
        NeverReused cfg env dbs out) ↔
    n ≤ 1 ∨ factorCutoff < cfg.initialFactor / 2 ^ cfg.maxRound.toNat ∨ cfg.Lenient := by
  constructor
  · intro h
    by_contra hcond
    rw [not_or, not_or, not_le, not_lt] at hcond
    obtain ⟨hmany, hcut, hstrict⟩ := hcond
    obtain ⟨malicious, hstrict⟩ : ∃ malicious, cfg.Strict malicious := by
      by_cases hmiss : cfg.maxMissRateIncrease < 1
      · exact ⟨true, hmiss⟩
      · exact ⟨false, not_le.mp fun hfp => hstrict ⟨not_lt.mp hmiss, hfp⟩⟩
    obtain ⟨k, rfl⟩ : ∃ k, n = k + 2 := ⟨n - 2, by omega⟩
    obtain ⟨out, ids, x, hrun, hids⟩ := rejecting_run hstrict hcfg.maxRound hcut k
    have hcount : (Scheduler.functionsByType
        { cfg := cfg, functions := List.replicate (k + 2) persistent } .ITER).length = k + 2 := by
      show ((List.replicate (k + 2) persistent).filter _).length = k + 2
      rw [List.filter_replicate_of_pos (by rfl), List.length_replicate]
    have hnodup := (h _ _ _ _ _ rfl hcount hrun).inOrder.nodup.sublist hids.sublist
    -- but the list has an id twice
    have hpair : [x, x].Nodup := hnodup.sublist (List.sublist_append_right ids [x, x])
    simp at hpair
  · rintro hcond sch env dbs store out rfl rfl hrun
    obtain ⟨flows, dbs₀, store₀, s, safe, final, hflows, hprep, hbase, hsafe, hiter, rfl⟩ :=
      run_eq_ok hrun
    have horder : InOrder final.runs :=
      iterFunctions_inOrder _ safe final (numbered_safeStage (numbered_baseline hbase) hsafe) hiter
        hcond
    refine ⟨horder, ?_⟩
    intro hfresh flows' hflows' r hr
    rw [hflows] at hflows'
    cases hflows'
    have hstart := sourced_baseline hfresh hprep hbase
    have hmiddle := (safeStage_steps hsafe).invariant (fun _ _ => sourced_step) hstart
    have hend := (iterFunctions_steps hiter).invariant (fun _ _ => sourced_step) hmiddle
    exact hend.single horder.nodup r hr

/-- With the default configuration the ids stay in order, even where nothing is accepted. -/
theorem runIDs_inOrder_default :
    ∃ out, Scheduler.run { cfg := defaultConfig, functions := [persistent, persistent] }
        (lone true) .empty { runs := [], trimDecisions := [] } = .ok out ∧
      out.result.runs.length = 9 ∧ InOrder out.result.runs := by
  have hlength : ((Scheduler.run { cfg := defaultConfig, functions := [persistent, persistent] }
      (lone true) .empty { runs := [], trimDecisions := [] }).toOption.map
        fun out => out.result.runs.length) = some 9 := by
    decide +kernel
  obtain ⟨out, hout, hnine⟩ := Option.map_eq_some_iff.mp hlength
  have hrun := eq_ok_of_toOption hout
  have hcut : factorCutoff < defaultConfig.initialFactor / 2 ^ defaultConfig.maxRound.toNat := by
    decide +kernel
  have hnever := (runIDs_inOrder_iff defaultConfig (normalizeNumbers_normalized _) 2).mpr
    (.inr (.inl hcut)) _ _ _ _ out rfl rfl hrun
  exact ⟨out, hrun, hnine, hnever.inOrder⟩

/-- One round for each of two functions, and a factor that the first rollback brings below the
cut-off: both functions run their candidate under id 1. -/
theorem runID_used_twice :
    let cfg := { defaultConfig with maxRound := 1, initialFactor := 1 / 512 }
    cfg.Normalized ∧
      ∃ out, Scheduler.run { cfg := cfg, functions := [persistent, persistent] } (lone true) .empty
          { runs := [], trimDecisions := [] } = .ok out ∧
        out.result.runs.map (·.runID) = [0, 1, 1] ∧ ¬ NeverReused cfg (lone true) .empty out := by
  intro cfg
  refine ⟨⟨by decide, by decide +kernel, by decide +kernel⟩, ?_⟩
  have hids : ((Scheduler.run { cfg := cfg, functions := [persistent, persistent] }
      (lone true) .empty { runs := [], trimDecisions := [] }).toOption.map
        fun out => out.result.runs.map (·.runID)) = some [0, 1, 1] := by
    decide +kernel
  obtain ⟨out, hout, hids⟩ := Option.map_eq_some_iff.mp hids
  refine ⟨out, eq_ok_of_toOption hout, hids, ?_⟩
  intro hnever
  have hnodup := hnever.inOrder.nodup
  rw [hids] at hnodup
  simp at hnodup

end SnortOptimizer.Analyser
