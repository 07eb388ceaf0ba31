import SnortOptimizer.Analyser.StoreWrites

/-!
# The server's view of an analysis (`server/api/queries.go`)

The server does not keep the scheduler's `Result`. Whenever a client asks for the state of an
analysis, `loadAnalysisResult` reads `analyser.db` in the working directory and works it out again:
the final run is the largest committed run id.
-/

namespace SnortOptimizer.Server

open Analyser

structure AnalysisResultView where
  finalRunID : Int
  runs : List RunResult
  trimmedCount : Nat
  topDecisionTotal : Nat
  topDecisionLimit : Int
  topDecisionOffset : Int
  topDecisions : List TrimDecisionRow
  ruleFP : List RuleFPRow

/-- What a request asks for. `decisionWhere` is the SQL condition `trimDecisionWhere` makes of the
search text. -/
structure AnalysisQuery where
  decisionLimit : Int
  decisionOffset : Int
  decisionWhere : TrimDecisionRow → Bool
  fpLimit : Int

/-- `LIMIT`, where a negative number is no limit. -/
def sqlLimit {α : Type} (limit : Int) (rows : List α) : List α :=
  if limit < 0 then rows else rows.take limit.toNat

/-- `ORDER BY committed DESC, run_id DESC, id DESC`; ids are given in the order of insertion. -/
def queryTrimDecisions (rows : List TrimDecisionRow) (limit offset : Int)
    (decisionWhere : TrimDecisionRow → Bool) : List TrimDecisionRow :=
  let sorted := (rows.filter decisionWhere).reverse.insertionSort fun a b =>
    b.committed < a.committed ∨ (a.committed = b.committed ∧ b.runID ≤ a.runID)
  sqlLimit limit (sorted.drop offset.toNat)

/-- `ORDER BY fp_rate DESC, alerted_flows DESC`. -/
def queryRuleFP (rows : List RuleFPRow) (runID limit : Int) : List RuleFPRow :=
  let sorted := (rows.filter fun r => r.runID = runID ∧ 0 < r.alertedFlows).insertionSort
    fun a b => b.fpRate < a.fpRate ∨ (a.fpRate = b.fpRate ∧ b.alertedFlows ≤ a.alertedFlows)
  sqlLimit limit sorted

/-- The loop over the runs in `loadAnalysisResult`. -/
def finalRunID (runs : List RunResult) : Int :=
  runs.foldl (fun id run => if run.committed ∧ id ≤ run.runID then run.runID else id) 0

/-- `analyserDB` is `none` while there is no `analyser.db`, `expRuleFP` the `rule_FP` table of the
exp instance. -/
def loadAnalysisResult (workDir : String) (analyserDB : Option AnalyserStore)
    (expRuleFP : List RuleFPRow) (q : AnalysisQuery) : Except String AnalysisResultView :=
  match analyserDB with
  | none => throw ("stat " ++ Path.join [workDir, "analyser.db"] ++ ": no such file or directory")
  | some store =>
      let final := finalRunID store.runs
      let limit := if q.decisionLimit ≤ 0 then 80 else q.decisionLimit
      let offset := if q.decisionOffset < 0 then 0 else q.decisionOffset
      return {
        finalRunID := final
        runs := store.runs                     -- `ORDER BY id`
        trimmedCount := store.trimDecisions.countP (·.committed)
        topDecisionTotal := store.trimDecisions.countP q.decisionWhere
        topDecisionLimit := limit
        topDecisionOffset := offset
        topDecisions := queryTrimDecisions store.trimDecisions limit offset q.decisionWhere
        ruleFP := queryRuleFP expRuleFP final q.fpLimit }

/-! ## The largest committed run is the accepted one -/

theorem finalRunID_append (runs : List RunResult) (r : RunResult) :
    finalRunID (runs ++ [r]) =
      if r.committed ∧ finalRunID runs ≤ r.runID then r.runID else finalRunID runs := by
  rw [finalRunID, List.foldl_append]
  rfl

/-- What the store says about a state of the search. The accepted run can be read off, because
each candidate is tried under a larger id than the accepted one. -/
structure Booked (s : SearchState) : Prop where
  runs : s.store.runs = s.runs
  final : finalRunID s.store.runs = s.acceptedRunID
  below : s.acceptedRunID < s.nextRunID
  trimmed : s.store.trimDecisions.countP (·.committed) = s.trimmedRules.length

variable {cfg : Config} {env : Externals} {flows : FlowSet} {typ : FunctionType}
  {s s' : SearchState}

theorem countP_committed (r : RunResult) (trimmed : List TrimmedRule) :
    (trimmed.map fun t => (⟨r.runID, t, r.committed⟩ : TrimDecisionRow)).countP (·.committed) =
      if r.committed then trimmed.length else 0 := by
  induction trimmed with
  | nil => simp
  | cons t trimmed ih =>
      rw [List.map_cons, List.countP_cons, ih, List.length_cons]
      cases r.committed <;> simp

theorem booked_rollback {clock : Nat} {dbs : Databases} {trimmed : List TrimmedRule}
    {r : RunResult} (h : Booked s) (hc : r.committed = false) :
    Booked ({ s with dbs := dbs, clock := clock }.record trimmed r) := by
  constructor
  · show s.store.runs ++ [r] = s.runs ++ [r]
    rw [h.runs]
  · show finalRunID (s.store.runs ++ [r]) = s.acceptedRunID
    rw [finalRunID_append, hc, h.final]
    simp
  · exact h.below
  · show (s.store.trimDecisions ++ _).countP _ = s.trimmedRules.length
    rw [List.countP_append, countP_committed, hc, h.trimmed]
    simp

theorem booked_commit {clock : Nat} {dbs : Databases} {trimmed : List TrimmedRule} {r : RunResult}
    (h : Booked s) (hid : r.runID = s.nextRunID) (hc : r.committed = true) :
    Booked ((({ s with dbs := dbs, clock := clock }.record trimmed r).commit trimmed
      r.evaluation).advance) := by
  have hbelow := h.below
  constructor
  · show s.store.runs ++ [r] = s.runs ++ [r]
    rw [h.runs]
  · show finalRunID (s.store.runs ++ [r]) = s.nextRunID
    rw [finalRunID_append, hc, h.final, hid, if_pos ⟨rfl, le_of_lt hbelow⟩]
  · show s.nextRunID < s.nextRunID + 1
    omega
  · show (s.store.trimDecisions ++ _).countP _ = (s.trimmedRules ++ trimmed).length
    rw [List.countP_append, countP_committed, hc, h.trimmed, List.length_append]
    simp

theorem booked_step (h : Step cfg env flows typ s s') (hB : Booked s) : Booked s' := by
  cases h with
  | tick clock => exact { hB with }
  | commit clock dbs trimmed r _ hid hc _ => exact booked_commit hB hid hc
  | rollback clock dbs trimmed r _ _ hc _ => exact booked_rollback hB hc
  | advance =>
      have hbelow := hB.below
      refine { hB with below := ?_ }
      show s.acceptedRunID < s.nextRunID + 1
      omega

/-- The baseline run, recorded in an empty store. -/
theorem booked_baseline {sch : Scheduler} {dbs : Databases}
    (h : baseline sch env flows dbs .empty = .ok s) : Booked s := by
  unfold baseline at h
  obtain ⟨dbs', _, h⟩ := bind_eq_ok.mp h
  cases h
  exact ⟨rfl, rfl, Int.zero_lt_one, rfl⟩

/-! ## Whole runs -/

/-- There is no `analyser.db` from before: the working directory is cleared, or has none. -/
def FreshStore (cfg : Config) (store : AnalyserStore) : Prop :=
  cfg.preserveWorkDBs = false ∨ store = .empty

theorem prepareRuleDatabases_store {dbs dbs₀ : Databases} {store store₀ : AnalyserStore}
    (hfresh : FreshStore cfg store)
    (h : prepareRuleDatabases cfg env dbs store = .ok (dbs₀, store₀)) : store₀ = .empty := by
  unfold prepareRuleDatabases at h
  obtain ⟨⟨start, startStore⟩, hstart, h⟩ := bind_eq_ok.mp h
  obtain ⟨exp, _, h⟩ := bind_eq_ok.mp h
  obtain ⟨real, _, h⟩ := bind_eq_ok.mp h
  obtain ⟨base, _, h⟩ := bind_eq_ok.mp h
  cases h
  unfold startDatabases at hstart
  by_cases hp : cfg.preserveWorkDBs = true
  · rw [if_pos hp] at hstart
    cases hstart
    rcases hfresh with hf | hf
    · rw [hf] at hp
      cases hp
    · exact hf
  · rw [if_neg hp] at hstart
    obtain ⟨_, _, hstart⟩ := bind_eq_ok.mp hstart
    cases hstart
    rfl

/-- Wherever the search has got to, the store tells the accepted run. -/
theorem booked_reached {sch : Scheduler} (hs : Booked s) {p : StorePoint}
    (hp : p ∈ (searchReached sch env flows s).map SearchState.point) :
    finalRunID p.1.runs = p.2 := by
  obtain ⟨t, u, ht, hu, rfl⟩ := searchReached_steps hp
  have hsafe := ht.invariant (fun _ _ => booked_step) hs
  exact (hu.invariant (fun _ _ => booked_step) hsafe).final

theorem finalRunID_prefix {sch : Scheduler} {dbs : Databases} {store : AnalyserStore}
    (hfresh : FreshStore sch.cfg store) {log : List LoggedWrite}
    (hlog : log <+: sch.storeLog env dbs store) :
    finalRunID (AnalyserStore.empty.replay log).runs = acceptedAsOf 0 log := by
  unfold Scheduler.storeLog at hlog
  have hnone : log <+: [] →
      finalRunID (AnalyserStore.empty.replay log).runs = acceptedAsOf 0 log := by
    intro h
    rw [List.prefix_nil.mp h]
    rfl
  cases hprep : prepareRuleDatabases sch.cfg env dbs store with
  | error e =>
      rw [hprep] at hlog
      exact hnone hlog
  | ok prepared =>
      obtain ⟨dbs₀, store₀⟩ := prepared
      obtain rfl := prepareRuleDatabases_store hfresh hprep
      rw [hprep] at hlog
      cases hflows : env.flows with
      | error e =>
          simp only [hflows] at hlog
          exact hnone hlog
      | ok flows =>
          cases hbase : baseline sch env flows dbs₀ .empty with
          | error e =>
              simp only [hflows, hbase] at hlog
              exact hnone hlog
          | ok s =>
              simp only [hflows, hbase] at hlog
              have hbooks : ((AnalyserStore.empty, (0 : Int)) ::
                  (searchReached sch env flows s).map SearchState.point).IsChain Books :=
                searchReached_books sch s (baseline_books hbase)
              obtain ⟨q, hq, rows, hstore, haccepted⟩ := prefix_writeLog hbooks hlog
              rw [hstore, haccepted]
              rcases List.mem_cons.mp hq with rfl | hq
              · rfl
              · exact booked_reached (booked_baseline hbase) hq

theorem booked_run {sch : Scheduler} {dbs : Databases} {store : AnalyserStore} {out : Output}
    (hfresh : FreshStore sch.cfg store) (h : sch.run env dbs store = .ok out) :
    ∃ final, Booked final ∧ out.store = final.store ∧
      out.result.finalRunID = final.acceptedRunID ∧ out.result.runs = final.runs ∧
      out.result.trimmedRules.length = final.trimmedRules.length := by
  obtain ⟨flows, dbs₀, store₀, s, safe, final, _, hprep, hbase, hsafe, hiter, rfl⟩ := run_eq_ok h
  obtain rfl := prepareRuleDatabases_store hfresh hprep
  have hstart := booked_baseline hbase
  have hmiddle := (safeStage_steps hsafe).invariant (fun _ _ => booked_step) hstart
  have hend := (iterFunctions_steps hiter).invariant (fun _ _ => booked_step) hmiddle
  exact ⟨final, hend, rfl, rfl, rfl, List.length_insertionSort _ _⟩

/-- **The server's reconstruction agrees with the scheduler.** After a run in a fresh working
directory it shows the scheduler's final run, its runs in order and the number of trimmed rules.
Meanwhile, and after a run that fails, it shows the run accepted when the last result was
recorded, whichever write came last. -/
theorem loadAnalysisResult_agrees (sch : Scheduler) (env : Externals) (dbs : Databases)
    (store : AnalyserStore) (workDir : String) (q : AnalysisQuery)
    (hfresh : FreshStore sch.cfg store) :
    (∀ out, sch.run env dbs store = .ok out →
      out.store = AnalyserStore.empty.replay (sch.storeLog env dbs store) ∧
      ∃ view, loadAnalysisResult workDir (some out.store) out.dbs.exp.ruleFP q = .ok view ∧
        view.finalRunID = out.result.finalRunID ∧ view.runs = out.result.runs ∧
        view.trimmedCount = out.result.trimmedRules.length) ∧
    ∀ log, log <+: sch.storeLog env dbs store → ∀ expRuleFP, ∃ view,
      loadAnalysisResult workDir (some (AnalyserStore.empty.replay log)) expRuleFP q = .ok view ∧
        view.finalRunID = acceptedAsOf 0 log := by
  constructor
  · intro out hrun
    obtain ⟨_, store₀, hprep, hreplay, _⟩ := replay_storeLog hrun
    obtain rfl := prepareRuleDatabases_store hfresh hprep
    obtain ⟨final, hfinal, hstore, hid, hruns, htrimmed⟩ := booked_run hfresh hrun
    refine ⟨hreplay.symm, _, rfl, ?_, ?_, ?_⟩
    · rw [hid, hstore]
      exact hfinal.final
    · rw [hruns, hstore]
      exact hfinal.runs
    · rw [htrimmed, hstore]
      exact hfinal.trimmed
  · intro log hlog expRuleFP
    exact ⟨_, rfl, finalRunID_prefix hfresh hlog⟩

/-- The lone rule is trimmed in run 1, and the server shows one trimmed rule and run 1. -/
theorem lone_run_shown :
    ∃ out, Scheduler.run { cfg := lenientConfig, functions := [persistent, persistent] }
        (lone true) .empty .empty = .ok out ∧
      ∃ view, loadAnalysisResult "work" (some out.store) out.dbs.exp.ruleFP
          { decisionLimit := 0, decisionOffset := 0, decisionWhere := fun _ => true,
            fpLimit := 10 } = .ok view ∧
        view.finalRunID = 1 ∧ view.trimmedCount = 1 := by
  have hresult : ((Scheduler.run { cfg := lenientConfig, functions := [persistent, persistent] }
      (lone true) .empty .empty).toOption.map
        fun out => (out.result.finalRunID, out.result.trimmedRules.length)) = some (1, 1) := by
    decide +kernel
  obtain ⟨out, hout, hresult⟩ := Option.map_eq_some_iff.mp hresult
  have hrun := eq_ok_of_toOption hout
  obtain ⟨_, view, hview, hid, _, htrimmed⟩ :=
    (loadAnalysisResult_agrees _ _ _ _ "work" _ (.inr rfl)).1 out hrun
  refine ⟨out, hrun, view, hview, ?_, ?_⟩
  · rw [hid]
    exact congrArg Prod.fst hresult
  · rw [htrimmed]
    exact congrArg Prod.snd hresult

end SnortOptimizer.Server
