import SnortOptimizer.Analyser.Accounting
import SnortOptimizer.Analyser.IterStrategies
import SnortOptimizer.Analyser.RunIDs
import SnortOptimizer.Server.AnalysisResult

/-!
# Recommendations (`server/api/queries.go`)

A list of rules to switch off has two halves: the trim decisions that were committed, out of
`analyser.db`, and rules of the final run with many false positives, out of the database of the exp
instance. Neither query looks at the other's rows. No rule stands in the list twice all the same
(`recommendations_distinct`): what was trimmed is not enabled in the final run, and the statistics
of a run are kept for its enabled rules only.
-/

namespace SnortOptimizer.Server

open Analyser

structure Recommendation where
  gid : Int
  sid : Int
  rev : Int
  runID : Int
  msg : String
  sourceFile : String
  reason : String
  function : String
  fpRate : ℚ
  utilization : ℚ
  enabled : Option Bool
  recommendation : String

def Recommendation.key (r : Recommendation) : Int × Int := (r.gid, r.sid)

def ruleFPKey (r : RuleFPRow) : Int × Int := (r.gid, r.sid)

/-- A row of `rules` in the production database, as far as it is read here. -/
structure ProductionRule where
  runID : Int
  gid : Int
  sid : Int
  enabled : Int

/-- Which rules the production database has, and whether they are enabled. A database that cannot be
read is one without rows. -/
def productionStates (rows : List ProductionRule) (prodRunID : Int) : String → Option Bool :=
  (rows.filter (·.runID = prodRunID)).foldl
    (fun m row => Function.update m (ruleKey row.gid row.sid) (some (row.enabled ≠ 0)))
    fun _ => none

def ofDecision (enabled : String → Option Bool) (d : TrimDecisionRow) : Recommendation :=
  { gid := d.rule.gid, sid := d.rule.sid, rev := d.rule.rev, runID := d.runID, msg := d.rule.msg
    sourceFile := d.rule.sourceFile
    reason := String.intercalate "\n" d.rule.reasons
    function := String.intercalate "\n" d.rule.functions
    fpRate := 0, utilization := 0
    enabled := enabled (ruleKey d.rule.gid d.rule.sid)
    recommendation := "建议禁用" }

def ofRuleFP (enabled : String → Option Bool) (fp : RuleFPRow) : Recommendation :=
  { gid := fp.gid, sid := fp.sid, rev := fp.rev, runID := fp.runID, msg := fp.msg
    sourceFile := fp.sourceFile
    reason := "fp_rate " ++ fixedText 3 fp.fpRate ++ ", utilization " ++ fixedText 3 fp.utilization
      ++ ", alerted_flows " ++ toString fp.alertedFlows
    function := ""
    fpRate := fp.fpRate, utilization := fp.utilization
    enabled := enabled (ruleKey fp.gid fp.sid)
    recommendation := "建议复核后禁用" }

/-- The loop over the statistics, which stops when the list is full. -/
def addRuleFP (enabled : String → Option Bool) (limit : Int) :
    List RuleFPRow → List Recommendation → List Recommendation
  | [], items => items
  | fp :: rest, items =>
      if limit ≤ items.length then items
      else if fp.fpRate < 4 / 5 ∧ 1 / 20 < fp.utilization then addRuleFP enabled limit rest items
      else addRuleFP enabled limit rest (items ++ [ofRuleFP enabled fp])

/-- `queryRecommendations`; it panics (`none`) on a slice with a negative bound. -/
def queryRecommendations (awd : String) (analyserDB : Option AnalyserStore)
    (expRuleFP : List RuleFPRow) (prodDB : List ProductionRule) (prodRunID limit : Int) :
    Option (List Recommendation) :=
  match loadAnalysisResult awd analyserDB expRuleFP
      { decisionLimit := limit, decisionOffset := 0, decisionWhere := fun _ => true
        fpLimit := limit } with
  | .error _ => some []                 -- there is no `analyser.db`
  | .ok result =>
      let enabled := productionStates prodDB prodRunID
      let items := (result.topDecisions.filter (·.committed)).map (ofDecision enabled)
      let items := addRuleFP enabled limit result.ruleFP items
      if limit < items.length then
        if limit < 0 then none else some (items.take limit.toNat)
      else some items

/-! ## The two halves -/

theorem addRuleFP_keys (enabled : String → Option Bool) (limit : Int) (rows : List RuleFPRow)
    (items : List Recommendation) :
    ∃ added, added.Sublist (rows.map ruleFPKey) ∧
      (addRuleFP enabled limit rows items).map (·.key) = items.map (·.key) ++ added := by
  induction rows generalizing items with
  | nil => exact ⟨[], List.nil_sublist _, (List.append_nil _).symm⟩
  | cons fp rest ih =>
      rw [addRuleFP]
      split
      · exact ⟨[], List.nil_sublist _, (List.append_nil _).symm⟩
      split
      · obtain ⟨added, hsub, hkeys⟩ := ih items
        exact ⟨added, hsub.cons _, hkeys⟩
      · obtain ⟨added, hsub, hkeys⟩ := ih (items ++ [ofRuleFP enabled fp])
        refine ⟨ruleFPKey fp :: added, hsub.cons_cons _, ?_⟩
        rw [hkeys, List.map_append, List.append_assoc]
        rfl

theorem sqlLimit_sublist {α : Type} (limit : Int) (rows : List α) :
    (sqlLimit limit rows).Sublist rows := by
  rw [sqlLimit]
  split
  · exact List.Sublist.refl _
  · exact List.take_sublist _ _

theorem subperm_map {α β : Type} (f : α → β) {l m : List α} (h : l.Subperm m) :
    (l.map f).Subperm (m.map f) := by
  obtain ⟨k, hperm, hsub⟩ := h
  exact ⟨k.map f, hperm.map f, hsub.map f⟩

theorem nodup_of_subperm {α : Type} {l m : List α} (h : l.Subperm m) (hm : m.Nodup) : l.Nodup := by
  obtain ⟨k, hperm, hsub⟩ := h
  exact hperm.nodup_iff.mp (hm.sublist hsub)

/-- What the query returns is part of the rows in some order. -/
theorem queryTrimDecisions_subperm (rows : List TrimDecisionRow) (limit offset : Int)
    (decisionWhere : TrimDecisionRow → Bool) :
    (queryTrimDecisions rows limit offset decisionWhere).Subperm rows := by
  have hsorted := List.perm_insertionSort (fun a b : TrimDecisionRow =>
    b.committed < a.committed ∨ (a.committed = b.committed ∧ b.runID ≤ a.runID))
    (rows.filter decisionWhere).reverse
  have hpart : (queryTrimDecisions rows limit offset decisionWhere).Subperm
      (rows.filter decisionWhere).reverse :=
    ((sqlLimit_sublist _ _).trans (List.drop_sublist _ _)).subperm.trans hsorted.subperm
  exact hpart.trans ((List.reverse_perm _).subperm.trans List.filter_sublist.subperm)

theorem queryRuleFP_subperm (rows : List RuleFPRow) (runID limit : Int) :
    (queryRuleFP rows runID limit).Subperm (rows.filter (·.runID = runID)) := by
  have hsorted := List.perm_insertionSort (fun a b : RuleFPRow =>
    b.fpRate < a.fpRate ∨ (a.fpRate = b.fpRate ∧ b.alertedFlows ≤ a.alertedFlows))
    (rows.filter fun r => r.runID = runID ∧ 0 < r.alertedFlows)
  have hfilter : (rows.filter fun r => decide (r.runID = runID ∧ 0 < r.alertedFlows)).Sublist
      (rows.filter fun r => decide (r.runID = runID)) := by
    apply List.monotone_filter_right
    intro r hr
    exact decide_eq_true (of_decide_eq_true hr).1
  exact (sqlLimit_sublist _ _).subperm.trans (hsorted.subperm.trans hfilter.subperm)

/-- The keys of the list are those of some committed decisions and then of some statistics. -/
theorem queryRecommendations_keys {awd : String} {store : AnalyserStore}
    {expRuleFP : List RuleFPRow} {prodDB : List ProductionRule} {prodRunID limit : Int}
    {items : List Recommendation}
    (h : queryRecommendations awd (some store) expRuleFP prodDB prodRunID limit = some items) :
    (items.length : Int) ≤ limit ∧ ∃ decided listed,
      decided.Subperm ((store.trimDecisions.filter (·.committed)).map fun d => d.rule.key) ∧
      listed.Subperm ((expRuleFP.filter (·.runID = finalRunID store.runs)).map ruleFPKey) ∧
      (items.map (·.key)).Sublist (decided ++ listed) := by
  let enabled := productionStates prodDB prodRunID
  let limit' : Int := if limit ≤ 0 then 80 else limit
  let decisions := (queryTrimDecisions store.trimDecisions limit' 0 fun _ => true).filter
    (·.committed)
  let all := addRuleFP enabled limit (queryRuleFP expRuleFP (finalRunID store.runs) limit)
    (decisions.map (ofDecision enabled))
  obtain ⟨listed, hlisted, hkeys⟩ := addRuleFP_keys enabled limit
    (queryRuleFP expRuleFP (finalRunID store.runs) limit) (decisions.map (ofDecision enabled))
  have hdecided : (decisions.map fun d => d.rule.key).Subperm
      ((store.trimDecisions.filter (·.committed)).map fun d => d.rule.key) :=
    subperm_map _ ((queryTrimDecisions_subperm _ _ _ _).filter _)
  have hkeys : all.map (·.key) = (decisions.map fun d => d.rule.key) ++ listed := by
    show (addRuleFP _ _ _ _).map _ = _
    rw [hkeys, List.map_map]
    rfl
  have hpart : (items.length : Int) ≤ limit ∧ items.Sublist all := by
    have h : (if limit < all.length then
        if limit < 0 then none else some (all.take limit.toNat)
      else some all) = some items := h
    split at h
    · split at h
      · cases h
      · cases h
        refine ⟨?_, List.take_sublist _ _⟩
        rw [List.length_take]
        omega
    · rw [← Option.some.inj h]
      exact ⟨by omega, List.Sublist.refl _⟩
  refine ⟨hpart.1, decisions.map fun d => d.rule.key, listed, hdecided, ?_, ?_⟩
  · exact hlisted.subperm.trans (subperm_map _ (queryRuleFP_subperm _ _ _))
  · rw [← hkeys]
    exact hpart.2.map _

theorem queryRecommendations_returns {awd : String} {analyserDB : Option AnalyserStore}
    {expRuleFP : List RuleFPRow} {prodDB : List ProductionRule} {prodRunID limit : Int}
    (h : 0 ≤ limit) :
    ∃ items, queryRecommendations awd analyserDB expRuleFP prodDB prodRunID limit = some items := by
  rw [queryRecommendations]
  split
  · exact ⟨_, rfl⟩
  dsimp only
  split
  · rw [if_neg (not_lt.mpr h)]
    exact ⟨_, rfl⟩
  · exact ⟨_, rfl⟩

/-! ## What the search leaves behind -/

/-- The rules for which the database has statistics of a run. -/
def listedKeys (db : SnortDB) (runID : Int) : List (Int × Int) :=
  (db.ruleFP.filter (·.runID = runID)).map ruleFPKey

/-- The statistics of a run name its enabled rules, once each. -/
structure OfEnabled (db : SnortDB) (runID : Int) : Prop where
  nodup : (listedKeys db runID).Nodup
  enabled : ∀ key ∈ listedKeys db runID, key ∈ enabledSet db.rules runID

variable {cfg : Config} {env : Externals} {flows : FlowSet} {typ : FunctionType}
  {s s' : SearchState}

theorem ofEnabled_stored (rt : Runtime) (flows : FlowSet) (runID : Int) (db : SnortDB)
    (alerts : List AlertForEval) : OfEnabled (stored rt flows runID db alerts) runID := by
  have hkeys : listedKeys (stored rt flows runID db alerts) runID =
      (listRulesFromDB db.rules runID true).map Rule.key := by
    rw [listedKeys, stored, refreshRuleFP, filter_replace, if_pos rfl, List.map_map]
    · rfl
    · intro r hr
      obtain ⟨rule, _, rfl⟩ := List.mem_map.mp hr
      rfl
  constructor
  · rw [hkeys]
    exact List.pairwise_map.mpr (listRulesFromDB_pairwise db.rules runID true)
  · rw [hkeys]
    intro key hkey
    obtain ⟨rule, hrule, rfl⟩ := List.mem_map.mp hkey
    exact mem_enabledSet.mpr ⟨rule, hrule, rfl⟩

/-- A candidate that was tried under another id changes nothing about a run. -/
theorem OfEnabled.tried {trimmed : List TrimmedRule} {dbs : Databases} {eval : Evaluation}
    (h : OfEnabled s.dbs.exp s.acceptedRunID) (htried : Tried env flows s trimmed dbs eval)
    (hne : s.acceptedRunID ≠ s.nextRunID) : OfEnabled dbs.exp s.acceptedRunID := by
  obtain ⟨_, alerts, _, hexp⟩ := htried.executed
  have hlisted : listedKeys dbs.exp s.acceptedRunID = listedKeys s.dbs.exp s.acceptedRunID := by
    rw [hexp, listedKeys, @ruleFP_stored env, if_neg hne]
    rfl
  have henabled : enabledSet dbs.exp.rules s.acceptedRunID =
      enabledSet s.dbs.exp.rules s.acceptedRunID :=
    enabledSet_congr ((htried.rules hne .exp).1 _ hne)
  exact ⟨hlisted ▸ h.nodup, fun key hkey => henabled ▸ h.enabled key (hlisted ▸ hkey)⟩

/-- The store has the trimmed rules as committed decisions, and the database of the exp instance has
the statistics of the accepted run. -/
structure Recommendable (s : SearchState) : Prop where
  decisions : (s.store.trimDecisions.filter (·.committed)).map (fun d => d.rule.key) =
    s.trimmedRules.map fun r => r.key
  statistics : OfEnabled s.dbs.exp s.acceptedRunID

theorem committed_keys (r : RunResult) (trimmed : List TrimmedRule) :
    ((trimmed.map fun t => (⟨r.runID, t, r.committed⟩ : TrimDecisionRow)).filter
      (·.committed)).map (fun d => d.rule.key) =
        if r.committed then trimmed.map fun t => t.key else [] := by
  rw [List.filter_map, List.map_map]
  cases r.committed <;> simp [Function.comp_def]

theorem recommendable_step (h : Step cfg env flows typ s s') (hA : Accounts s)
    (hR : Recommendable s) : Recommendable s' := by
  have hne := ne_of_lt hA.accepted_lt
  cases h with
  | tick clock => exact { hR with }
  | commit clock dbs trimmed r tried hid hc _ =>
      constructor
      · show ((s.store.trimDecisions ++ _).filter _).map _ = (s.trimmedRules ++ trimmed).map _
        rw [List.filter_append, List.map_append, hR.decisions, List.map_append, committed_keys, hc,
          if_pos rfl]
      · show OfEnabled dbs.exp s.nextRunID
        obtain ⟨_, alerts, _, hexp⟩ := tried.executed
        rw [hexp]
        exact ofEnabled_stored _ _ _ _ _
  | rollback clock dbs trimmed r tried _ hc _ =>
      constructor
      · show ((s.store.trimDecisions ++ _).filter _).map _ = s.trimmedRules.map _
        rw [List.filter_append, List.map_append, hR.decisions, committed_keys, hc]
        simp
      · exact hR.statistics.tried tried hne
  | advance => exact { hR with }

theorem recommendable_baseline {sch : Scheduler} {dbs : Databases}
    (h : baseline sch env flows dbs .empty = .ok s) : Recommendable s := by
  obtain ⟨_, _, hrun, _, _, _, hdbs, hacc, _⟩ := baseline_eq_ok h
  obtain ⟨u, alerts, _, _, rfl⟩ := runAll_eq_ok hrun
  constructor
  · unfold baseline at h
    obtain ⟨_, _, h⟩ := bind_eq_ok.mp h
    cases h
    rfl
  · rw [hdbs, hacc]
    exact ofEnabled_stored _ _ _ _ _

/-- At the end of a run in a fresh directory. -/
theorem recommendable_run {sch : Scheduler} {dbs : Databases} {store : AnalyserStore}
    {out : Output} (hfresh : Fresh sch.cfg dbs) (hstore : FreshStore sch.cfg store)
    (h : sch.run env dbs store = .ok out) :
    ∃ final, Accounts final ∧ Booked final ∧ Recommendable final ∧ out.store = final.store ∧
      out.dbs = final.dbs ∧ out.result.finalRunID = final.acceptedRunID := by
  obtain ⟨flows, dbs₀, store₀, s, safe, final, _, hprep, hbase, hsafe, hiter, rfl⟩ := run_eq_ok h
  obtain rfl := prepareRuleDatabases_store hstore hprep
  let I (s : SearchState) : Prop := Accounts s ∧ Booked s ∧ Recommendable s
  have hstep : ∀ typ (s s' : SearchState), Step sch.cfg env flows typ s s' → I s → I s' :=
    fun typ s s' hstep hI => ⟨accounts_step hstep hI.1, booked_step hstep hI.2.1,
      recommendable_step hstep hI.1 hI.2.2⟩
  have hstart : I s := ⟨accounts_baseline (prepareRuleDatabases_same hfresh hprep) hbase,
    booked_baseline hbase, recommendable_baseline hbase⟩
  have hmiddle := (safeStage_steps hsafe).invariant (hstep .SAFE) hstart
  have hend := (iterFunctions_steps hiter).invariant (hstep .ITER) hmiddle
  exact ⟨final, hend.1, hend.2.1, hend.2.2, rfl, rfl, rfl⟩

/-- **No rule is recommended twice.** After an analysis in a fresh working directory the committed
decisions are about different rules, none of which has statistics in the final run; so the list,
read from the tables in whatever order ties come, has no rule twice, and no more than `limit`
entries. (With a negative limit nothing is returned.) -/
theorem recommendations_distinct (sch : Scheduler) (env : Externals) (dbs : Databases)
    (store : AnalyserStore) (out : Output) (expRuleFP : List RuleFPRow) (awd : String)
    (prodDB : List ProductionRule) (prodRunID limit : Int)
    (hfresh : Fresh sch.cfg dbs) (hstore : FreshStore sch.cfg store)
    (hrun : sch.run env dbs store = .ok out) (hread : expRuleFP.Perm out.dbs.exp.ruleFP) :
    let committed := (out.store.trimDecisions.filter (·.committed)).map fun d => d.rule.key
    let query := queryRecommendations awd (some out.store) expRuleFP prodDB prodRunID limit
    committed.Nodup ∧
    (∀ row ∈ out.dbs.exp.ruleFP, row.runID = out.result.finalRunID →
      ruleFPKey row ∉ committed) ∧
    (0 ≤ limit → query.isSome) ∧
    ∀ items, query = some items → (items.length : Int) ≤ limit ∧ (items.map (·.key)).Nodup := by
  intro committed query
  obtain ⟨final, hA, hB, hR, hs, hdbs, hid⟩ := recommendable_run hfresh hstore hrun
  have hcommitted : committed = final.trimmedRules.map fun r => r.key := by
    show (out.store.trimDecisions.filter (·.committed)).map _ = _
    rw [hs, hR.decisions]
  have hnodup : committed.Nodup := hcommitted ▸ hA.nodup
  have hapart : ∀ key ∈ listedKeys final.dbs.exp final.acceptedRunID, key ∉ committed := by
    intro key hkey hmem
    have henabled := hR.statistics.enabled key hkey
    rw [hA.balance, Finset.mem_sdiff, List.mem_toFinset, ← hcommitted] at henabled
    exact henabled.2 hmem
  refine ⟨hnodup, ?_, ?_, ?_⟩
  · intro row hrow hfinal
    apply hapart
    rw [hdbs] at hrow
    exact List.mem_map.mpr ⟨row, List.mem_filter.mpr ⟨hrow, by simp [hfinal, hid]⟩, rfl⟩
  · intro hlimit
    exact Option.isSome_iff_exists.mpr (queryRecommendations_returns hlimit)
  · intro items hitems
    obtain ⟨hlength, decided, listed, hdecided, hlisted, hsub⟩ := queryRecommendations_keys hitems
    have hlisted : listed.Subperm (listedKeys final.dbs.exp final.acceptedRunID) := by
      rw [hs, hB.final] at hlisted
      rw [hdbs] at hread
      exact hlisted.trans ((hread.filter _).map _).subperm
    refine ⟨hlength, hsub.nodup (List.nodup_append.mpr ⟨?_, ?_, ?_⟩)⟩
    · exact nodup_of_subperm hdecided hnodup
    · exact nodup_of_subperm hlisted hR.statistics.nodup
    · rintro key hkey _ hkey' rfl
      exact hapart key (hlisted.subset hkey') (hdecided.subset hkey)

/-- Three rules that all alert on the one benign flow. -/
def threeRules : List Rule :=
  [loneRule, { loneRule with sid := 2, rawText := "alert tcp any any -> any 80 (sid:2;)" },
    { loneRule with sid := 3, rawText := "alert tcp any any -> any 80 (sid:3;)" }]

def threeAlerting : Externals :=
  { lone false with
    rawSnortSQLite := .ok threeRules
    rawRulePath := .ok threeRules
    snort := fun _ _ _ rules =>
      .ok (rules.map fun r => { loneAlert with id := r.sid, sid := r.sid }) }

/-- Two of them are to go. -/
def firstTwo : RegisteredFunction :=
  { name := "firstTwo"
    type := .ITER
    fn := fun _ _ => .ok ([1, 2].map fun sid =>
      { gid := 1, sid := sid, rev := 1, sourceFile := "", msg := "", reason := "noisy"
        function := "", type := .ITER, metrics := [] }) }

/-- Two rules are trimmed and the third is in the statistics of the final run; each is recommended
once. -/
theorem three_rules_recommended :
    ∃ out items, Scheduler.run { cfg := lenientConfig, functions := [firstTwo] } threeAlerting
        .empty .empty = .ok out ∧
      (out.dbs.exp.ruleFP.filter (·.runID = out.result.finalRunID)).map ruleFPKey = [(1, 3)] ∧
      queryRecommendations "work" (some out.store) out.dbs.exp.ruleFP
        [⟨0, 1, 1, 1⟩, ⟨0, 1, 3, 0⟩] 0 10 = some items ∧
      items.map (fun item => (item.key, item.enabled)) =
        [((1, 2), none), ((1, 1), some true), ((1, 3), some false)] ∧
      (items.map (·.key)).Nodup := by
  have hresult : ((Scheduler.run { cfg := lenientConfig, functions := [firstTwo] } threeAlerting
      .empty .empty).toOption.map fun out =>
        ((out.dbs.exp.ruleFP.filter (·.runID = out.result.finalRunID)).map ruleFPKey,
          (queryRecommendations "work" (some out.store) out.dbs.exp.ruleFP
            [⟨0, 1, 1, 1⟩, ⟨0, 1, 3, 0⟩] 0 10).map fun items =>
              items.map fun item => (item.key, item.enabled))) =
      some ([(1, 3)], some [((1, 2), none), ((1, 1), some true), ((1, 3), some false)]) := by
    decide +kernel
  obtain ⟨out, hout, hquery⟩ := Option.map_eq_some_iff.mp hresult
  obtain ⟨hlisted, hquery⟩ := Prod.mk.inj hquery
  obtain ⟨items, hitems, hkeys⟩ := Option.map_eq_some_iff.mp hquery
  have hrun := eq_ok_of_toOption hout
  have hdistinct := recommendations_distinct _ _ _ _ out out.dbs.exp.ruleFP "work"
    [⟨0, 1, 1, 1⟩, ⟨0, 1, 3, 0⟩] 0 10 (.inr rfl) (.inr rfl) hrun (List.Perm.refl _)
  exact ⟨out, items, hrun, hlisted, hitems, hkeys, (hdistinct.2.2.2 items hitems).2⟩

end SnortOptimizer.Server
