import SnortOptimizer.Analyser.Adversary
import Mathlib.Data.List.Chain

/-!
# Rule accounting over a whole run

At every moment of the search the accepted rule set is the initial one minus the rules listed as
trimmed so far, in all three databases; each accepted run is strictly smaller than the one before;
and the rows of a committed run are never written again.

The invariant is `Accounts`. What makes the steps preserve it is that a candidate is always copied
to a run id beyond every committed one, and that the merged decisions name enabled rules only.
-/

namespace SnortOptimizer.Analyser

/-- The run ids of the committed runs, in order. -/
def committedIDs (runs : List RunResult) : List Int := (runs.filter (·.committed)).map (·.runID)

theorem committedIDs_append (runs : List RunResult) (r : RunResult) :
    committedIDs (runs ++ [r]) =
      committedIDs runs ++ if r.committed then [r.runID] else [] := by
  rw [committedIDs, List.filter_append, List.map_append, committedIDs]
  cases hc : r.committed <;> simp [hc]

theorem mem_committedIDs {runs : List RunResult} {r : RunResult} {i : Nat}
    (h : runs[i]? = some r) (hc : r.committed = true) : r.runID ∈ committedIDs runs :=
  List.mem_map.mpr ⟨r, List.mem_filter.mpr ⟨List.mem_of_getElem? h, hc⟩, rfl⟩

structure Accounts (s : SearchState) : Prop where
  /-- The three databases hold the same rules. -/
  same : ∀ i, (s.dbs.get i).rules = s.dbs.exp.rules
  last : (committedIDs s.runs).getLast? = some s.acceptedRunID
  first : (0 : Int) ∈ committedIDs s.runs
  below : ∀ id ∈ committedIDs s.runs, id < s.nextRunID
  balance : enabledSet s.dbs.exp.rules s.acceptedRunID =
    enabledSet s.dbs.exp.rules 0 \ (s.trimmedRules.map fun r => r.key).toFinset
  nodup : (s.trimmedRules.map fun r => r.key).Nodup
  initial : ∀ r ∈ s.trimmedRules, r.key ∈ enabledSet s.dbs.exp.rules 0
  shrinking : (committedIDs s.runs).IsChain fun a b =>
    enabledSet s.dbs.exp.rules b ⊂ enabledSet s.dbs.exp.rules a
  traced : s.trace.length = s.runs.length
  /-- Since a committed run was recorded its rows have not changed. -/
  frozen : ∀ (i j : Nat) (r : RunResult) (snap : Databases), s.runs[i]? = some r →
    r.committed = true → i ≤ j → s.trace[j]? = some snap → ∀ inst,
      rowsOf (snap.get inst).rules r.runID = rowsOf (s.dbs.get inst).rules r.runID

variable {cfg : Config} {env : Externals} {flows : FlowSet} {typ : FunctionType}
  {s s' : SearchState} {trimmed : List TrimmedRule} {dbs : Databases} {eval : Evaluation}

theorem Accounts.accepted_mem (h : Accounts s) : s.acceptedRunID ∈ committedIDs s.runs :=
  List.mem_of_getLast? h.last

theorem Accounts.accepted_lt (h : Accounts s) : s.acceptedRunID < s.nextRunID :=
  h.below _ h.accepted_mem

/-! ## A candidate -/

/-- The copies are equal, because what is copied is. -/
theorem Tried.same (h : Tried env flows s trimmed dbs eval)
    (hsame : ∀ i, (s.dbs.get i).rules = s.dbs.exp.rules) (i : Instance) :
    (dbs.get i).rules = dbs.exp.rules := by
  have hi := h.cloned i
  have hexp : cloneRulesInDB s.dbs.exp.rules s.acceptedRunID s.nextRunID
      (trimmed.map TrimmedRule.toRuleRef) = .ok dbs.exp.rules := h.cloned .exp
  rw [hsame i, hexp] at hi
  exact (Except.ok.inj hi).symm

/-- The rules of a committed run are what they were. -/
theorem Tried.committed (h : Tried env flows s trimmed dbs eval) (hA : Accounts s)
    {id : Int} (hid : id ∈ committedIDs s.runs) (i : Instance) :
    rowsOf (dbs.get i).rules id = rowsOf (s.dbs.get i).rules id := by
  have hlt := hA.below id hid
  exact (h.rules (ne_of_lt hA.accepted_lt) i).1 id (ne_of_lt hlt)

theorem Tried.enabledSet_committed (h : Tried env flows s trimmed dbs eval) (hA : Accounts s)
    {id : Int} (hid : id ∈ committedIDs s.runs) :
    enabledSet dbs.exp.rules id = enabledSet s.dbs.exp.rules id :=
  enabledSet_congr (h.committed hA hid .exp)

/-- Among the committed runs so far, the candidate leaves the order of shrinking as it is. -/
theorem Tried.shrinking (h : Tried env flows s trimmed dbs eval) (hA : Accounts s) :
    (committedIDs s.runs).IsChain fun a b =>
      enabledSet dbs.exp.rules b ⊂ enabledSet dbs.exp.rules a := by
  refine hA.shrinking.imp_of_mem_imp ?_
  intro a b ha hb hab
  rw [h.enabledSet_committed hA ha, h.enabledSet_committed hA hb]
  exact hab

/-- Recording the candidate keeps the committed runs frozen. -/
theorem Tried.frozen (h : Tried env flows s trimmed dbs eval) (hA : Accounts s) (r : RunResult)
    (i j : Nat) (r' : RunResult) (snap : Databases) (hr' : (s.runs ++ [r])[i]? = some r')
    (hc : r'.committed = true) (hij : i ≤ j) (hsnap : (s.trace ++ [dbs])[j]? = some snap)
    (inst : Instance) :
    rowsOf (snap.get inst).rules r'.runID = rowsOf (dbs.get inst).rules r'.runID := by
  by_cases hj : j < s.trace.length
  · -- both the run and the snapshot are older than the candidate
    rw [List.getElem?_append_left hj] at hsnap
    have hi : i < s.runs.length := by
      rw [← hA.traced]
      omega
    rw [List.getElem?_append_left hi] at hr'
    rw [h.committed hA (mem_committedIDs hr' hc) inst]
    exact hA.frozen i j r' snap hr' hc hij hsnap inst
  · -- the snapshot is the present state
    rw [List.getElem?_append_right (by omega)] at hsnap
    have hsnap' : snap = dbs := by
      cases hk : j - s.trace.length with
      | zero =>
          rw [hk] at hsnap
          exact (Option.some.inj hsnap).symm
      | succ k =>
          rw [hk] at hsnap
          cases hsnap
    rw [hsnap']

/-! ## Steps keep the accounts -/

theorem accounts_rollback {clock : Nat} {r : RunResult} (hA : Accounts s)
    (h : Tried env flows s trimmed dbs r.evaluation) (hc : r.committed = false) :
    Accounts ({ s with dbs := dbs, clock := clock }.record trimmed r) := by
  have hids : committedIDs (s.runs ++ [r]) = committedIDs s.runs := by
    rw [committedIDs_append, hc]
    simp
  have hacc := h.enabledSet_committed hA hA.accepted_mem
  have hzero := h.enabledSet_committed hA hA.first
  constructor
  · exact h.same hA.same
  · show (committedIDs (s.runs ++ [r])).getLast? = some s.acceptedRunID
    rw [hids]
    exact hA.last
  · show (0 : Int) ∈ committedIDs (s.runs ++ [r])
    rw [hids]
    exact hA.first
  · show ∀ id ∈ committedIDs (s.runs ++ [r]), id < s.nextRunID
    rw [hids]
    exact hA.below
  · show enabledSet dbs.exp.rules s.acceptedRunID = enabledSet dbs.exp.rules 0 \ _
    rw [hacc, hzero]
    exact hA.balance
  · exact hA.nodup
  · intro r' hr'
    show r'.key ∈ enabledSet dbs.exp.rules 0
    rw [hzero]
    exact hA.initial r' hr'
  · show (committedIDs (s.runs ++ [r])).IsChain _
    rw [hids]
    exact h.shrinking hA
  · show (s.trace ++ [dbs]).length = (s.runs ++ [r]).length
    rw [List.length_append, List.length_append, hA.traced]
    rfl
  · exact h.frozen hA r

/-- The rules a candidate drops were not dropped before. -/
theorem Tried.disjoint (h : Tried env flows s trimmed dbs eval) (hA : Accounts s) :
    ((s.trimmedRules ++ trimmed).map fun r => r.key).Nodup := by
  rw [List.map_append, List.nodup_append]
  refine ⟨hA.nodup, h.nodup, ?_⟩
  rintro k hk k' hk' rfl
  obtain ⟨r, hr, rfl⟩ := List.mem_map.mp hk'
  -- it is enabled in the accepted run, which is without what was dropped before
  have henabled := h.enabled r hr
  rw [hA.balance, Finset.mem_sdiff, List.mem_toFinset] at henabled
  exact henabled.2 hk

/-- The candidate is strictly smaller than the accepted rule set. -/
theorem Tried.ssubset (h : Tried env flows s trimmed dbs eval) (hA : Accounts s) :
    enabledSet dbs.exp.rules s.nextRunID ⊂ enabledSet dbs.exp.rules s.acceptedRunID := by
  rw [h.enabledSet_committed hA hA.accepted_mem]
  have hnext : enabledSet dbs.exp.rules s.nextRunID =
      enabledSet s.dbs.exp.rules s.acceptedRunID \ (trimmed.map fun r => r.key).toFinset :=
    (h.rules (ne_of_lt hA.accepted_lt) .exp).2
  rw [hnext]
  obtain ⟨r, rest, hr⟩ := List.exists_cons_of_ne_nil h.ne_nil
  have hmem : r ∈ trimmed := hr ▸ List.mem_cons_self
  rw [Finset.ssubset_iff_of_subset Finset.sdiff_subset]
  refine ⟨r.key, h.enabled r hmem, fun hin => ?_⟩
  have hnot := (Finset.mem_sdiff.mp hin).2
  exact hnot (List.mem_toFinset.mpr (List.mem_map.mpr ⟨r, hmem, rfl⟩))

theorem accounts_commit {clock : Nat} {r : RunResult} (hA : Accounts s)
    (h : Tried env flows s trimmed dbs r.evaluation) (hid : r.runID = s.nextRunID)
    (hc : r.committed = true) :
    Accounts ((({ s with dbs := dbs, clock := clock }.record trimmed r).commit trimmed
      r.evaluation).advance) := by
  have hids : committedIDs (s.runs ++ [r]) = committedIDs s.runs ++ [s.nextRunID] := by
    rw [committedIDs_append, hc, hid]
    rfl
  have hzero := h.enabledSet_committed hA hA.first
  constructor
  · exact h.same hA.same
  · show (committedIDs (s.runs ++ [r])).getLast? = some s.nextRunID
    rw [hids, List.getLast?_concat]
  · show (0 : Int) ∈ committedIDs (s.runs ++ [r])
    rw [hids]
    exact List.mem_append_left _ hA.first
  · show ∀ id ∈ committedIDs (s.runs ++ [r]), id < s.nextRunID + 1
    rw [hids]
    intro id hmem
    rcases List.mem_append.mp hmem with hold | hnew
    · have := hA.below id hold
      omega
    · rw [List.mem_singleton.mp hnew]
      omega
  · -- what the accepted run had, minus what the candidate drops
    show enabledSet dbs.exp.rules s.nextRunID = enabledSet dbs.exp.rules 0 \
      ((s.trimmedRules ++ trimmed).map fun r => r.key).toFinset
    have hnext : enabledSet dbs.exp.rules s.nextRunID =
        enabledSet s.dbs.exp.rules s.acceptedRunID \ (trimmed.map fun r => r.key).toFinset :=
      (h.rules (ne_of_lt hA.accepted_lt) .exp).2
    rw [hnext, hA.balance, hzero, List.map_append, List.toFinset_append, sdiff_sdiff_left,
      Finset.sup_eq_union]
  · exact h.disjoint hA
  · intro r' hr'
    show r'.key ∈ enabledSet dbs.exp.rules 0
    rw [hzero]
    rcases List.mem_append.mp hr' with hold | hnew
    · exact hA.initial r' hold
    · have henabled := h.enabled r' hnew
      rw [hA.balance] at henabled
      exact (Finset.mem_sdiff.mp henabled).1
  · -- the chain is extended at its last element, the accepted run
    show (committedIDs (s.runs ++ [r])).IsChain _
    rw [hids, List.isChain_append]
    refine ⟨h.shrinking hA, List.isChain_singleton _, ?_⟩
    intro a ha b hb
    rw [hA.last, Option.mem_some_iff] at ha
    rw [List.head?_cons, Option.mem_some_iff] at hb
    subst ha hb
    exact h.ssubset hA
  · show (s.trace ++ [dbs]).length = (s.runs ++ [r]).length
    rw [List.length_append, List.length_append, hA.traced]
    rfl
  · exact h.frozen hA r

theorem accounts_step (h : Step cfg env flows typ s s') (hA : Accounts s) : Accounts s' := by
  cases h with
  | tick clock => exact { hA with }
  | commit clock dbs trimmed r tried hid hc _ => exact accounts_commit hA tried hid hc
  | rollback clock dbs trimmed r tried _ hc _ => exact accounts_rollback hA tried hc
  | advance =>
      refine { hA with below := fun id hid => ?_ }
      have := hA.below id hid
      show id < s.nextRunID + 1
      omega

/-! ## The first accounts -/

/-- In a fresh working directory the three databases are prepared alike. -/
theorem prepareRuleDatabases_same {dbs dbs₀ : Databases} {store store₀ : AnalyserStore}
    (hfresh : Fresh cfg dbs) (h : prepareRuleDatabases cfg env dbs store = .ok (dbs₀, store₀))
    (i : Instance) : dbs₀.get i = dbs₀.exp := by
  have hinit := prepareRuleDatabases_fresh hfresh h
  exact Except.ok.inj ((hinit i).symm.trans (hinit .exp))

/-- The rules an instance runs with depend on its database only, not on its name. -/
theorem ensureRuleStore_same {i j : Instance} {runID : Int} {db db₁ db₂ : SnortDB}
    (h₁ : ensureRuleStore cfg env i runID db = .ok db₁)
    (h₂ : ensureRuleStore cfg env j runID db = .ok db₂) : db₁ = db₂ := by
  cases hc : db.created with
  | true => rw [ensureRuleStore_created hc h₁, ensureRuleStore_created hc h₂]
  | false =>
      -- the database does not exist: run 0 imports the rule files, any other run fails
      unfold ensureRuleStore at h₁ h₂
      by_cases hz : runID ≠ 0
      · rw [if_pos hz, if_pos hc] at h₁
        cases h₁
      · rw [if_neg hz, hc] at h₁ h₂
        exact Except.ok.inj (h₁.symm.trans h₂)

theorem runAll_same {clock : Nat} {runID : Int} {dbs dbs' : Databases}
    (hsame : ∀ i, dbs.get i = dbs.exp) (h : runAll cfg env flows clock runID dbs = .ok dbs')
    (i : Instance) : (dbs'.get i).rules = dbs'.exp.rules := by
  obtain ⟨u, alerts, hu, _, rfl⟩ := runAll_eq_ok h
  have hui : ∀ i, u.get i = u.exp := by
    intro i
    have hi := hu i
    rw [hsame i] at hi
    exact ensureRuleStore_same hi (hu .exp)
  cases i with
  | exp => rfl
  | real =>
      show (u.get .real).rules = u.exp.rules
      rw [hui .real]
  | base =>
      show (u.get .base).rules = u.exp.rules
      rw [hui .base]

theorem accounts_baseline {sch : Scheduler} {dbs : Databases} {store : AnalyserStore}
    (hsame : ∀ i, dbs.get i = dbs.exp) (h : baseline sch env flows dbs store = .ok s) :
    Accounts s := by
  obtain ⟨dbs', r, hrun, hid, hc, _, hdbs, hacc, _, hnext, htrim, hruns, htrace⟩ :=
    baseline_eq_ok h
  have hids : committedIDs s.runs = [0] := by
    rw [hruns, committedIDs]
    simp [hc, hid]
  constructor
  · rw [hdbs]
    exact runAll_same hsame hrun
  · rw [hids, hacc]
    rfl
  · rw [hids]
    exact List.mem_cons_self
  · rw [hids, hnext]
    intro id hmem
    rw [List.mem_singleton.mp hmem]
    decide
  · rw [hacc, htrim]
    simp
  · rw [htrim]
    exact List.nodup_nil
  · rw [htrim]
    intro r' hr'
    cases hr'
  · rw [hids]
    exact List.isChain_singleton _
  · rw [htrace, hruns]
    rfl
  · intro i j r' snap hr' _ _ hsnap inst
    rw [htrace] at hsnap
    rw [hdbs, List.mem_singleton.mp (List.mem_of_getElem? hsnap)]

/-- The accounts hold at the end of every run in a fresh working directory. -/
theorem accounts_run {sch : Scheduler} {dbs : Databases} {store : AnalyserStore} {out : Output}
    (hfresh : Fresh sch.cfg dbs)
    (h : sch.run env dbs store = .ok out) :
    ∃ final, Accounts final ∧ out.result.finalRunID = final.acceptedRunID ∧
      out.result.trimmedRules = sortTrimmedRules final.trimmedRules ∧
      out.result.runs = final.runs ∧ out.dbs = final.dbs ∧ out.trace = final.trace := by
  obtain ⟨flows, dbs₀, store₀, s, safe, final, _, hprep, hbase, hsafe, hiter, rfl⟩ := run_eq_ok h
  have hstart := accounts_baseline (prepareRuleDatabases_same hfresh hprep) hbase
  have hmiddle := (safeStage_steps hsafe).invariant (fun _ _ => accounts_step) hstart
  have hend := (iterFunctions_steps hiter).invariant (fun _ _ => accounts_step) hmiddle
  exact ⟨final, hend, rfl, rfl, rfl, rfl, rfl⟩

/-- **Rule accounting.** Whatever the functions decide and however the evaluations turn out: in each
database the final run has the rules of run 0 minus exactly the trimmed ones, these are listed once
each, every committed run is strictly smaller than the one accepted before it, and from the moment a
committed run is recorded no later round changes its rows. -/
theorem rules_accounted (sch : Scheduler) (env : Externals) (dbs : Databases)
    (store : AnalyserStore) (out : Output)
    (hfresh : Fresh sch.cfg dbs)
    (hrun : sch.run env dbs store = .ok out) :
    let trimmed := out.result.trimmedRules.map fun r => r.key
    let enabled (inst : Instance) (id : Int) := enabledSet (out.dbs.get inst).rules id
    (∀ inst, enabled inst out.result.finalRunID = enabled inst 0 \ trimmed.toFinset ∧
      trimmed.toFinset ⊆ enabled inst 0) ∧
    trimmed.Nodup ∧
    (∀ inst, (committedIDs out.result.runs).IsChain fun a b => enabled inst b ⊂ enabled inst a) ∧
    (out.trace.length = out.result.runs.length ∧
      ∀ (i j : Nat) (r : RunResult) (snap : Databases), out.result.runs[i]? = some r →
        r.committed = true → i ≤ j → out.trace[j]? = some snap → ∀ inst,
          rowsOf (snap.get inst).rules r.runID = rowsOf (out.dbs.get inst).rules r.runID) := by
  intro trimmed enabled
  obtain ⟨final, hA, hid, htrim, hruns, hdbs, htrace⟩ := accounts_run hfresh hrun
  have hperm : trimmed.Perm (final.trimmedRules.map fun r => r.key) := by
    show (out.result.trimmedRules.map fun r => r.key).Perm _
    rw [htrim]
    exact (List.perm_insertionSort _ _).map _
  have hset : trimmed.toFinset = (final.trimmedRules.map fun r => r.key).toFinset :=
    List.toFinset_eq_of_perm _ _ hperm
  have henabled : ∀ inst id, enabled inst id = enabledSet final.dbs.exp.rules id := by
    intro inst id
    show enabledSet (out.dbs.get inst).rules id = _
    rw [hdbs, hA.same inst]
  refine ⟨fun inst => ⟨?_, ?_⟩, hperm.nodup_iff.mpr hA.nodup, fun inst => ?_, ?_, ?_⟩
  · rw [henabled, henabled, hid, hset]
    exact hA.balance
  · intro key hkey
    rw [hset, List.mem_toFinset] at hkey
    obtain ⟨r, hr, rfl⟩ := List.mem_map.mp hkey
    rw [henabled]
    exact hA.initial r hr
  · rw [hruns]
    refine hA.shrinking.imp fun a b hab => ?_
    rw [henabled, henabled]
    exact hab
  · rw [htrace, hruns]
    exact hA.traced
  · rw [htrace, hruns, hdbs]
    exact hA.frozen

/-- The lone rule is trimmed where its loss is allowed, and the final run is left without rules. -/
theorem lone_rule_trimmed :
    ∃ out, Scheduler.run { cfg := lenientConfig, functions := [persistent, persistent] }
        (lone true) .empty { runs := [], trimDecisions := [] } = .ok out ∧
      (out.result.trimmedRules.map fun r => r.key) = [(1, 1)] ∧
      ∀ inst, enabledSet (out.dbs.get inst).rules out.result.finalRunID =
        enabledSet (out.dbs.get inst).rules 0 \ {(1, 1)} := by
  have htrimmed : ((Scheduler.run { cfg := lenientConfig, functions := [persistent, persistent] }
      (lone true) .empty { runs := [], trimDecisions := [] }).toOption.map
        fun out => out.result.trimmedRules.map fun r => r.key) = some [(1, 1)] := by
    decide +kernel
  obtain ⟨out, hout, htrimmed⟩ := Option.map_eq_some_iff.mp htrimmed
  have hrun := eq_ok_of_toOption hout
  refine ⟨out, hrun, htrimmed, fun inst => ?_⟩
  have hfinal := ((rules_accounted _ _ _ _ out (.inr rfl) hrun).1 inst).1
  rw [htrimmed] at hfinal
  exact hfinal

end SnortOptimizer.Analyser
