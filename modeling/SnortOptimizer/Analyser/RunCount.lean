import SnortOptimizer.Analyser.Accounting
import SnortOptimizer.Analyser.RunIDs

/-!
# How many runs a search makes

A search makes run 0, at most one run for all SAFE functions together, and at most one run for each
round of each ITER function (`run_length_le`). That is the best bound there is: with enough rules,
functions that always find one more rule to drop, and a configuration that accepts everything, the
search makes that many (`maxRuns_attained`).
-/

namespace SnortOptimizer.Analyser

open Text

variable {env : Externals} {flows : FlowSet} {s s' : SearchState} {sch : Scheduler}

/-- The most runs the scheduler can make. -/
def Scheduler.maxRuns (sch : Scheduler) : Nat :=
  1 + (if sch.functionsByType .SAFE = [] then 0 else 1) +
    (sch.functionsByType .ITER).length * sch.cfg.maxRound.toNat

/-! ## At most -/

theorem record_length (s : SearchState) (trimmed : List TrimmedRule) (r : RunResult) :
    (s.record trimmed r).runs.length = s.runs.length + 1 := by
  simp [SearchState.record]

theorem iterRounds_length {fn : RegisteredFunction} {n round : Nat} {factor : ℚ}
    (h : iterRounds sch env flows fn n round factor s = .ok s') :
    s'.runs.length ≤ s.runs.length + n := by
  induction n generalizing round factor s with
  | zero =>
      cases h
      exact Nat.le_refl _
  | succ n ih =>
      rcases iterRounds_cases h with ⟨clock, rfl⟩ |
        ⟨clock, clock', dbs, trimmed, r, _, _, _, hrest⟩
      · exact Nat.le_add_right _ _
      · have hone := record_length { s with dbs := dbs, clock := clock' } trimmed r
        rcases hrest with ⟨_, h⟩ | ⟨_, _, rfl⟩ | ⟨_, h⟩
        · have hlater := ih h
          have hone : s'.runs.length ≤ s.runs.length + 1 + n := hone ▸ hlater
          omega
        · have hone : _ = s.runs.length + 1 := hone
          omega
        · have hlater := ih h
          have hone : s'.runs.length ≤ s.runs.length + 1 + n := hone ▸ hlater
          omega

theorem iterFunctions_length {fns : List RegisteredFunction}
    (h : iterFunctions sch env flows fns s = .ok s') :
    s'.runs.length ≤ s.runs.length + fns.length * sch.cfg.maxRound.toNat := by
  induction fns generalizing s with
  | nil =>
      cases h
      simp
  | cons fn fns ih =>
      rw [iterFunctions] at h
      obtain ⟨t, ht, h⟩ := bind_eq_ok.mp h
      have hfirst := iterRounds_length ht
      have hrest := ih h
      rw [List.length_cons, Nat.succ_mul]
      omega

/-- Without SAFE functions the SAFE stage makes no run. -/
theorem safeStage_length (h : safeStage sch env flows s = .ok s') :
    s'.runs.length ≤ s.runs.length + if sch.functionsByType .SAFE = [] then 0 else 1 := by
  by_cases hnone : sch.functionsByType .SAFE = []
  · unfold safeStage at h
    rw [hnone] at h
    cases h
    exact Nat.le_add_right _ _
  · rw [if_neg hnone]
    rcases safeStage_cases h with ⟨clock, rfl⟩ | ⟨clock, clock', dbs, trimmed, r, _, _, _, rfl⟩
    · exact Nat.le_add_right _ _
    · have hone := record_length { s with dbs := dbs, clock := clock' } trimmed r
      exact Nat.le_of_eq hone

/-- **A search makes at most so many runs.** -/
theorem run_length_le {dbs : Databases} {store : AnalyserStore} {out : Output}
    (h : sch.run env dbs store = .ok out) : out.result.runs.length ≤ sch.maxRuns := by
  obtain ⟨flows, dbs₀, store₀, s, safe, final, _, _, hbase, hsafe, hiter, rfl⟩ := run_eq_ok h
  obtain ⟨_, r, _, _, _, _, _, _, _, _, _, hruns, _⟩ := baseline_eq_ok hbase
  have hfirst : s.runs.length = 1 := by
    rw [hruns]
    rfl
  have hmiddle := safeStage_length hsafe
  have hlast := iterFunctions_length hiter
  show final.runs.length ≤ sch.maxRuns
  rw [Scheduler.maxRuns]
  omega

/-! ## That many

Functions that propose the first rule that is still enabled, and a Snort that never fails. -/

def dropFirst : TrimFunction := fun _ input =>
  .ok ((listRulesFromDB input.dbs.exp.rules input.sourceRunID true).head?.toList.map fun r =>
    { gid := r.gid, sid := r.sid, rev := r.rev, sourceFile := r.sourceFile, msg := r.msg
      reason := "first", function := "", type := .ITER, metrics := [] })

/-- The search goes on with at least `k` enabled rules. -/
structure Crowded (k : Nat) (s : SearchState) : Prop where
  accounts : Accounts s
  rates : 0 ≤ s.acceptedEval.missRate ∧ 0 ≤ s.acceptedEval.falsePositiveRate
  crowd : k ≤ (enabledSet s.dbs.exp.rules s.acceptedRunID).card

theorem Crowded.mono {j k : Nat} (h : Crowded k s) (hjk : j ≤ k) : Crowded j s :=
  { h with crowd := Nat.le_trans hjk h.crowd }

theorem Crowded.tick {k : Nat} (h : Crowded k s) (clock : Nat) :
    Crowded k { s with clock := clock } where
  accounts := { h.accounts with }
  rates := h.rates
  crowd := h.crowd

/-- Where a rule is enabled there is a row. -/
theorem Crowded.rows {k : Nat} (h : Crowded (k + 1) s) (i : Instance) :
    rowsOf (s.dbs.get i).rules s.acceptedRunID ≠ [] := by
  rw [h.accounts.same i]
  intro hnil
  have hcrowd := h.crowd
  rw [enabledSet, hnil] at hcrowd
  simp at hcrowd

/-- What is proposed, at whatever time: a single rule, and it is enabled. -/
theorem Crowded.proposal {k : Nat} (h : Crowded (k + 1) s) (round : Nat) (factor : ℚ) :
    ∃ d, d.key ∈ enabledSet s.dbs.exp.rules s.acceptedRunID ∧ ∀ clock, dropFirst clock
      { dbs := s.dbs, round := round, sourceRunID := s.acceptedRunID, factor := factor } =
        .ok [d] := by
  obtain ⟨key, hkey⟩ := Finset.card_pos.mp (Nat.lt_of_lt_of_le (Nat.succ_pos k) h.crowd)
  obtain ⟨r, hr, _⟩ := mem_enabledSet.mp hkey
  obtain ⟨first, rest, hrules⟩ := List.exists_cons_of_ne_nil (List.ne_nil_of_mem hr)
  have hfirst : first ∈ listRulesFromDB s.dbs.exp.rules s.acceptedRunID true := by
    rw [hrules]
    exact List.mem_cons_self
  let d : TrimDecision :=
    { gid := first.gid, sid := first.sid, rev := first.rev, sourceFile := first.sourceFile
      msg := first.msg, reason := "first", function := "", type := .ITER, metrics := [] }
  refine ⟨d, mem_enabledSet.mpr ⟨first, hfirst, rfl⟩, ?_⟩
  intro clock
  simp only [dropFirst, hrules, List.head?_cons, Option.toList_some, List.map_cons, List.map_nil]
  rfl

theorem executeFunction_proposal {fn : RegisteredFunction} (hfn : fn.fn = dropFirst)
    {input : FunctionInput} {d : TrimDecision} (hd : ∀ clock, dropFirst clock input = .ok [d])
    (clock : Nat) :
    executeFunction fn clock input = .ok [{ d with function := fn.name, type := fn.type }] := by
  rw [executeFunction, hfn, hd]
  rfl

/-- Decisions about a single rule, and it is enabled. -/
structure AboutOne (s : SearchState) (raw : List TrimDecision) (key : Int × Int) : Prop where
  ne_nil : raw ≠ []
  only : ∀ d ∈ raw, d.key = key
  enabled : key ∈ enabledSet s.dbs.exp.rules s.acceptedRunID

theorem AboutOne.trimmed_keys {raw : List TrimDecision} {key : Int × Int} (h : AboutOne s raw key)
    (typ : FunctionType) (x : Int × Int) :
    x ∈ (aggregateAndEnrich s.dbs.exp.rules s.acceptedRunID typ raw).map (fun r => r.key) ↔
      x = key := by
  rw [mem_aggregateAndEnrich]
  constructor
  · rintro ⟨hx, _⟩
    obtain ⟨d, hd, rfl⟩ := List.mem_map.mp hx
    exact h.only d hd
  · rintro rfl
    obtain ⟨d, hd⟩ := List.exists_mem_of_ne_nil raw h.ne_nil
    exact ⟨List.mem_map.mpr ⟨d, hd, h.only d hd⟩, h.enabled⟩

theorem AboutOne.trimmed_ne_nil {raw : List TrimDecision} {key : Int × Int}
    (h : AboutOne s raw key) (typ : FunctionType) :
    aggregateAndEnrich s.dbs.exp.rules s.acceptedRunID typ raw ≠ [] := by
  intro hnil
  have hmem := (h.trimmed_keys typ key).mpr rfl
  rw [hnil] at hmem
  cases hmem

/-- **A candidate that drops a single rule** can be tried, and where it is accepted one rule fewer
is left. -/
theorem Crowded.candidate {k : Nat} (h : Crowded (k + 1) s) (flows : FlowSet)
    {raw : List TrimDecision} {key : Int × Int} (hraw : AboutOne s raw key) (typ : FunctionType)
    (cfg : Config)
    (hsnort : ∀ clock inst runID rules, ∃ alerts, env.snort clock inst runID rules = .ok alerts) :
    let trimmed := setTrimRunID
      (aggregateAndEnrich s.dbs.exp.rules s.acceptedRunID typ raw) s.nextRunID
    ∃ u eval, tryCandidate cfg env flows s trimmed = .ok (u, eval) ∧
      u.acceptedEval = s.acceptedEval ∧ u.nextRunID = s.nextRunID ∧ u.runs = s.runs ∧
      (eval.missRate ≤ 1 ∧ eval.falsePositiveRate ≤ 1) ∧
      ∀ r : RunResult, r.runID = s.nextRunID → r.committed = true → r.evaluation = eval →
        Crowded k ((u.record trimmed r).commit trimmed eval).advance := by
  intro trimmed
  have hlt := h.accounts.accepted_lt
  obtain ⟨⟨u, eval⟩, hu⟩ : ∃ result, tryCandidate cfg env flows s trimmed = .ok result :=
    tryCandidate_succeeds trimmed (ne_of_lt hlt) h.rows fun clock inst rules =>
      hsnort clock inst _ rules
  obtain ⟨dbs, rfl, htried⟩ := tryCandidate_tried (hraw.trimmed_ne_nil typ) hu
  have hrates := htried.rates
  refine ⟨_, eval, hu, rfl, rfl, rfl, ⟨hrates.1.2, hrates.2.2⟩, ?_⟩
  rintro r hid hc rfl
  refine ⟨accounts_commit h.accounts htried hid hc, ⟨hrates.1.1, hrates.2.1⟩, ?_⟩
  show k ≤ (enabledSet (dbs.get .exp).rules s.nextRunID).card
  rw [(htried.rules (ne_of_lt hlt) .exp).2]
  have hsingle : (trimmed.map fun r => r.key).toFinset = {key} := by
    ext x
    rw [List.mem_toFinset, setTrimRunID_keys, hraw.trimmed_keys typ,
      Finset.mem_singleton]
  have hcard := Finset.le_card_sdiff (trimmed.map fun r => r.key).toFinset
    (enabledSet (s.dbs.get .exp).rules s.acceptedRunID)
  rw [hsingle, Finset.card_singleton] at hcard
  rw [hsingle]
  have hcrowd : k + 1 ≤ (enabledSet (s.dbs.get .exp).rules s.acceptedRunID).card := h.crowd
  omega

/-! ### Rounds -/

section Rounds

variable (flows) {fn : RegisteredFunction} (hfn : fn.fn = dropFirst) (hl : sch.cfg.Lenient)
  (hsnort : ∀ clock inst runID rules, ∃ alerts, env.snort clock inst runID rules = .ok alerts)
include hfn hl hsnort

/-- **Every round ends with a commit.** -/
theorem Crowded.round {k : Nat} (h : Crowded (k + 1) s) (round : Nat) (factor : ℚ) :
    ∃ u, iterRound sch env flows fn round factor s = .ok (.committed u) ∧ Crowded k u.advance ∧
      u.runs.length = s.runs.length + 1 := by
  obtain ⟨d₀, hkey, hd₀⟩ := h.proposal round factor
  let d : TrimDecision := { d₀ with function := fn.name, type := fn.type }
  have hd := executeFunction_proposal hfn hd₀ s.clock
  have hclock := h.tick (s.clock + 1)
  have hone : AboutOne { s with clock := s.clock + 1 } [d] d.key :=
    ⟨List.cons_ne_nil _ _, fun d' hd' => by rw [List.mem_singleton.mp hd'], hkey⟩
  obtain ⟨u, eval, hu, heval, hnext, hruns, hrates, hcommit⟩ :=
    hclock.candidate flows hone .ITER sch.cfg hsnort
  have hverdict : (evaluateCandidate sch.cfg u.acceptedEval eval).1 = true := by
    rw [heval]
    exact lenient_accepts hl h.rates hrates
  let trimmed := setTrimRunID
    (aggregateAndEnrich s.dbs.exp.rules s.acceptedRunID .ITER [d]) s.nextRunID
  let r : RunResult :=
    { runID := u.nextRunID, committed := (evaluateCandidate sch.cfg u.acceptedEval eval).1
      rolledBack := !(evaluateCandidate sch.cfg u.acceptedEval eval).1, factor := factor
      reason := fn.name ++ ": " ++ (evaluateCandidate sch.cfg u.acceptedEval eval).2
      evaluation := eval }
  refine ⟨(u.record trimmed r).commit trimmed eval, ?_, hcommit r hnext hverdict rfl, ?_⟩
  · refine bind_eq_ok.mpr ⟨[d], hd, ?_⟩
    dsimp only
    rw [if_neg (hone.trimmed_ne_nil .ITER)]
    refine bind_eq_ok.mpr ⟨(u, eval), hu, ?_⟩
    show Except.ok (if (evaluateCandidate sch.cfg u.acceptedEval eval).1 then
      RoundOutcome.committed ((u.record trimmed r).commit trimmed eval) else _) = _
    rw [if_pos hverdict]
  · show (u.record trimmed r).runs.length = _
    rw [record_length, hruns]

theorem Crowded.rounds (n : Nat) : ∀ {k : Nat} {s : SearchState} (round : Nat) (factor : ℚ),
    Crowded (k + n) s → ∃ s', iterRounds sch env flows fn n round factor s = .ok s' ∧
      Crowded k s' ∧ s'.runs.length = s.runs.length + n := by
  induction n with
  | zero => exact fun round factor h => ⟨_, rfl, h, rfl⟩
  | succ n ih =>
      intro k s round factor h
      obtain ⟨u, hu, hcrowded, hlength⟩ := h.round flows hfn hl hsnort round factor
      obtain ⟨s', hs', hcrowded', hlength'⟩ := ih (k := k) (round + 1) factor hcrowded
      refine ⟨s', bind_eq_ok.mpr ⟨_, hu, hs'⟩, hcrowded', ?_⟩
      have hlength' : s'.runs.length = u.runs.length + n := hlength'
      omega

end Rounds

/-! ### Stages -/

/-- All functions together propose one rule. -/
theorem execute_proposal {fns : List RegisteredFunction} (hfns : ∀ fn ∈ fns, fn.fn = dropFirst)
    {input : FunctionInput} {d : TrimDecision} (hd : ∀ clock, dropFirst clock input = .ok [d])
    (clock : Nat) :
    ∃ raw, execute input fns clock = .ok raw ∧ raw.length = fns.length ∧
      ∀ d' ∈ raw, d'.key = d.key := by
  induction fns generalizing clock with
  | nil => exact ⟨[], rfl, rfl, fun d' hd' => absurd hd' List.not_mem_nil⟩
  | cons fn fns ih =>
      rw [List.forall_mem_cons] at hfns
      obtain ⟨raw, hraw, hlength, hkeys⟩ := ih hfns.2 (clock + 1)
      refine ⟨{ d with function := fn.name, type := fn.type } :: raw, ?_, ?_, ?_⟩
      · refine bind_eq_ok.mpr ⟨_, executeFunction_proposal hfns.1 hd clock, ?_⟩
        exact bind_eq_ok.mpr ⟨raw, hraw, rfl⟩
      · rw [List.length_cons, hlength, List.length_cons]
      · intro d' hd'
        rcases List.mem_cons.mp hd' with rfl | hd'
        · rfl
        · exact hkeys d' hd'

section Stages

variable (flows) (hl : sch.cfg.Lenient)
  (hsnort : ∀ clock inst runID rules, ∃ alerts, env.snort clock inst runID rules = .ok alerts)
include hsnort

/-- **The SAFE stage** makes its run. -/
theorem Crowded.safeStage {k : Nat} (h : Crowded (k + 1) s)
    (hfns : ∀ fn ∈ sch.functions, fn.fn = dropFirst) :
    ∃ s', Analyser.safeStage sch env flows s = .ok s' ∧ Crowded k s' ∧
      s'.runs.length = s.runs.length + if sch.functionsByType .SAFE = [] then 0 else 1 := by
  obtain ⟨d, hkey, hd⟩ := h.proposal 0 1
  have hsafe : ∀ fn ∈ sch.functionsByType .SAFE, fn.fn = dropFirst := fun fn hfn =>
    hfns fn (List.mem_of_mem_filter hfn)
  obtain ⟨raw, hraw, hlength, hkeys⟩ := execute_proposal hsafe hd s.clock
  have hclock := h.tick (s.clock + (sch.functionsByType .SAFE).length)
  by_cases hnone : sch.functionsByType .SAFE = []
  · have hnil : raw = [] := by
      rw [hnone] at hlength
      exact List.length_eq_zero_iff.mp hlength
    rw [hnil] at hraw
    refine ⟨_, bind_eq_ok.mpr ⟨[], hraw, ?_⟩, hclock.mono (Nat.le_succ k), ?_⟩
    · rfl
    · rw [if_pos hnone]
      rfl
  · have hne : raw ≠ [] := by
      intro hnil
      rw [hnil] at hlength
      exact hnone (List.length_eq_zero_iff.mp hlength.symm)
    have hone : AboutOne { s with clock := s.clock + (sch.functionsByType .SAFE).length } raw
        d.key := ⟨hne, hkeys, hkey⟩
    obtain ⟨u, eval, hu, _, hnext, hruns, _, hcommit⟩ :=
      hclock.candidate flows hone .SAFE sch.cfg hsnort
    let trimmed := setTrimRunID
      (aggregateAndEnrich s.dbs.exp.rules s.acceptedRunID .SAFE raw) s.nextRunID
    let r : RunResult :=
      { runID := u.nextRunID, committed := true, rolledBack := false, factor := 1
        reason := "SAFE functions are committed directly", evaluation := eval }
    refine ⟨((u.record trimmed r).commit trimmed eval).advance, ?_, hcommit r hnext rfl rfl, ?_⟩
    · refine bind_eq_ok.mpr ⟨raw, hraw, ?_⟩
      dsimp only
      rw [if_neg (hone.trimmed_ne_nil .SAFE)]
      exact bind_eq_ok.mpr ⟨(u, eval), hu, rfl⟩
    · show (u.record trimmed r).runs.length = _
      rw [record_length, hruns, if_neg hnone]

include hl

theorem Crowded.functions {fns : List RegisteredFunction} (hfns : ∀ fn ∈ fns, fn.fn = dropFirst) :
    ∀ {k : Nat} {s : SearchState}, Crowded (k + fns.length * sch.cfg.maxRound.toNat) s →
      ∃ s', iterFunctions sch env flows fns s = .ok s' ∧
        s'.runs.length = s.runs.length + fns.length * sch.cfg.maxRound.toNat := by
  induction fns with
  | nil => exact fun _ => ⟨_, rfl, by simp⟩
  | cons fn fns ih =>
      intro k s h
      rw [List.forall_mem_cons] at hfns
      rw [List.length_cons, Nat.succ_mul, ← Nat.add_assoc] at h
      obtain ⟨u, hu, hcrowded, hlength⟩ :=
        Crowded.rounds flows hfns.1 hl hsnort _ 1 sch.cfg.initialFactor h
      obtain ⟨s', hs', hlength'⟩ := ih hfns.2 hcrowded
      refine ⟨s', bind_eq_ok.mpr ⟨u, hu, hs'⟩, ?_⟩
      rw [List.length_cons, Nat.succ_mul]
      omega

end Stages

/-! ### Whole runs -/

def crowdRule (i : Nat) : Rule := { loneRule with sid := i, rawText := toString (i : Int) }

def crowd (n : Nat) : List Rule := (List.range n).map crowdRule

/-- Any number of rules, and a Snort that never alerts. -/
def crowdEnv (n : Nat) : Externals :=
  { lone true with
    rawSnortSQLite := .ok (crowd n)
    rawRulePath := .ok (crowd n)
    snort := fun _ _ _ _ => .ok [] }

def crowdDB (n : Nat) : SnortDB :=
  { created := true, rules := insertRules Table.empty 0 (crowd n), alerts := [], ruleFP := [] }

theorem crowd_conflict {i j : Nat} (h : RuleRow.Conflict ⟨0, crowdRule i⟩ ⟨0, crowdRule j⟩) :
    i = j := by
  rcases h with ⟨_, ⟨_, hsid⟩ | ⟨_, htext⟩⟩
  · exact Int.ofNat.inj hsid
  · exact Int.ofNat.inj (toString_int_inj htext)

/-- No two of the rules conflict, so all of them are stored. -/
theorem crowd_rows (n : Nat) :
    (insertRules Table.empty 0 (crowd n)).rows = (crowd n).map (RuleRow.mk 0) := by
  induction n with
  | zero => rfl
  | succ n ih =>
      have hcrowd : crowd (n + 1) = crowd n ++ [crowdRule n] := by
        simp [crowd, List.range_succ]
      have hfold : insertRules Table.empty 0 (crowd (n + 1)) =
          (insertRules Table.empty 0 (crowd n)).insertOrIgnore ⟨0, crowdRule n⟩ := by
        rw [hcrowd, insertRules, List.foldl_append]
        rfl
      rw [hfold, Table.insertOrIgnore_rows, ih, hcrowd, List.map_append]
      · rfl
      · intro row hrow hconflict
        rw [ih, crowd, List.map_map] at hrow
        obtain ⟨i, hi, rfl⟩ := List.mem_map.mp hrow
        exact absurd (crowd_conflict hconflict) (ne_of_lt (List.mem_range.mp hi))

theorem crowd_card (n : Nat) :
    (enabledSet (insertRules Table.empty 0 (crowd n)) 0).card = n := by
  have henabled : enabledSet (insertRules Table.empty 0 (crowd n)) 0 =
      (Finset.range n).image fun i : Nat => ((1 : Int), (i : Int)) := by
    ext key
    rw [enabledSet, rowsOf, crowd_rows]
    simp only [crowd, List.mem_toFinset, List.mem_map, List.mem_filter, List.mem_range,
      Finset.mem_image, Finset.mem_range]
    constructor
    · rintro ⟨_, ⟨⟨⟨_, ⟨i, hi, rfl⟩, rfl⟩, _⟩, _⟩, rfl⟩
      exact ⟨i, hi, rfl⟩
    · rintro ⟨i, hi, rfl⟩
      exact ⟨_, ⟨⟨⟨_, ⟨i, hi, rfl⟩, rfl⟩, rfl⟩, rfl⟩, rfl⟩
  rw [henabled, Finset.card_image_of_injective, Finset.card_range]
  intro i j h
  exact Int.ofNat.inj (Prod.mk.inj h).2

theorem crowd_prepared (cfg : Config) (n : Nat) :
    ∃ store, prepareRuleDatabases cfg (crowdEnv (n + 1)) .empty
        { runs := [], trimDecisions := [] } =
      .ok ({ exp := crowdDB (n + 1), real := crowdDB (n + 1), base := crowdDB (n + 1) },
        store) := by
  have hne : crowd (n + 1) ≠ [] := by
    intro h
    have hlength := congrArg List.length h
    simp [crowd] at hlength
  apply prepareRuleDatabases_empty rfl
  unfold initRuleDB
  split
  · refine bind_eq_ok.mpr ⟨crowd (n + 1), rfl, ?_⟩
    rw [if_neg hne]
    rfl
  · refine bind_eq_ok.mpr ⟨crowd (n + 1), rfl, ?_⟩
    rw [if_neg hne]
    rfl

theorem crowd_baseline (sch : Scheduler) (n : Nat) (store : AnalyserStore) :
    ∃ s, baseline sch (crowdEnv n) (loneFlows true)
        { exp := crowdDB n, real := crowdDB n, base := crowdDB n } store = .ok s ∧
      Crowded n s ∧ s.runs.length = 1 := by
  let dbs : Databases := { exp := crowdDB n, real := crowdDB n, base := crowdDB n }
  have hcreated : ∀ i, (dbs.get i).created = true := by
    intro i
    cases i <;> rfl
  have hsame : ∀ i, dbs.get i = dbs.exp := by
    intro i
    cases i <;> rfl
  obtain ⟨s, hs⟩ : ∃ s, baseline sch (crowdEnv n) (loneFlows true) dbs store = .ok s :=
    baseline_succeeds sch hcreated (fun _ _ _ => ⟨_, rfl⟩) store
  obtain ⟨_, r, hrun, _, _, heval, hsdbs, hacc, haccEval, _, _, hruns, _⟩ := baseline_eq_ok hs
  obtain ⟨alerts, _, rfl⟩ := runAll_created hcreated hrun
  have hrates := evaluateRun_rates (crowdEnv n).rt (loneFlows true) 0
    { dbs with exp := stored (crowdEnv n).rt (loneFlows true) 0 (dbs.get .exp) alerts }
  refine ⟨s, hs, ⟨accounts_baseline hsame hs, ?_, ?_⟩, ?_⟩
  · rw [haccEval, heval]
    exact ⟨hrates.1.1, hrates.2.1⟩
  · rw [hsdbs, hacc]
    exact Nat.le_of_eq (crowd_card n).symm
  · rw [hruns]
    rfl

/-- **Some search makes that many runs**, where every change of a rate is allowed. -/
theorem maxRuns_attained (hl : sch.cfg.Lenient) (hfns : ∀ fn ∈ sch.functions, fn.fn = dropFirst) :
    ∃ env out, sch.run env .empty { runs := [], trimDecisions := [] } = .ok out ∧
      out.result.runs.length = sch.maxRuns := by
  let n := (sch.functionsByType .ITER).length * sch.cfg.maxRound.toNat
  have hsnort : ∀ clock inst runID rules, ∃ alerts,
      (crowdEnv (n + 1)).snort clock inst runID rules = .ok alerts :=
    fun _ _ _ _ => ⟨[], rfl⟩
  have hiter : ∀ fn ∈ sch.functionsByType .ITER, fn.fn = dropFirst := fun fn hfn =>
    hfns fn (List.mem_of_mem_filter hfn)
  obtain ⟨store, hprep⟩ := crowd_prepared sch.cfg n
  obtain ⟨s, hs, hcrowded, hfirst⟩ := crowd_baseline sch (n + 1) store
  obtain ⟨t, ht, hcrowded, hsafe⟩ := hcrowded.safeStage (loneFlows true) hsnort hfns
  obtain ⟨final, hfinal, hlast⟩ := Crowded.functions (k := 0) (loneFlows true) hl hsnort
    hiter (hcrowded.mono (Nat.le_of_eq (Nat.zero_add n)))
  refine ⟨crowdEnv (n + 1), _, bind_eq_ok.mpr ⟨_, hprep, bind_eq_ok.mpr ⟨_, rfl,
    bind_eq_ok.mpr ⟨s, hs, bind_eq_ok.mpr ⟨t, ht, bind_eq_ok.mpr ⟨final, hfinal, rfl⟩⟩⟩⟩⟩, ?_⟩
  show final.runs.length = sch.maxRuns
  rw [hlast, hsafe, hfirst, Scheduler.maxRuns]

end SnortOptimizer.Analyser
