import SnortOptimizer.Analyser.Adversary
import Mathlib.Tactic.Ring

/-!
# How far the quality can drift

Every ITER candidate is compared with the evaluation accepted last, so the quality of the accepted
rule set moves by at most the configured increase with each commit, and not at all with a rollback.
Over a whole run the increases add up: after `k` commits the rates are at most `k` increases above
the ones accepted after the SAFE stage.

`LastAccepted` ties the accepted run id and evaluation to the run recorded last as committed,
`Judged` says of a list of recorded runs which comparison decided each, and `judged_bound` adds the
comparisons up.
-/

namespace SnortOptimizer.Analyser

/-- The run recorded last among the committed ones. -/
def lastCommitted (runs : List RunResult) : Option RunResult :=
  (runs.filter (·.committed)).getLast?

theorem lastCommitted_append (runs : List RunResult) (r : RunResult) :
    lastCommitted (runs ++ [r]) = if r.committed then some r else lastCommitted runs := by
  rw [lastCommitted, List.filter_append, lastCommitted]
  by_cases hc : r.committed = true
  · rw [if_pos hc, List.filter_cons_of_pos hc, List.filter_nil, List.getLast?_concat]
  · rw [if_neg hc, List.filter_cons_of_neg hc, List.filter_nil, List.append_nil]

/-- Each run of the ITER stage was committed or not by comparison with the run committed last
before it; `start` are the runs recorded before the stage. -/
def Judged (cfg : Config) (start iters : List RunResult) : Prop :=
  ∀ pre r post, iters = pre ++ r :: post → ∃ accepted,
    lastCommitted (start ++ pre) = some accepted ∧
    r.committed = (evaluateCandidate cfg accepted.evaluation r.evaluation).1

variable {cfg : Config} {env : Externals} {flows : FlowSet} {start iters : List RunResult}
  {s s' : SearchState}

theorem Judged.dropLast {r : RunResult} (h : Judged cfg start (iters ++ [r])) :
    Judged cfg start iters := by
  intro pre x post hsplit
  apply h pre x (post ++ [r])
  rw [hsplit, List.append_assoc, List.cons_append]

theorem Judged.append {r accepted : RunResult} (h : Judged cfg start iters)
    (hlast : lastCommitted (start ++ iters) = some accepted)
    (hr : r.committed = (evaluateCandidate cfg accepted.evaluation r.evaluation).1) :
    Judged cfg start (iters ++ [r]) := by
  intro pre x post hsplit
  -- the run in question is the new one, or it was there before
  induction post using List.reverseRecOn with
  | nil =>
      obtain ⟨rfl, hx⟩ := List.append_inj' hsplit rfl
      cases hx
      exact ⟨accepted, hlast, hr⟩
  | append_singleton post y _ =>
      rw [← List.cons_append, ← List.append_assoc] at hsplit
      apply h pre x post
      exact List.append_inj_left' hsplit rfl

/-! ## One comparison -/

/-- What a candidate that is accepted satisfies. -/
theorem evaluateCandidate_accepts {accepted candidate : Evaluation}
    (h : (evaluateCandidate cfg accepted candidate).1 = true) :
    (0 < candidate.maliciousFlows →
      candidate.missRate ≤ accepted.missRate + cfg.maxMissRateIncrease) ∧
    (0 < candidate.totalFlows →
      candidate.falsePositiveRate ≤ accepted.falsePositiveRate + cfg.maxFPRateIncrease) := by
  unfold evaluateCandidate at h
  dsimp only at h
  split at h
  · cases h
  · next hmiss =>
      split at h
      · cases h
      · next hfp =>
          refine ⟨fun hpos => ?_, fun hpos => ?_⟩
          · have hle := not_lt.mp fun hlt => hmiss ⟨hpos, hlt⟩
            linarith
          · have hle := not_lt.mp fun hlt => hfp ⟨hpos, hlt⟩
            linarith

/-- The evaluation is one of the given flows. -/
def Evaluates (env : Externals) (flows : FlowSet) (eval : Evaluation) : Prop :=
  ∃ alerts, eval = evaluateAlerts env.rt flows alerts

/-- The denominators of the rates are the same in all evaluations of the same flows. -/
theorem Evaluates.denominators {eval : Evaluation} (h : Evaluates env flows eval) :
    eval.maliciousFlows = (maliciousSet flows).card ∧ eval.totalFlows = flows.flows.length := by
  obtain ⟨alerts, rfl⟩ := h
  have hcounts := evaluateAlerts_counts env.rt flows alerts
  exact ⟨hcounts.malicious, hcounts.total⟩

/-! ## Adding up the comparisons -/

/-- **Telescoping.** Over a judged list of runs the rates rise by at most one increase for each
commit. -/
theorem judged_bound {safe : RunResult} (hsafe : lastCommitted start = some safe)
    (heval : ∀ r ∈ iters, Evaluates env flows r.evaluation) (hj : Judged cfg start iters) :
    ∃ final, lastCommitted (start ++ iters) = some final ∧
      (0 < (maliciousSet flows).card → final.evaluation.missRate ≤
        safe.evaluation.missRate + iters.countP (·.committed) * cfg.maxMissRateIncrease) ∧
      (0 < flows.flows.length → final.evaluation.falsePositiveRate ≤
        safe.evaluation.falsePositiveRate +
          iters.countP (·.committed) * cfg.maxFPRateIncrease) := by
  induction iters using List.reverseRecOn with
  | nil =>
      refine ⟨safe, ?_, ?_, ?_⟩
      · rw [List.append_nil]
        exact hsafe
      · simp
      · simp
  | append_singleton iters r ih =>
      obtain ⟨final, hfinal, hmiss, hfp⟩ :=
        ih (fun x hx => heval x (List.mem_append_left _ hx)) hj.dropLast
      obtain ⟨accepted, haccepted, hr⟩ := hj iters r [] rfl
      rw [hfinal, Option.some.injEq] at haccepted
      subst haccepted
      rw [← List.append_assoc, lastCommitted_append, List.countP_append, List.countP_singleton]
      by_cases hc : r.committed = true
      · -- the bound of the run accepted before, and one more increase
        rw [if_pos hc, if_pos hc]
        obtain ⟨hmal, htotal⟩ := (heval r (List.mem_append_right _ List.mem_cons_self)).denominators
        obtain ⟨hmiss', hfp'⟩ := evaluateCandidate_accepts (hr ▸ hc)
        rw [hmal] at hmiss'
        rw [htotal] at hfp'
        refine ⟨r, rfl, fun hpos => ?_, fun hpos => ?_⟩
        · have h₁ := hmiss hpos
          have h₂ := hmiss' hpos
          push_cast
          linarith
        · have h₁ := hfp hpos
          have h₂ := hfp' hpos
          push_cast
          linarith
      · rw [if_neg hc, if_neg hc, Nat.add_zero]
        exact ⟨final, hfinal, hmiss, hfp⟩

/-! ## The accepted run -/

/-- The accepted run is the one committed last, and every recorded evaluation is one of the same
flows. -/
structure LastAccepted (env : Externals) (flows : FlowSet) (s : SearchState) : Prop where
  accepted : ∃ r, lastCommitted s.runs = some r ∧ r.runID = s.acceptedRunID ∧
    r.evaluation = s.acceptedEval
  evaluates : ∀ r ∈ s.runs, Evaluates env flows r.evaluation

theorem Tried.evaluates {trimmed : List TrimmedRule} {dbs : Databases} {eval : Evaluation}
    (h : Tried env flows s trimmed dbs eval) : Evaluates env flows eval :=
  ⟨_, h.evaluated⟩

theorem evaluates_append {runs : List RunResult} {r : RunResult}
    (h : ∀ x ∈ runs, Evaluates env flows x.evaluation) (hr : Evaluates env flows r.evaluation) :
    ∀ x ∈ runs ++ [r], Evaluates env flows x.evaluation := by
  intro x hx
  rcases List.mem_append.mp hx with hx | hx
  · exact h x hx
  · rw [List.mem_singleton.mp hx]
    exact hr

theorem lastAccepted_step {typ : FunctionType} (h : Step cfg env flows typ s s')
    (hA : LastAccepted env flows s) : LastAccepted env flows s' := by
  cases h with
  | tick clock => exact { hA with }
  | advance => exact { hA with }
  | commit clock dbs trimmed r tried hid hc _ =>
      refine ⟨⟨r, ?_, hid, rfl⟩, evaluates_append hA.evaluates tried.evaluates⟩
      show lastCommitted (s.runs ++ [r]) = some r
      rw [lastCommitted_append, if_pos hc]
  | rollback clock dbs trimmed r tried _ hc _ =>
      refine ⟨?_, evaluates_append hA.evaluates tried.evaluates⟩
      show ∃ x, lastCommitted (s.runs ++ [r]) = some x ∧ _
      rw [lastCommitted_append, hc]
      exact hA.accepted

/-- What the ITER stage has recorded so far was judged. -/
def JudgedSince (cfg : Config) (start : List RunResult) (s : SearchState) : Prop :=
  ∃ iters, s.runs = start ++ iters ∧ Judged cfg start iters

/-- A recorded run whose verdict is that of the comparison stays within the judged ones. -/
theorem JudgedSince.record {r : RunResult} (h : JudgedSince cfg start s)
    (hA : LastAccepted env flows s)
    (hr : r.committed = (evaluateCandidate cfg s.acceptedEval r.evaluation).1) :
    ∃ iters, s.runs ++ [r] = start ++ iters ∧ Judged cfg start iters := by
  obtain ⟨iters, hruns, hj⟩ := h
  obtain ⟨accepted, hlast, _, heval⟩ := hA.accepted
  refine ⟨iters ++ [r], ?_, ?_⟩
  · rw [hruns, List.append_assoc]
  · rw [hruns] at hlast
    rw [← heval] at hr
    exact hj.append hlast hr

theorem judgedSince_step (h : Step cfg env flows .ITER s s') (hA : LastAccepted env flows s)
    (hJ : JudgedSince cfg start s) : JudgedSince cfg start s' := by
  cases h with
  | tick clock => exact hJ
  | advance => exact hJ
  | commit clock dbs trimmed r tried _ hc hj => exact hJ.record hA (hc.trans (hj rfl).symm)
  | rollback clock dbs trimmed r tried _ hc hj => exact hJ.record hA (hc.trans hj.symm)

/-! ## Whole runs -/

theorem lastAccepted_baseline {sch : Scheduler} {dbs : Databases} {store : AnalyserStore}
    (h : baseline sch env flows dbs store = .ok s) :
    LastAccepted env flows s ∧ ∃ r, s.runs = [r] ∧ r.committed = true := by
  obtain ⟨dbs', r, _, hid, hc, heval, _, hacc, hacceptedEval, _, _, hruns, _⟩ := baseline_eq_ok h
  refine ⟨⟨⟨r, ?_, ?_, ?_⟩, ?_⟩, r, hruns, hc⟩
  · rw [hruns, lastCommitted, List.filter_cons_of_pos hc]
    rfl
  · rw [hid, hacc]
  · exact hacceptedEval.symm
  · intro x hx
    rw [hruns, List.mem_singleton] at hx
    rw [hx, heval]
    exact ⟨_, rfl⟩

/-- Before the ITER stage one or two runs are recorded, and all of them are committed. -/
theorem safeStage_runs {sch : Scheduler} {r : RunResult} (hruns : s.runs = [r])
    (hc : r.committed = true) (h : safeStage sch env flows s = .ok s') :
    (∀ x ∈ s'.runs, x.committed = true) ∧ (s'.runs.length = 1 ∨ s'.runs.length = 2) := by
  rcases safeStage_cases h with ⟨clock, rfl⟩ | ⟨_, clock, dbs, trimmed, r', _, _, hc', rfl⟩
  · refine ⟨fun x hx => ?_, .inl ?_⟩
    · have hx : x ∈ s.runs := hx
      rw [hruns, List.mem_singleton] at hx
      rw [hx]
      exact hc
    · exact congrArg List.length hruns
  · refine ⟨fun x hx => ?_, .inr ?_⟩
    · have hx : x ∈ s.runs ++ [r'] := hx
      rw [hruns, List.mem_append, List.mem_singleton, List.mem_singleton] at hx
      rcases hx with rfl | rfl
      · exact hc
      · exact hc'
    · show (s.runs ++ [r']).length = 2
      rw [hruns]
      rfl

/-- **Bounded drift.** For every flow set, all functions and all outcomes: the runs before the ITER
stage are all committed; each ITER run was compared with the run committed last before it; the
final run is the run committed last, and its rates exceed those accepted after the SAFE stage by at
most the configured increases times the number of committed ITER runs. -/
theorem drift_bounded (sch : Scheduler) (env : Externals) (dbs : Databases)
    (store : AnalyserStore) (out : Output) (hrun : sch.run env dbs store = .ok out) :
    let start := out.result.runs.take out.safeRuns
    let iters := out.result.runs.drop out.safeRuns
    let k : ℚ := iters.countP (·.committed)
    ∃ flows safe final,
      env.flows = .ok flows ∧
      (∀ r ∈ out.result.runs, ∃ alerts, r.evaluation = evaluateAlerts env.rt flows alerts) ∧
      ((∀ r ∈ start, r.committed = true) ∧ (start.length = 1 ∨ start.length = 2)) ∧
      Judged sch.cfg start iters ∧
      lastCommitted start = some safe ∧
      lastCommitted out.result.runs = some final ∧
      final.runID = out.result.finalRunID ∧
      (0 < final.evaluation.maliciousFlows →
        final.evaluation.missRate ≤
          safe.evaluation.missRate + k * sch.cfg.maxMissRateIncrease) ∧
      (0 < final.evaluation.totalFlows →
        final.evaluation.falsePositiveRate ≤
          safe.evaluation.falsePositiveRate + k * sch.cfg.maxFPRateIncrease) := by
  obtain ⟨flows, dbs₀, store₀, s, safe, final, hflows, _, hbase, hsafe, hiter, rfl⟩ :=
    run_eq_ok hrun
  obtain ⟨hAs, r₀, hr₀, hc₀⟩ := lastAccepted_baseline hbase
  have hAsafe := (safeStage_steps hsafe).invariant (fun _ _ => lastAccepted_step) hAs
  obtain ⟨hAfinal, iters, hruns, hj⟩ := (iterFunctions_steps hiter).invariant
    (I := fun s => LastAccepted env flows s ∧ JudgedSince sch.cfg safe.runs s)
    (fun _ _ hstep hI => ⟨lastAccepted_step hstep hI.1, judgedSince_step hstep hI.1 hI.2⟩)
    ⟨hAsafe, [], (List.append_nil _).symm, fun pre r post h => by simp at h⟩
  have htake : final.runs.take safe.runs.length = safe.runs := by
    rw [hruns, List.take_left]
  have hdrop : final.runs.drop safe.runs.length = iters := by
    rw [hruns, List.drop_left]
  have heval : ∀ r ∈ iters, Evaluates env flows r.evaluation := by
    intro r hr
    apply hAfinal.evaluates
    rw [hruns]
    exact List.mem_append_right _ hr
  obtain ⟨safeRun, hsafeRun, _, _⟩ := hAsafe.accepted
  obtain ⟨finalRun, hfinalRun, hid, _⟩ := hAfinal.accepted
  obtain ⟨bounded, hbounded, hmiss, hfp⟩ := judged_bound hsafeRun heval hj
  have hsame : bounded = finalRun := by
    rw [← hruns, hfinalRun] at hbounded
    exact (Option.some.inj hbounded).symm
  subst hsame
  have hmem : bounded ∈ final.runs := (List.mem_filter.mp (List.mem_of_getLast? hfinalRun)).1
  obtain ⟨hmal, htotal⟩ := (hAfinal.evaluates bounded hmem).denominators
  show ∃ flows safeRun finalRun, _
  rw [htake, hdrop]
  refine ⟨flows, safeRun, bounded, hflows, hAfinal.evaluates, safeStage_runs hr₀ hc₀ hsafe, hj,
    hsafeRun, hfinalRun, hid, ?_, ?_⟩
  · rw [hmal]
    exact hmiss
  · rw [htotal]
    exact hfp

/-- One commit that loses the only detection: the miss rate goes from 0 to 1, which is the one
increase allowed. -/
theorem lone_drift :
    ∃ out safe final,
      Scheduler.run { cfg := lenientConfig, functions := [persistent, persistent] } (lone true)
        .empty { runs := [], trimDecisions := [] } = .ok out ∧
      out.result.runs.map (fun r => r.evaluation.missRate) = [0, 1] ∧
      lastCommitted (out.result.runs.take out.safeRuns) = some safe ∧
      lastCommitted out.result.runs = some final ∧ final.runID = out.result.finalRunID ∧
      (0 < final.evaluation.maliciousFlows →
        final.evaluation.missRate ≤ safe.evaluation.missRate + 1 * 1) := by
  have hrates : ((Scheduler.run { cfg := lenientConfig, functions := [persistent, persistent] }
      (lone true) .empty { runs := [], trimDecisions := [] }).toOption.map fun out =>
        (out.result.runs.map fun r => r.evaluation.missRate,
          (out.result.runs.drop out.safeRuns).countP (·.committed))) = some ([0, 1], 1) := by
    decide +kernel
  obtain ⟨out, hout, hrates⟩ := Option.map_eq_some_iff.mp hrates
  obtain ⟨hrates, hcount⟩ := Prod.mk.inj hrates
  have hrun := eq_ok_of_toOption hout
  obtain ⟨_, safe, final, _, _, _, _, hsafe, hfinal, hid, hmiss, _⟩ :=
    drift_bounded _ _ _ _ out hrun
  refine ⟨out, safe, final, hrun, hrates, hsafe, hfinal, hid, ?_⟩
  rw [hcount, Nat.cast_one] at hmiss
  exact hmiss

end SnortOptimizer.Analyser
