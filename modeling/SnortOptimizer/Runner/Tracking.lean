import SnortOptimizer.Runner.Basic

/-!
# Which runs the runner still refers to

Two questions about `Runner` over every interleaving of its callers with the exits of its children.

* **Is a live child always tracked?** `clearStopped` forgets whatever run the runner refers to at
  that moment, which need not be the run its `Stop` took a snapshot of. `tracked_iff_clear_guarded`
  says that this is the only way to lose a child: a schedule keeps every live child tracked exactly
  when each `clearStopped` happens while no child is alive.
* **Has a runner that reports `Running = false` finished its run?** `waitForExit` clears the flag
  before it drains the tailer, imports the profile and deletes the alert file, so only a
  configuration that leaves `waitForExit` nothing to do can answer yes
  (`runFinished_iff_no_exit_work`).
-/

namespace SnortOptimizer.Runner

variable {cfg : Config} {s s' : State}

/-! ## What one step can do

Only `Start` creates a child, only `reap` and `clear` make the runner forget one, and nothing else
touches the process, the tailer or the first stage of a start. Every invariant below is read off
this inversion. -/

/-- A step that changes neither what the runner refers to nor which children exist: each child
keeps its process, and no child goes back to an earlier state. -/
structure Quiet (s s' : State) : Prop where
  cmd : s'.cmd = s.cmd
  running : s'.runInfo.running = s.runInfo.running
  alive : ∀ n, (s'.child n).alive = true → (s.child n).alive = true
  waiting : ∀ n, (s'.child n).stage = .waiting ↔ (s.child n).stage = .waiting
  tailer : ∀ n, (s'.child n).tailer = .running → (s.child n).tailer = .running

theorem Quiet.refl (s : State) : Quiet s s :=
  ⟨rfl, rfl, fun _ h => h, fun _ => Iff.rfl, fun _ h => h⟩

theorem Quiet.trans {s t u : State} (h : Quiet s t) (h' : Quiet t u) : Quiet s u where
  cmd := h'.cmd.trans h.cmd
  running := h'.running.trans h.running
  alive n hn := h.alive n (h'.alive n hn)
  waiting n := (h'.waiting n).trans (h.waiting n)
  tailer n hn := h.tailer n (h'.tailer n hn)

/-- Moving a caller is quiet. -/
theorem quiet_setCaller (s : State) (c : Nat) (p : Caller) : Quiet s (s.setCaller c p) :=
  ⟨rfl, rfl, fun _ h => h, fun _ => Iff.rfl, fun _ h => h⟩

/-- Replacing one child by one that is no more alive, waits as before and tails no more is quiet. -/
theorem quiet_setChild (s : State) (n : Nat) (k : Child)
    (halive : k.alive = true → (s.child n).alive = true)
    (hwait : k.stage = .waiting ↔ (s.child n).stage = .waiting)
    (htail : k.tailer = .running → (s.child n).tailer = .running) : Quiet s (s.setChild n k) := by
  refine ⟨rfl, rfl, fun m hm => ?_, fun m => ?_, fun m hm => ?_⟩ <;>
    by_cases hmn : m = n <;> simp_all [State.setChild]

theorem quiet_setStage (s : State) (n : Nat) (g : ExitStage)
    (hwait : g = .waiting ↔ (s.child n).stage = .waiting) : Quiet s (s.setStage n g) :=
  quiet_setChild s n _ id hwait id

theorem quiet_cancelTailer (s : State) : ∀ h, Quiet s (s.cancelTailer h)
  | none => Quiet.refl s
  | some k => quiet_setChild s k _ id Iff.rfl id

theorem quiet_cancelMonitor (s : State) : ∀ h, Quiet s (s.cancelMonitor h)
  | none => Quiet.refl s
  | some k => quiet_setChild s k _ id Iff.rfl id

/-- Draining is quiet: `waitForExit` past its first locked section only touches its own record. -/
theorem quiet_drain {n : Nat} (h : s.drain n = some s') : Quiet s s' := by
  unfold State.drain at h
  split at h
  · next hg =>
      cases h
      refine (quiet_cancelTailer s _).trans (quiet_setStage _ n _ ?_)
      rw [(quiet_cancelTailer s _).waiting n, hg]
      simp
  · next hg =>
      split at h
      · cases h
        exact quiet_setStage s n _ (by simp [hg])
      · cases h
  · next hg =>
      cases h
      refine (quiet_cancelMonitor s _).trans (quiet_setStage _ n _ ?_)
      rw [(quiet_cancelMonitor s _).waiting n, hg]
      simp
  · next hg =>
      split at h
      · cases h
        exact quiet_setStage s n _ (by simp [hg])
      · cases h
  · next hg => cases h; exact quiet_setStage s n _ (by simp [hg])
  · next hg => cases h; exact quiet_setStage s n _ (by simp [hg])
  · next hg => cases h; exact quiet_setChild s n _ id (by simp [hg]) id
  · next hg =>
      -- `waitDone` may be cleared here, which no field of `Quiet` mentions
      have hq : Quiet s (s.setStage n .finished) := quiet_setStage s n _ (by simp [hg])
      simp only [Option.some.injEq] at h
      subst h
      split
      · exact ⟨hq.cmd, hq.running, hq.alive, hq.waiting, hq.tailer⟩
      · exact hq
  · next hg => cases h; exact quiet_setChild s n _ id (by simp [hg]) id
  · cases h
  · cases h

/-- **Inversion of one step.** Up to a caller's own position, a step launches a child, reaps an
exited one, clears the runner, or is quiet. -/
theorem step_cases {a : Action} (h : step cfg s a = some s') :
    (∃ c p, a = .start c true ∧ s.runInfo.running = false ∧ s' = (s.launch cfg).setCaller c p) ∨
    (∃ n, a = .reap n ∧ (s.child n).stage = .waiting ∧ (s.child n).alive = false ∧
      s' = s.reap n) ∨
    (∃ c p, a = .clear c ∧ s' = s.clearStopped.setCaller c p) ∨
    ((∀ c, a ≠ .clear c) ∧ Quiet s s') := by
  cases a with
  | start c ok =>
      simp only [step] at h
      split at h
      case h_3 => cases h
      all_goals
        simp only [Option.some.injEq] at h
        unfold State.start at h
        split at h
        · subst h
          exact .inr (.inr (.inr ⟨by simp, quiet_setCaller s c _⟩))
        · next hrun =>
            cases ok with
            | true => exact .inl ⟨c, _, rfl, by simpa using hrun, h.symm⟩
            | false =>
                subst h
                exact .inr (.inr (.inr ⟨by simp, quiet_setCaller s c _⟩))
  | clear c =>
      simp only [step] at h
      split at h
      · exact .inr (.inr (.inl ⟨c, _, rfl, (Option.some.inj h).symm⟩))
      · cases h
  | reap n =>
      simp only [step] at h
      split at h
      · next hn => exact .inr (.inl ⟨n, rfl, hn.1, hn.2, (Option.some.inj h).symm⟩)
      · cases h
  | exit n =>
      simp only [step] at h
      split at h
      · cases h
        exact .inr (.inr (.inr ⟨by simp, quiet_setChild s n _ (by simp) Iff.rfl id⟩))
      · cases h
  | drain n => exact .inr (.inr (.inr ⟨by simp, quiet_drain h⟩))
  | tailReturns n | monitorReturns n =>
      simp only [step] at h
      split at h
      · cases h
        exact .inr (.inr (.inr ⟨by simp, quiet_setChild s n _ id Iff.rfl (by simp)⟩))
      · cases h
  | stop c _ | signal c _ | awaitDone c | wait c | waitReturns c | waitCancelled c =>
      -- these only move the caller on, whichever branch they take
      simp only [step] at h
      repeat' split at h
      all_goals first
        | cases h; done
        | (simp only [Option.some.injEq] at h
           subst h
           exact .inr (.inr (.inr ⟨by simp, quiet_setCaller s c _⟩)))

/-! ## Live children are tracked

`Tracked` is about the process; `Unforgotten` is about the whole start, and also covers the moment
between the exit of the process and the first locked section of its `waitForExit` — the section
that finds `r.cmd == cmd` and goes on to drain and import only if the runner still refers to it. -/

/-- Every live child is the runner's current command, and the runner reports it as running. -/
def Tracked (s : State) : Prop :=
  ∀ n, (s.child n).alive = true → s.cmd = some n ∧ s.runInfo.running = true

/-- Every start whose exit has not been handled yet is the runner's current one, so a `Stop` will
signal it and its `waitForExit` will take the importing branch. -/
def Unforgotten (s : State) : Prop :=
  ∀ n, (s.child n).stage = .waiting → s.cmd = some n ∧ s.runInfo.running = true

/-- `clearStopped` happens only while no child is alive. -/
def ClearsNoLiveChild (s : State) : Action → Prop
  | .clear _ => ∀ n, (s.child n).alive = false
  | _ => True

/-- `clearStopped` happens only when every exit has been handled. -/
def ClearsNoOpenStart (s : State) : Action → Prop
  | .clear _ => ∀ n, (s.child n).stage ≠ .waiting
  | _ => True

theorem launch_child (cfg : Config) (s : State) (n : Nat) :
    (s.launch cfg).child n = if n = s.started then Child.launched cfg else s.child n := by
  simp [State.launch, Function.update_apply]

theorem reap_alive (s : State) (n m : Nat) :
    ((s.reap n).child m).alive = (s.child m).alive := by
  unfold State.reap
  split <;> by_cases h : m = n <;> simp [State.setChild, h]

theorem reap_tailer (s : State) (n m : Nat) :
    ((s.reap n).child m).tailer = (s.child m).tailer := by
  unfold State.reap
  split <;> by_cases h : m = n <;> simp [State.setChild, h]

theorem reap_waiting {n m : Nat} (h : ((s.reap n).child m).stage = .waiting) :
    m ≠ n ∧ (s.child m).stage = .waiting := by
  unfold State.reap at h
  split at h <;> by_cases hmn : m = n <;> simp_all [State.setChild]

/-- Reaping `n` does not disturb a run other than `n`. -/
theorem reap_keeps {n m : Nat} (hne : m ≠ n) (h : s.cmd = some m ∧ s.runInfo.running = true) :
    (s.reap n).cmd = some m ∧ (s.reap n).runInfo.running = true := by
  have hcmd : s.cmd ≠ some n := by
    rw [h.1]
    simpa using hne
  simpa [State.reap, State.setChild, hcmd] using h

/-- Some Snort child of the runner is alive. -/
def Live (s : State) : Prop := ∃ n, (s.child n).alive = true

/-- Only a `Start` that goes through makes a runner live. -/
theorem live_of_step {a : Action} (h : step cfg s a = some s') (hl : Live s') :
    Live s ∨ ∃ c, a = .start c true ∧ s.runInfo.running = false := by
  obtain ⟨n, hn⟩ := hl
  rcases step_cases h with ⟨c, p, rfl, hrun, -⟩ | ⟨m, -, -, -, rfl⟩ | ⟨c, p, -, rfl⟩ | ⟨-, hq⟩
  · exact .inr ⟨c, rfl, hrun⟩
  · exact .inl ⟨n, (reap_alive s m n).symm.trans hn⟩
  · exact .inl ⟨n, hn⟩
  · exact .inl ⟨n, hq.alive n hn⟩

/-- A `Start` that goes through leaves the runner live. -/
theorem live_of_start {c : Nat} (h : step cfg s (.start c true) = some s')
    (hrun : s.runInfo.running = false) : Live s' := by
  refine ⟨s.started, ?_⟩
  simp only [step] at h
  split at h
  case h_3 => cases h
  all_goals
    simp only [Option.some.injEq, State.start, hrun] at h
    subst h
    show ((s.launch cfg).child s.started).alive = true
    rw [launch_child, if_pos rfl]
    rfl

/-- **One step and what the runner refers to.** Let `W` pick out children to be watched, such that
only a launch makes a child watched and a reaped one no longer is. A step keeps every watched child
the runner's current one exactly when it does not clear the runner under one. -/
theorem watched_step {W : Child → Prop} {a : Action}
    (hreap : ∀ n m, (s.child n).alive = false → W ((s.reap n).child m) →
      m ≠ n ∧ W (s.child m))
    (hquiet : ∀ s', Quiet s s' → ∀ n, W (s'.child n) → W (s.child n))
    (hP : ∀ n, W (s.child n) → s.cmd = some n ∧ s.runInfo.running = true)
    (h : step cfg s a = some s') :
    (∀ n, W (s'.child n) → s'.cmd = some n ∧ s'.runInfo.running = true) ↔
      ∀ c, a = .clear c → ∀ n, ¬ W (s.child n) := by
  rcases step_cases h with ⟨c, p, rfl, hrun, rfl⟩ | ⟨n, rfl, -, hdead, rfl⟩ | ⟨c, p, rfl, rfl⟩ |
    ⟨hne, hq⟩
  · refine ⟨fun _ _ hc => Action.noConfusion hc, fun _ m hm => ?_⟩
    rw [show ((s.launch cfg).setCaller c p).child m = (s.launch cfg).child m from rfl,
      launch_child] at hm
    split at hm
    · next hms => exact ⟨congrArg some hms.symm, rfl⟩
    · -- an older watched child would have been reported as running
      have := (hP m hm).2
      simp [hrun] at this
  · refine ⟨fun _ _ hc => Action.noConfusion hc, fun _ m hm => ?_⟩
    obtain ⟨hne, hm'⟩ := hreap n m hdead hm
    exact reap_keeps hne (hP m hm')
  · -- `clearStopped` sets `cmd` to nil whatever it refers to
    constructor
    · intro hT _ _ n hn
      have := (hT n hn).1
      cases this
    · intro hG m hm
      exact absurd hm (hG c rfl m)
  · refine ⟨fun _ c hc => absurd hc (hne c), fun _ n hn => ?_⟩
    rw [hq.cmd, hq.running]
    exact hP n (hquiet s' hq n hn)

/-- One step keeps every live child tracked exactly when it does not clear a live one. -/
theorem tracked_step {a : Action} (hP : Tracked s) (h : step cfg s a = some s') :
    Tracked s' ↔ ClearsNoLiveChild s a := by
  refine (watched_step (W := fun k => k.alive = true) ?_ ?_ hP h).trans ?_
  · intro n m hdead hm
    rw [reap_alive] at hm
    refine ⟨?_, hm⟩
    rintro rfl
    simp [hdead] at hm
  · exact fun _ hq n hn => hq.alive n hn
  · cases a <;> simp [ClearsNoLiveChild]

/-- One step keeps every open start tracked exactly when it does not clear an open one. -/
theorem unforgotten_step {a : Action} (hP : Unforgotten s) (h : step cfg s a = some s') :
    Unforgotten s' ↔ ClearsNoOpenStart s a := by
  refine (watched_step (W := fun k => k.stage = .waiting) ?_ ?_ hP h).trans ?_
  · exact fun _ _ _ hm => reap_waiting hm
  · exact fun _ hq n hn => (hq.waiting n).mp hn
  · cases a <;> simp [ClearsNoOpenStart]

/-- **A live child stays tracked exactly as long as `clearStopped` spares it.** Over every schedule
of any number of callers: every live child is tracked in every state iff every `clearStopped` is
reached while no child is alive, and every start is tracked until its exit has been handled iff
every `clearStopped` is reached when all exits have been handled. -/
theorem tracked_iff_clear_guarded (cfg : Config) (acts : List Action) :
    ((machine cfg).Always Tracked State.new acts ↔
      (machine cfg).Guarded ClearsNoLiveChild State.new acts) ∧
    ((machine cfg).Always Unforgotten State.new acts ↔
      (machine cfg).Guarded ClearsNoOpenStart State.new acts) := by
  constructor
  · refine Machine.always_iff_guarded (I := fun _ => True) (fun _ _ _ _ _ => trivial)
      (fun s a s' _ hP h => tracked_step hP h) trivial ?_
    intro n hn
    cases hn
  · refine Machine.always_iff_guarded (I := fun _ => True) (fun _ _ _ _ _ => trivial)
      (fun s a s' _ hP h => unforgotten_step hP h) trivial ?_
    intro n hn
    cases hn

/-- Two callers and three steps of the second are enough to lose a live child: a `Stop` finds
nothing to stop, a `Start` launches Snort, and the `clearStopped` of that `Stop` forgets it. -/
theorem live_child_forgotten :
    ∃ s, (machine ⟨true, true, false⟩).exec State.new [.stop 0 false, .start 1 true, .clear 0] =
        some s ∧
      (s.child 0).alive = true ∧ s.cmd = none ∧ s.runInfo.running = false ∧ ¬ Tracked s := by
  refine ⟨_, rfl, rfl, rfl, rfl, fun hT => ?_⟩
  have := (hT 0 rfl).1
  cases this

/-! ## A stopped runner may still be finishing its run -/

/-- Something of this start is still to be executed: its alert tailer, its profiler import or its
alert-file cleanup. -/
def Unfinished (cfg : Config) (k : Child) : Prop :=
  k.tailer = .running ∨ (cfg.needProfiler = true ∧ k.stage.beforeImport = true) ∨
    (cfg.noClean = false ∧ k.stage.beforeCleanup = true)

/-- A runner that reports `Running = false` has finished every run it started. -/
def RunFinished (cfg : Config) (s : State) : Prop :=
  s.runInfo.running = false → ∀ n, ¬ Unfinished cfg (s.child n)

/-- Without `NeedAlert` no start ever has a tailer. -/
theorem no_tailer_of_no_alerts (ha : cfg.needAlert = false) (hr : (machine cfg).Reachable s) :
    ∀ n, (s.child n).tailer ≠ .running := by
  refine hr.invariant (I := fun s => ∀ n, (s.child n).tailer ≠ .running)
    (fun n => by simp [machine, State.new, Child.unstarted]) ?_
  intro s a s' hI h n
  rcases step_cases h with ⟨c, p, -, -, rfl⟩ | ⟨m, -, -, -, rfl⟩ | ⟨c, p, -, rfl⟩ | ⟨-, hq⟩
  · rw [show ((s.launch cfg).setCaller c p).child n = (s.launch cfg).child n from rfl,
      launch_child]
    split
    · simp [Child.launched, ha]
    · exact hI n
  · rw [reap_tailer]
    exact hI n
  · exact hI n
  · exact fun ht => hI n (hq.tailer n ht)

/-- **Only a configuration without exit work is finished when it says so.** `Running = false`
implies that nothing of an earlier start is pending, in every reachable state, exactly when the
configuration asks for no alerts and no profile and keeps the alert file. -/
theorem runFinished_iff_no_exit_work (cfg : Config) :
    (∀ s, (machine cfg).Reachable s → RunFinished cfg s) ↔
      cfg.needAlert = false ∧ cfg.needProfiler = false ∧ cfg.noClean = true := by
  constructor
  · intro hall
    -- the state right after the first locked section of `waitForExit`
    have hfin := hall _ ⟨[.start 0 true, .exit 0, .reap 0], rfl⟩ rfl 0
    simp only [Unfinished, not_or, not_and] at hfin
    obtain ⟨ht, hp, hc⟩ := hfin
    refine ⟨?_, ?_, ?_⟩
    · by_contra hna
      have htail : (Child.launched cfg).tailer = .running := by simp [Child.launched, hna]
      exact ht htail
    · by_contra hnp
      exact hp (by simpa using hnp) rfl
    · by_contra hnc
      exact hc (by simpa using hnc) rfl
  · rintro ⟨ha, hp, hc⟩ s hr - n hU
    rcases hU with ht | ⟨hp', -⟩ | ⟨hc', -⟩
    · exact no_tailer_of_no_alerts ha hr n ht
    · simp [hp] at hp'
    · simp [hc] at hc'

/-- A child that exits by itself leaves the runner at `Running = false` with tailer, import and
cleanup all ahead, and a new `Start` is accepted right then: the cleanup of the first start will
delete the alert file of the second. -/
theorem start_overlaps_unfinished_run :
    ∃ s s', (machine ⟨true, true, false⟩).exec State.new
        [.start 0 true, .exit 0, .reap 0] = some s ∧
      s.runInfo.running = false ∧ (s.child 0).tailer = .running ∧
      (s.child 0).stage.beforeImport = true ∧ ¬ RunFinished ⟨true, true, false⟩ s ∧
      step ⟨true, true, false⟩ s (.start 0 true) = some s' ∧
      (s'.child 1).alive = true ∧ (s'.child 0).stage.beforeCleanup = true := by
  refine ⟨_, _, rfl, rfl, rfl, rfl, fun hF => ?_, rfl, rfl, rfl⟩
  exact hF rfl 0 (.inl rfl)

end SnortOptimizer.Runner
