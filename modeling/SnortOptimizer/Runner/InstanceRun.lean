import SnortOptimizer.Runner.SystemProfile

/-!
# One run of a Snort instance (`analyser/scheduler/instances.go`)

`snortInstance.run` makes a runner of its own, starts it, waits for it and, only if waiting fails,
stops it. Nobody else uses that runner. It still runs in parallel with the goroutines of the start:
the child may exit before `Start` has returned or much later, `Wait` may read `waitDone` before it
is closed, after that, or when it is nil again, and the tailer and the monitor tick as they like.

The run is the machine of the runner and its monitor, driven by this one client. It also keeps the
books of the work that `waitForExit` and the tailer do for the store. Where `Wait` has returned nil,
all of it is done (`Sound.complete`) and nothing is written any more (`Sound.tables_step`).
-/

namespace SnortOptimizer.Runner

/-! ## The client -/

/-- Where `snortInstance.run` stands. -/
inductive Phase where
  | starting      -- `r.Start()` is next
  | started       -- `r.Wait(ctx)` is next
  | waiting       -- `Wait` has read a channel
  | stopping      -- `Wait` has failed, the rest is `r.Stop()`
  | returned      -- with a result: `Wait` has returned nil
  | failed        -- with an error
  deriving DecidableEq, Repr

/-- What the client does next, or `none` where this is not a call it makes. The goroutines of the
runner go on without it. `s` and `s'` are the states before and after. -/
def Phase.after (s s' : State) : Phase → Action → Option Phase
  | p, .exit _ | p, .reap _ | p, .drain _ | p, .tailReturns _ | p, .monitorReturns _ => some p
  | .starting, .start 0 ok =>
      some (if ok = true ∧ s.runInfo.running = false then .started else .failed)
  | .started, .wait 0 => some (if s'.caller 0 = .idle then .returned else .waiting)
  | .waiting, .waitReturns 0 => some .returned
  | .waiting, .waitCancelled 0 => some .stopping
  | .stopping, .stop 0 false | .stopping, .awaitDone 0 => some .stopping
  | .stopping, .signal 0 ok => some (if ok then .stopping else .failed)
  | .stopping, .clear 0 => some .failed
  | _, _ => none

/-- `run` has returned. -/
def Phase.over : Phase → Bool
  | .returned | .failed => true
  | _ => false

/-! ## The work of a run -/

/-- What has become of the system profile that `waitForExit` received. -/
inductive Insertion where
  | unread        -- the monitor sent an error
  | empty         -- it sent no samples
  | stored
  | refused       -- `InsertSystemProfile` failed
  deriving DecidableEq, Repr

/-- How the work of a run has turned out so far; `none` is what has not been done. -/
structure Work where
  reads : List Bool                -- the calls of `readAvailable`, and which of them succeeded
  profile : Option Insertion
  imported : Option Bool
  cleaned : Option Bool
  deriving DecidableEq, Repr

def Work.none : Work := { reads := [], profile := .none, imported := .none, cleaned := .none }

/-- How an action turns out: the time at which a profile is stored, whether the profiler import or
the cleanup succeeds, and whether the tailer reads anything, successfully or not. -/
structure Outcome where
  stored : Option String
  ok : Bool
  read : Option Bool

section Machine

variable {F : Type} [Zero F] [Add F] [Sub F] [Mul F] [Div F] [LE F] [LT F] [DecidableLE F]
  [DecidableLT F] [NatCast F] (cfg : Config) (runID : Int) (seconds : Int → F)

def ProfiledState.insertion (p : ProfiledState F) (n : Nat) (stored : Option String) :
    Option Insertion :=
  ((p.runner.child n).captured.systemDone.bind p.result).map fun result =>
    if result.err ≠ none then .unread
    else if result.profile.samples = 0 then .empty
    else if stored.isSome then .stored else .refused

/-- The work that is part of an action of the runner. A tailer that is told to stop reads once
more if it has a file. -/
def Work.after (w : Work) (p : ProfiledState F) (out : Outcome) : Action → Work
  | .tailReturns _ => { w with reads := w.reads ++ out.read.toList }
  | .drain n =>
      match (p.runner.child n).stage with
      | .joinSystem => { w with profile := p.insertion n out.stored }
      | .importProfiler => if cfg.needProfiler then { w with imported := some out.ok } else w
      | .cleanup => if cfg.noClean then w else { w with cleaned := some out.ok }
      | _ => w
  | _ => w

structure InstanceState (F : Type) where
  snort : ProfiledState F
  phase : Phase
  work : Work

/-- An action of the client or of a goroutine of the runner, or a tick of one of the helpers. -/
inductive InstanceAction (F : Type) where
  | run (a : Action) (out : Outcome)
  | profilerTick (t : Tick F)
  | tailerTick (read : Option Bool)

/-- `snortInstance.run` with a new runner. -/
def instanceMachine : Machine (InstanceState F) (InstanceAction F) where
  init :=
    { snort := (profiledMachine cfg runID seconds).init, phase := .starting, work := Work.none }
  step s
    | .run a out =>
        ((profiledMachine cfg runID seconds).step s.snort (.run a out.stored)).bind fun snort =>
          (s.phase.after s.snort.runner snort.runner a).map fun phase =>
            { snort, phase, work := s.work.after cfg s.snort out a }
    | .profilerTick t =>
        ((profiledMachine cfg runID seconds).step s.snort (.tick 0 t)).map fun snort =>
          { s with snort }
    | .tailerTick read =>
        if (s.snort.runner.child 0).tailer = .running then
          some { s with work := { s.work with reads := s.work.reads ++ read.toList } }
        else none

/-- What the run has left in its tables and files. -/
def InstanceState.tables (s : InstanceState F) : List (SystemProfile F) × Work :=
  (s.snort.rowsOf 0, s.work)

/-- **The run is complete**: both helpers have returned, and the system profile, the profiler import
and the cleanup of the alert file have been dealt with, successfully or not. -/
structure Complete (cfg : Config) (s : InstanceState F) : Prop where
  tailer : (s.snort.runner.child 0).tailer = if cfg.needAlert then .returned else .absent
  monitor : (s.snort.runner.child 0).monitor ≠ .running
  profile : cfg.needProfiler = true → s.work.profile.isSome = true
  imported : cfg.needProfiler = true → s.work.imported.isSome = true
  cleaned : cfg.noClean = false → s.work.cleaned.isSome = true

end Machine

/-! ## What the runner does for one client -/

/-- The statements of `waitForExit` in the order it executes them, where it finds its command. -/
def ExitStage.rank : ExitStage → Nat
  | .waiting => 0
  | .stopAlerts => 1
  | .joinAlerts => 2
  | .stopSystem => 3
  | .joinSystem => 4
  | .importProfiler => 5
  | .cleanup => 6
  | .closeDone => 7
  | .clearWaitDone => 8
  | .finished | .closeUntracked => 9

/-- The statement `g` has been executed. -/
def ExitStage.Past (stage g : ExitStage) : Prop := g.rank < stage.rank

instance exitStagePastDecidable (stage g : ExitStage) : Decidable (stage.Past g) :=
  inferInstanceAs (Decidable (_ < _))

theorem ExitStage.past_of_next {stage stage' g : ExitStage} (h : stage.next = some stage')
    (hne : stage ≠ .closeUntracked) (hpast : stage'.Past g) : stage.Past g ∨ stage = g := by
  cases stage <;> cases h <;> cases g <;> first | decide +revert | contradiction

theorem ExitStage.past_next {stage stage' g : ExitStage} (h : stage.next = some stage')
    (hpast : stage.Past g) : stage'.Past g := by
  cases stage <;> cases h <;> cases g <;> revert hpast <;> decide

variable {cfg : Config} {s s' : State}

/-- The tailer of a start, once it has been waited for. -/
def Config.joinedTailer (cfg : Config) : Goroutine := if cfg.needAlert then .returned else .absent

/-- The channel of the tailer of the first start. -/
def Config.alertChannel (cfg : Config) : Option Nat := if cfg.needAlert then some 0 else none

/-- **The only start of a runner is followed to its end**: the runner refers to it until its exit is
handled, `waitForExit` waits for its tailer, and `waitDone` is there until it is closed and the work
is done. -/
structure Followed (cfg : Config) (s : State) : Prop where
  started : s.started = 1
  held : (s.child 0).stage = .waiting → s.cmd = some 0 ∧ s.helpers.alertDone = cfg.alertChannel
  tracked : (s.child 0).stage ≠ .closeUntracked
  waitDone : s.waitDone = if (s.child 0).stage = .finished then none else some 0
  closed : (s.child 0).doneClosed = true → (s.child 0).stage.Past .closeDone
  taken : (s.child 0).stage.Past .waiting → (s.child 0).captured.alertDone = cfg.alertChannel
  joined : (s.child 0).stage.Past .joinAlerts → (s.child 0).tailer = cfg.joinedTailer
  unused : cfg.needAlert = false → (s.child 0).tailer = .absent
  alone : ∀ n, n ≠ 0 → (s.child n).tailer ≠ .running

theorem followed_launch (c : Nat) (p : Caller) :
    Followed cfg ((State.new.launch cfg).setCaller c p) := by
  have hchild : ((State.new.launch cfg).setCaller c p).child 0 = Child.launched cfg :=
    launch_child cfg State.new 0
  have hstage : (((State.new.launch cfg).setCaller c p).child 0).stage = .waiting := by
    rw [hchild]
    rfl
  constructor
  · rfl
  · exact fun _ => ⟨rfl, rfl⟩
  · simp [hstage]
  · rw [hstage]
    rfl
  · simp [hchild, Child.launched]
  · rw [hstage]
    exact fun h => absurd h (by decide)
  · rw [hstage]
    exact fun h => absurd h (by decide)
  · intro hneed
    simp [hchild, Child.launched, hneed]
  · intro n hn
    have hother : ((State.new.launch cfg).setCaller c p).child n = Child.unstarted :=
      (launch_child cfg State.new n).trans (if_neg hn)
    simp [hother, Child.unstarted]

theorem Followed.setCaller (h : Followed cfg s) (c : Nat) (p : Caller) :
    Followed cfg (s.setCaller c p) :=
  ⟨h.started, h.held, h.tracked, h.waitDone, h.closed, h.taken, h.joined, h.unused, h.alone⟩

/-- A process may end and a helper return at any time. -/
theorem Followed.setChild (h : Followed cfg s) {n : Nat} {k : Child}
    (hstage : k.stage = (s.child n).stage) (hcaptured : k.captured = (s.child n).captured)
    (hclosed : k.doneClosed = (s.child n).doneClosed)
    (htailer : k.tailer = (s.child n).tailer ∨
      ((s.child n).tailer = .running ∧ k.tailer = .returned)) : Followed cfg (s.setChild n k) := by
  by_cases hn : n = 0
  · subst hn
    have hchild : (s.setChild 0 k).child 0 = k := by simp [State.setChild]
    have hrunning : (s.child 0).tailer = .running → cfg.needAlert = true := by
      intro hr
      by_contra hneed
      rw [h.unused (by simpa using hneed)] at hr
      cases hr
    refine ⟨h.started, ?_, ?_, ?_, ?_, ?_, ?_, ?_, ?_⟩
    · rw [hchild, hstage]
      exact h.held
    · rw [hchild, hstage]
      exact h.tracked
    · rw [hchild, hstage]
      exact h.waitDone
    · rw [hchild, hstage, hclosed]
      exact h.closed
    · rw [hchild, hstage, hcaptured]
      exact h.taken
    · rw [hchild, hstage]
      intro hpast
      rcases htailer with hsame | ⟨hr, hret⟩
      · rw [hsame, h.joined hpast]
      · rw [hret, Config.joinedTailer, if_pos (hrunning hr)]
    · rw [hchild]
      intro hneed
      rcases htailer with hsame | ⟨hr, -⟩
      · rw [hsame, h.unused hneed]
      · simp [hrunning hr] at hneed
    · intro n hn
      have hother : (s.setChild 0 k).child n = s.child n := Function.update_of_ne hn ..
      rw [hother]
      exact h.alone n hn
  · have hchild : (s.setChild n k).child 0 = s.child 0 := Function.update_of_ne (Ne.symm hn) ..
    have halone : ∀ m, m ≠ 0 → ((s.setChild n k).child m).tailer ≠ .running := by
      intro m hm
      by_cases hmn : m = n
      · subst hmn
        rcases htailer with hsame | ⟨-, hret⟩
        · simpa [State.setChild, hsame] using h.alone m hm
        · simp [State.setChild, hret]
      · simpa [State.setChild, hmn] using h.alone m hm
    refine ⟨h.started, ?_, ?_, ?_, ?_, ?_, ?_, ?_, halone⟩
    all_goals rw [hchild]
    · exact h.held
    · exact h.tracked
    · exact h.waitDone
    · exact h.closed
    · exact h.taken
    · exact h.joined
    · exact h.unused

/-- The exit of the child finds the runner referring to it. -/
theorem Followed.reap (h : Followed cfg s) (hstage : (s.child 0).stage = .waiting) :
    Followed cfg (s.reap 0) := by
  obtain ⟨hcmd, hdone⟩ := h.held hstage
  have hstage' := ((reap_child s 0 0).2.2.1 hcmd).1
  have hcaptured := ((reap_child s 0 0).2.2.1 hcmd).2
  have hclosed : ((s.reap 0).child 0).doneClosed = (s.child 0).doneClosed := by
    simp [State.reap, hcmd]
  have hwait : (s.reap 0).waitDone = s.waitDone := by simp [State.reap, hcmd]
  have hstarted : (s.reap 0).started = s.started := by simp [State.reap, hcmd]
  refine ⟨hstarted.trans h.started, ?_, ?_, ?_, ?_, ?_, ?_, ?_, ?_⟩
  · simp [hstage']
  · simp [hstage']
  · rw [hwait, h.waitDone, hstage, hstage']
    rfl
  · intro hc
    rw [hclosed] at hc
    have hpast := h.closed hc
    rw [hstage] at hpast
    exact absurd hpast (by decide)
  · rw [hcaptured]
    exact fun _ => hdone
  · rw [hstage']
    exact fun hpast => absurd hpast (by decide)
  · rw [reap_tailer]
    exact h.unused
  · intro n
    rw [reap_tailer]
    exact h.alone n

/-- Neither a tailer nor a `waitDone` is different. -/
structure SameDone (s s' : State) : Prop where
  tailer : ∀ m, (s'.child m).tailer = (s.child m).tailer
  closed : ∀ m, (s'.child m).doneClosed = (s.child m).doneClosed
  waitDone : s'.waitDone = s.waitDone

theorem SameDone.trans {t : State} (h : SameDone s t) (h' : SameDone t s') : SameDone s s' where
  tailer m := (h'.tailer m).trans (h.tailer m)
  closed m := (h'.closed m).trans (h.closed m)
  waitDone := h'.waitDone.trans h.waitDone

theorem sameDone_setChild (s : State) (n : Nat) {k : Child}
    (htailer : k.tailer = (s.child n).tailer) (hclosed : k.doneClosed = (s.child n).doneClosed) :
    SameDone s (s.setChild n k) := by
  refine ⟨fun m => ?_, fun m => ?_, rfl⟩ <;> by_cases hm : m = n <;>
    simp [State.setChild, hm, htailer, hclosed]

theorem sameDone_cancel (s : State) (k : Option Nat) :
    SameDone s (s.cancelTailer k) ∧ SameDone s (s.cancelMonitor k) := by
  cases k with
  | none => exact ⟨⟨fun _ => rfl, fun _ => rfl, rfl⟩, ⟨fun _ => rfl, fun _ => rfl, rfl⟩⟩
  | some k => exact ⟨sameDone_setChild s k rfl rfl, sameDone_setChild s k rfl rfl⟩

/-- **Inversion of a statement of `waitForExit`**, as far as tailers and `waitDone` go. -/
theorem drain_done {n : Nat} (h : s.drain n = some s') :
    ((s.child n).stage ≠ .closeDone ∧ (s.child n).stage ≠ .clearWaitDone ∧ SameDone s s' ∧
      ((s.child n).stage = .joinAlerts →
        s.tailerJoined (s.child n).captured.alertDone = true)) ∨
    ((s.child n).stage = .closeDone ∧ s'.waitDone = s.waitDone ∧
      ∀ m, (s'.child m).tailer = (s.child m).tailer) ∨
    ((s.child n).stage = .clearWaitDone ∧
      s'.waitDone = (if s.waitDone = some n then none else s.waitDone) ∧
      ∀ m, (s'.child m).tailer = (s.child m).tailer) ∨
    (s.child n).stage = .closeUntracked := by
  have hmove : ∀ g, SameDone s (s.setStage n g) := fun g => sameDone_setChild s n rfl rfl
  unfold State.drain at h
  split at h
  · next hg =>
      cases h
      left
      exact ⟨by simp [hg], by simp [hg],
        (sameDone_cancel s _).1.trans (sameDone_setChild _ n rfl rfl), by simp [hg]⟩
  · next hg =>
      split at h
      · next hjoined =>
          cases h
          exact .inl ⟨by simp [hg], by simp [hg], hmove _, fun _ => hjoined⟩
      · cases h
  · next hg =>
      cases h
      left
      exact ⟨by simp [hg], by simp [hg],
        (sameDone_cancel s _).2.trans (sameDone_setChild _ n rfl rfl), by simp [hg]⟩
  · next hg =>
      split at h
      · cases h
        exact .inl ⟨by simp [hg], by simp [hg], hmove _, by simp [hg]⟩
      · cases h
  · next hg =>
      cases h
      exact .inl ⟨by simp [hg], by simp [hg], hmove _, by simp [hg]⟩
  · next hg =>
      cases h
      exact .inl ⟨by simp [hg], by simp [hg], hmove _, by simp [hg]⟩
  · next hg =>
      cases h
      refine .inr (.inl ⟨hg, rfl, fun m => ?_⟩)
      by_cases hm : m = n <;> simp [State.setChild, hm]
  · next hg =>
      simp only [Option.some.injEq] at h
      subst h
      refine .inr (.inr (.inl ⟨hg, ?_, fun m => ?_⟩))
      · split
        · rfl
        · rfl
      · split
        · exact (hmove .finished).tailer m
        · exact (hmove .finished).tailer m
  · next hg => exact .inr (.inr (.inr hg))
  · cases h
  · cases h

/-- `waitForExit` goes on: the tailer is waited for, and `waitDone` is closed and then cleared. -/
theorem Followed.drain (h : Followed cfg s) (hd : s.drain 0 = some s') : Followed cfg s' := by
  obtain ⟨g, hnext, hs, -⟩ := drain_eq_some hd
  have hstage : (s'.child 0).stage = g := by rw [hs.stage, Function.update_self]
  have hpast : ∀ x, g.Past x → (s.child 0).stage.Past x ∨ (s.child 0).stage = x :=
    fun x => ExitStage.past_of_next hnext h.tracked
  have htailer : (∀ m, (s'.child m).tailer = (s.child m).tailer) ∧
      ((s.child 0).stage = .joinAlerts →
        s.tailerJoined (s.child 0).captured.alertDone = true) := by
    rcases drain_done hd with ⟨-, -, hsame, hjoined⟩ | ⟨hg, -, ht⟩ | ⟨hg, -, ht⟩ | hg
    · exact ⟨hsame.tailer, hjoined⟩
    · exact ⟨ht, by simp [hg]⟩
    · exact ⟨ht, by simp [hg]⟩
    · exact absurd hg h.tracked
  constructor
  · exact hs.started.trans h.started
  · intro hwaiting
    rw [hstage] at hwaiting
    subst hwaiting
    -- no statement is followed by `cmd.Wait()`
    cases hg : (s.child 0).stage <;> rw [hg] at hnext <;> cases hnext
  · intro huntracked
    rw [hstage] at huntracked
    subst huntracked
    cases hg : (s.child 0).stage <;> rw [hg] at hnext <;> cases hnext
  · rw [hstage]
    rcases drain_done hd with ⟨-, hg, hsame, -⟩ | ⟨hg, hw, -⟩ | ⟨hg, hw, -⟩ | hg
    · rw [hsame.waitDone, h.waitDone]
      cases hc : (s.child 0).stage <;> rw [hc] at hnext <;> cases hnext <;>
        first | rfl | exact absurd hc hg | exact absurd hc h.tracked
    · rw [hg] at hnext
      cases hnext
      rw [hw, h.waitDone, hg]
      rfl
    · rw [hg] at hnext
      cases hnext
      rw [hw, h.waitDone, hg]
      rfl
    · exact absurd hg h.tracked
  · rw [hstage]
    intro hclosed
    rcases drain_done hd with ⟨-, -, hsame, -⟩ | ⟨hg, -, -⟩ | ⟨hg, -, -⟩ | hg
    · rw [hsame.closed] at hclosed
      exact ExitStage.past_next hnext (h.closed hclosed)
    · rw [hg] at hnext
      cases hnext
      decide
    · rw [hg] at hnext
      cases hnext
      decide
    · exact absurd hg h.tracked
  · rw [hstage, hs.captured]
    intro hp
    rcases hpast _ hp with hp | hp
    · exact h.taken hp
    · rw [hp] at hnext
      cases hnext
  · rw [hstage, htailer.1]
    intro hp
    rcases hpast _ hp with hp | hp
    · exact h.joined hp
    · -- the receive has just gone through
      have hjoined := htailer.2 hp
      rw [h.taken (by rw [hp]; decide)] at hjoined
      cases hneed : cfg.needAlert with
      | true => simpa [Config.alertChannel, Config.joinedTailer, hneed, State.tailerJoined]
          using hjoined
      | false => rw [h.unused hneed, Config.joinedTailer, hneed]; rfl
  · rw [htailer.1]
    exact h.unused
  · intro n
    rw [htailer.1]
    exact h.alone n

/-! ## What one step preserves -/

/-- A runner that has started nothing has no goroutines. -/
theorem step_new_of_background {a : Action} (ha : a.background = true) :
    step cfg State.new a = none := by
  cases a <;> first | rfl | cases ha

theorem drain_caller {n : Nat} (h : s.drain n = some s') : s'.caller = s.caller := by
  have hcancel : ∀ k, (s.cancelTailer k).caller = s.caller ∧
      (s.cancelMonitor k).caller = s.caller := by
    intro k
    cases k <;> exact ⟨rfl, rfl⟩
  unfold State.drain at h
  split at h
  case h_1 => cases h; exact (hcancel _).1
  case h_3 => cases h; exact (hcancel _).2
  case h_8 =>
    simp only [Option.some.injEq] at h
    subst h
    split <;> rfl
  all_goals
    try split at h
    all_goals cases h
    all_goals rfl

/-- `waitForExit` of the first start has not gone on, but for taking note of an exit, and its
monitor has not been started. -/
structure Aside (s s' : State) : Prop where
  past : ∀ g, g ≠ .waiting → (s'.child 0).stage.Past g → (s.child 0).stage.Past g
  kept : ∀ g, (s.child 0).stage.Past g → (s'.child 0).stage.Past g
  monitor : (s'.child 0).monitor = .running → (s.child 0).monitor = .running

theorem aside_of_stage (hstage : (s'.child 0).stage = (s.child 0).stage)
    (hmonitor : (s'.child 0).monitor = .running → (s.child 0).monitor = .running) :
    Aside s s' := by
  refine ⟨fun g _ hpast => ?_, fun g hpast => ?_, hmonitor⟩
  · rwa [hstage] at hpast
  · rwa [hstage]

theorem aside_setChild (s : State) (n : Nat) {k : Child} (hstage : k.stage = (s.child n).stage)
    (hmonitor : k.monitor = .running → (s.child n).monitor = .running) :
    Aside s (s.setChild n k) := by
  by_cases hn : n = 0
  · subst hn
    have hchild : (s.setChild 0 k).child 0 = k := by simp [State.setChild]
    apply aside_of_stage
    · rw [hchild, hstage]
    · rw [hchild]
      exact hmonitor
  · have hchild : (s.setChild n k).child 0 = s.child 0 := Function.update_of_ne (Ne.symm hn) ..
    apply aside_of_stage
    · rw [hchild]
    · rw [hchild]
      exact id

theorem aside_reap (hcmd : s.cmd = some 0) (hstage : (s.child 0).stage = .waiting) :
    Aside s (s.reap 0) := by
  constructor
  · intro g hg hpast
    rw [((reap_child s 0 0).2.2.1 hcmd).1] at hpast
    cases g <;> first | exact absurd rfl hg | exact absurd hpast (by decide)
  · intro g hpast
    rw [hstage] at hpast
    exact absurd hpast (Nat.not_lt_zero _)
  · rw [(reap_child s 0 0).1]
    exact id

/-- **Inversion of a step in the background**, for the only start of a runner. -/
theorem Followed.background (h : Followed cfg s) (hw : Wired cfg s) {a : Action}
    (ha : a.background = true) (hs : step cfg s a = some s') :
    Followed cfg s' ∧ s'.caller = s.caller ∧
    ((a = .drain 0 ∧ s.drain 0 = some s') ∨ ((∀ n, a ≠ .drain n) ∧ Aside s s')) := by
  -- there is no other start that could exit or go on
  have hother : ∀ n, (s.child n).stage ≠ .finished → n = 0 := by
    intro n hn
    by_contra hne
    apply hn (hw.fresh n _).1
    have := h.started
    omega
  cases a with
  | drain n =>
      have hd : s.drain n = some s' := hs
      have hzero : n = 0 := by
        apply hother
        intro hfinished
        obtain ⟨g, hnext, -⟩ := drain_eq_some hd
        rw [hfinished] at hnext
        cases hnext
      subst hzero
      exact ⟨h.drain hd, drain_caller hd, .inl ⟨rfl, hd⟩⟩
  | reap n =>
      simp only [step] at hs
      split at hs
      · next hn =>
          cases hs
          have hzero : n = 0 := hother n (by simp [hn.1])
          subst hzero
          obtain ⟨hcmd, -⟩ := h.held hn.1
          exact ⟨h.reap hn.1, by simp [State.reap, hcmd], .inr ⟨by simp, aside_reap hcmd hn.1⟩⟩
      · cases hs
  | exit n =>
      simp only [step] at hs
      split at hs
      · cases hs
        exact ⟨h.setChild rfl rfl rfl (.inl rfl), rfl, .inr ⟨by simp, aside_setChild s n rfl id⟩⟩
      · cases hs
  | tailReturns n =>
      simp only [step] at hs
      split at hs
      · next hn =>
          cases hs
          exact ⟨h.setChild rfl rfl rfl (.inr ⟨hn.1, rfl⟩), rfl,
            .inr ⟨by simp, aside_setChild s n rfl id⟩⟩
      · cases hs
  | monitorReturns n =>
      simp only [step] at hs
      split at hs
      · cases hs
        exact ⟨h.setChild rfl rfl rfl (.inl rfl), rfl,
          .inr ⟨by simp, aside_setChild s n rfl (by simp)⟩⟩
      · cases hs
  | _ => cases ha

section Work

variable {F : Type} {t t' : InstanceState F}

/-- What `waitForExit` has behind it is done. -/
structure Worked (cfg : Config) (t : InstanceState F) : Prop where
  monitor : (t.snort.runner.child 0).stage.Past .joinSystem →
    (t.snort.runner.child 0).monitor ≠ .running
  profile : (t.snort.runner.child 0).stage.Past .joinSystem → cfg.needProfiler = true →
    t.work.profile.isSome = true
  imported : (t.snort.runner.child 0).stage.Past .importProfiler → cfg.needProfiler = true →
    t.work.imported.isSome = true
  cleaned : (t.snort.runner.child 0).stage.Past .cleanup → cfg.noClean = false →
    t.work.cleaned.isSome = true

theorem Worked.aside (h : Worked cfg t) (haside : Aside t.snort.runner t'.snort.runner)
    (hprofile : t'.work.profile = t.work.profile) (himported : t'.work.imported = t.work.imported)
    (hcleaned : t'.work.cleaned = t.work.cleaned) : Worked cfg t' := by
  constructor
  · intro hpast hrunning
    exact h.monitor (haside.past _ (by simp) hpast) (haside.monitor hrunning)
  · rw [hprofile]
    exact fun hpast => h.profile (haside.past _ (by simp) hpast)
  · rw [himported]
    exact fun hpast => h.imported (haside.past _ (by simp) hpast)
  · rw [hcleaned]
    exact fun hpast => h.cleaned (haside.past _ (by simp) hpast)

/-- Where `waitForExit` stands decides what a statement of it does. -/
theorem Work.after_drain (cfg : Config) (w : Work) (p : ProfiledState F) (out : Outcome) (n : Nat) :
    (w.after cfg p out (.drain n)).profile =
        (if (p.runner.child n).stage = .joinSystem then p.insertion n out.stored else w.profile) ∧
      (w.after cfg p out (.drain n)).imported =
        (if (p.runner.child n).stage = .importProfiler ∧ cfg.needProfiler = true then some out.ok
          else w.imported) ∧
      (w.after cfg p out (.drain n)).cleaned =
        (if (p.runner.child n).stage = .cleanup ∧ cfg.noClean = false then some out.ok
          else w.cleaned) := by
  unfold Work.after
  cases hstage : (p.runner.child n).stage with
  | importProfiler => cases hneed : cfg.needProfiler <;> simp [hstage]
  | cleanup => cases hclean : cfg.noClean <;> simp [hstage]
  | _ => simp [hstage]

end Work

section Sound

variable {F : Type} [Zero F] [Add F] [Sub F] [Mul F] [Div F] [LE F] [LT F] [DecidableLE F]
  [DecidableLT F] [NatCast F] {runID : Int} {seconds : Int → F} {t t' : InstanceState F}

/-- The next statement does its work. -/
theorem Worked.drain (h : Worked cfg t) (hb : Booked cfg runID seconds t.snort)
    (hf : Followed cfg t.snort.runner) {r : State} (hd : t.snort.runner.drain 0 = some r)
    (out : Outcome) (phase : Phase) :
    Worked cfg
      { snort := t.snort.after runID (.drain 0) out.stored r, phase
        work := t.work.after cfg t.snort out (.drain 0) } := by
  obtain ⟨g, hnext, hs, hjoined⟩ := drain_eq_some hd
  have hstage : (r.child 0).stage = g := by rw [hs.stage, Function.update_self]
  have hpast : ∀ x, (r.child 0).stage.Past x →
      (t.snort.runner.child 0).stage.Past x ∨ (t.snort.runner.child 0).stage = x := by
    intro x hx
    rw [hstage] at hx
    exact ExitStage.past_of_next hnext hf.tracked hx
  have hwork := Work.after_drain cfg t.work t.snort out 0
  constructor
  · intro hx
    rcases hpast _ hx with hx | hx
    · show (r.child 0).monitor ≠ .running
      rw [hs.monitor]
      exact h.monitor hx
    · -- the profile has just been received
      rw [hx] at hnext
      cases hnext
      exact (hb.wired.drain hd).joined 0 (by rw [hstage]; rfl) (by simp [hstage])
  · intro hx hneed
    show (t.work.after cfg t.snort out (.drain 0)).profile.isSome = true
    rw [hwork.1]
    rcases hpast _ hx with hx | hx
    · split
      · next hat => rw [hat] at hx; exact absurd hx (by decide)
      · exact h.profile hx hneed
    · rw [if_pos hx, ProfiledState.insertion, (hb.received hx (hjoined hx)).1, if_pos hneed]
      rfl
  · intro hx hneed
    show (t.work.after cfg t.snort out (.drain 0)).imported.isSome = true
    rw [hwork.2.1]
    rcases hpast _ hx with hx | hx
    · split
      · rfl
      · exact h.imported hx hneed
    · rw [if_pos ⟨hx, hneed⟩]
      rfl
  · intro hx hclean
    show (t.work.after cfg t.snort out (.drain 0)).cleaned.isSome = true
    rw [hwork.2.2]
    rcases hpast _ hx with hx | hx
    · split
      · rfl
      · exact h.cleaned hx hclean
    · rw [if_pos ⟨hx, hclean⟩]
      rfl

/-- `Start` has returned nil, and `Wait` has not failed. -/
def Phase.following : Phase → Bool
  | .started | .waiting | .returned => true
  | _ => false

/-- **What holds of a run in every phase.** -/
structure Sound (cfg : Config) (runID : Int) (seconds : Int → F) (t : InstanceState F) : Prop where
  booked : Booked cfg runID seconds t.snort
  unstarted : t.phase = .starting → t.snort.runner = State.new
  followed : t.phase.following = true → Followed cfg t.snort.runner ∧ Worked cfg t
  waiting : t.phase = .waiting → t.snort.runner.caller 0 = .waiting 0
  returned : t.phase = .returned → (t.snort.runner.child 0).stage.Past .closeDone

theorem sound_new : Sound cfg runID seconds (instanceMachine cfg runID seconds).init := by
  refine ⟨booked_new, fun _ => rfl, ?_, ?_, ?_⟩ <;> intro h <;> cases h

omit [Add F] [Sub F] [Mul F] [LE F] [LT F] [DecidableLE F] [DecidableLT F] in
theorem after_runner (p : ProfiledState F) (a : Action) (stored : Option String) (r : State) :
    (p.after runID a stored r).runner = r := by
  cases a <;> rfl

/-- A tick of the monitor stores nothing. -/
theorem tick_frame {p p' : ProfiledState F} {n : Nat} {tick : Tick F}
    (h : (profiledMachine cfg runID seconds).step p (.tick n tick) = some p') :
    p'.runner = p.runner ∧ p'.rowsOf 0 = p.rowsOf 0 := by
  simp only [profiledMachine] at h
  split at h
  · cases h
    exact ⟨rfl, rfl⟩
  · cases h

/-- The goroutines of the runner go on in every phase. -/
theorem Phase.after_background {a : Action} (ha : a.background = true) (p : Phase) :
    p.after s s' a = some p := by
  cases a <;> first | cases ha; done | rfl

/-- **Inversion of a call of the client.** -/
theorem Phase.after_cases {p q : Phase} {a : Action} (h : p.after s s' a = some q)
    (ha : a.background = false) :
    (p = .starting ∧ ∃ ok, a = .start 0 ok ∧
      q = if ok = true ∧ s.runInfo.running = false then .started else .failed) ∨
    (p = .started ∧ a = .wait 0 ∧ q = if s'.caller 0 = .idle then .returned else .waiting) ∨
    (p = .waiting ∧ a = .waitReturns 0 ∧ q = .returned) ∨ q = .stopping ∨ q = .failed := by
  unfold Phase.after at h
  split at h
  all_goals first | cases ha; done | skip
  case h_6 ok => exact .inl ⟨rfl, ok, rfl, (Option.some.inj h).symm⟩
  case h_7 => exact .inr (.inl ⟨rfl, rfl, (Option.some.inj h).symm⟩)
  case h_8 => exact .inr (.inr (.inl ⟨rfl, rfl, (Option.some.inj h).symm⟩))
  case h_12 ok => cases ok <;> cases h <;> simp
  case h_14 => cases h
  all_goals
    cases h
    simp

/-- Where the run has returned, the client makes no more calls. -/
theorem Phase.after_over {p q : Phase} (hp : p.over = true) {a : Action}
    (h : p.after s s' a = some q) : a.background = true ∧ q = p := by
  unfold Phase.after at h
  split at h
  case h_1 | h_2 | h_3 | h_4 | h_5 =>
    cases h
    exact ⟨rfl, rfl⟩
  case h_14 => cases h
  all_goals cases hp

/-- The goroutines of the runner keep a run sound. -/
theorem Sound.background (h : Sound cfg runID seconds t) {a : Action} (ha : a.background = true)
    {out : Outcome} {r : State} (hr : Runner.step cfg t.snort.runner a = some r)
    (hb : Booked cfg runID seconds (t.snort.after runID a out.stored r)) :
    Sound cfg runID seconds
      { snort := t.snort.after runID a out.stored r, phase := t.phase
        work := t.work.after cfg t.snort out a } := by
  have hrunner : (t.snort.after runID a out.stored r).runner = r := after_runner ..
  have hcases := fun hf => (h.followed hf).1.background h.booked.wired ha hr
  refine ⟨hb, ?_, ?_, ?_, ?_⟩
  · intro hphase
    rw [h.unstarted hphase, step_new_of_background ha] at hr
    cases hr
  · intro hf
    obtain ⟨hfollowed, hworked⟩ := h.followed hf
    obtain ⟨hfollowed', -, hcase⟩ := hcases hf
    refine ⟨?_, ?_⟩
    · show Followed cfg (t.snort.after runID a out.stored r).runner
      rw [hrunner]
      exact hfollowed'
    · rcases hcase with ⟨rfl, hd⟩ | ⟨hne, haside⟩
      · exact hworked.drain h.booked hfollowed hd out t.phase
      · refine hworked.aside ?_ ?_ ?_ ?_
        · show Aside t.snort.runner (t.snort.after runID a out.stored r).runner
          rw [hrunner]
          exact haside
        all_goals cases a <;> first | rfl | exact absurd rfl (hne _)
  · intro hphase
    obtain ⟨-, hcaller, -⟩ := hcases (by rw [hphase]; rfl)
    show (t.snort.after runID a out.stored r).runner.caller 0 = _
    rw [hrunner, hcaller]
    exact h.waiting hphase
  · intro hphase
    obtain ⟨-, -, hcase⟩ := hcases (by rw [hphase]; rfl)
    show ((t.snort.after runID a out.stored r).runner.child 0).stage.Past .closeDone
    rw [hrunner]
    rcases hcase with ⟨-, hd⟩ | ⟨-, haside⟩
    · obtain ⟨g, hnext, hs, -⟩ := drain_eq_some hd
      rw [hs.stage, Function.update_self]
      exact ExitStage.past_next hnext (h.returned hphase)
    · exact haside.kept _ (h.returned hphase)

/-- Where `Start` or `Wait` has failed there is nothing to show. -/
theorem sound_of_failed (hb : Booked cfg runID seconds t.snort)
    (h : t.phase = .stopping ∨ t.phase = .failed) : Sound cfg runID seconds t := by
  refine ⟨hb, ?_, ?_, ?_, ?_⟩ <;> rcases h with h | h <;> simp [h, Phase.following]

theorem sound_of_following (hb : Booked cfg runID seconds t.snort)
    (h : t.phase.following = true) (hfollowed : Followed cfg t.snort.runner)
    (hworked : Worked cfg t)
    (hwaiting : t.phase = .waiting → t.snort.runner.caller 0 = .waiting 0)
    (hreturned : t.phase = .returned → (t.snort.runner.child 0).stage.Past .closeDone) :
    Sound cfg runID seconds t := by
  refine ⟨hb, fun hphase => ?_, fun _ => ⟨hfollowed, hworked⟩, hwaiting, hreturned⟩
  rw [hphase] at h
  cases h

/-- A call of the client keeps a run sound. -/
theorem Sound.client (h : Sound cfg runID seconds t) {a : Action} (ha : a.background = false)
    {out : Outcome} {r : State} {phase : Phase}
    (hr : Runner.step cfg t.snort.runner a = some r)
    (hphase : t.phase.after t.snort.runner r a = some phase)
    (hb : Booked cfg runID seconds (t.snort.after runID a out.stored r)) :
    Sound cfg runID seconds
      { snort := t.snort.after runID a out.stored r, phase
        work := t.work.after cfg t.snort out a } := by
  rcases Phase.after_cases hphase ha with ⟨hp, ok, rfl, rfl⟩ | ⟨hp, rfl, rfl⟩ | ⟨hp, rfl, rfl⟩ |
    rfl | rfl
  · -- `Start`, of a new runner
    rw [h.unstarted hp] at hr
    cases ok with
    | false => exact sound_of_failed hb (.inr rfl)
    | true =>
        have hlaunched : r = (State.new.launch cfg).setCaller 0 .idle := (Option.some.inj hr).symm
        subst hlaunched
        rw [h.unstarted hp, if_pos ⟨rfl, rfl⟩]
        refine sound_of_following hb rfl (followed_launch 0 .idle) ?_ (by simp) (by simp)
        have hstage : (((State.new.launch cfg).setCaller 0 .idle).child 0).stage = .waiting := rfl
        constructor
        all_goals
          intro hpast
          exact absurd (hstage ▸ hpast) (by decide)
  · -- `Wait` reads `waitDone`: it is nil only when all is done
    obtain ⟨hfollowed, hworked⟩ := h.followed (by rw [hp]; rfl)
    simp only [Runner.step] at hr
    split at hr
    · cases hr
      have hcaller : (t.snort.runner.setCaller 0
          ((t.snort.runner.waitDone.map Caller.waiting).getD .idle)).caller 0 =
          if (t.snort.runner.child 0).stage = .finished then .idle else .waiting 0 := by
        rw [hfollowed.waitDone]
        by_cases hfinished : (t.snort.runner.child 0).stage = .finished <;>
          simp [State.setCaller, hfinished]
      rw [hcaller]
      by_cases hfinished : (t.snort.runner.child 0).stage = .finished
      · rw [if_pos hfinished, if_pos rfl]
        refine sound_of_following hb rfl (hfollowed.setCaller 0 _)
          (hworked.aside (aside_of_stage rfl id) rfl rfl rfl) (by simp) fun _ => ?_
        show (t.snort.runner.child 0).stage.Past .closeDone
        rw [hfinished]
        decide
      · rw [if_neg hfinished, if_neg (by simp)]
        refine sound_of_following hb rfl (hfollowed.setCaller 0 _)
          (hworked.aside (aside_of_stage rfl id) rfl rfl rfl) (fun _ => ?_) (by simp)
        exact hcaller.trans (if_neg hfinished)
    · cases hr
  · -- `waitDone` is closed
    obtain ⟨hfollowed, hworked⟩ := h.followed (by rw [hp]; rfl)
    simp only [Runner.step, h.waiting hp] at hr
    split at hr
    · next hclosed =>
        cases hr
        exact sound_of_following hb rfl (hfollowed.setCaller 0 .idle)
          (hworked.aside (aside_of_stage rfl id) rfl rfl rfl) (by simp)
          fun _ => hfollowed.closed hclosed
    · cases hr
  · exact sound_of_failed hb (.inl rfl)
  · exact sound_of_failed hb (.inr rfl)

theorem Sound.step (h : Sound cfg runID seconds t) {a : InstanceAction F}
    (hs : (instanceMachine cfg runID seconds).step t a = some t') :
    Sound cfg runID seconds t' := by
  cases a with
  | run a out =>
      obtain ⟨p, hp, hs⟩ := Option.bind_eq_some_iff.mp hs
      obtain ⟨phase, hphase, rfl⟩ := Option.map_eq_some_iff.mp hs
      have hb := h.booked.step hp
      obtain ⟨r, hr, rfl⟩ := Option.map_eq_some_iff.mp hp
      rw [after_runner] at hphase
      cases ha : a.background with
      | true =>
          rw [Phase.after_background ha, Option.some_inj] at hphase
          subst hphase
          exact h.background ha hr hb
      | false => exact h.client ha hr hphase hb
  | profilerTick tick =>
      obtain ⟨p, hp, rfl⟩ := Option.map_eq_some_iff.mp hs
      have hb := h.booked.step hp
      have hrunner := (tick_frame hp).1
      refine ⟨hb, ?_, ?_, ?_, ?_⟩
      · rw [hrunner]
        exact h.unstarted
      · rw [hrunner]
        intro hf
        obtain ⟨hfollowed, hworked⟩ := h.followed hf
        refine ⟨hfollowed, ?_⟩
        constructor <;> simp only [hrunner]
        · exact hworked.monitor
        · exact hworked.profile
        · exact hworked.imported
        · exact hworked.cleaned
      · rw [hrunner]
        exact h.waiting
      · rw [hrunner]
        exact h.returned
  | tailerTick read =>
      simp only [instanceMachine] at hs
      split at hs
      · cases hs
        refine ⟨h.booked, h.unstarted, fun hf => ?_, h.waiting, h.returned⟩
        obtain ⟨hfollowed, hworked⟩ := h.followed hf
        exact ⟨hfollowed, hworked.monitor, hworked.profile, hworked.imported, hworked.cleaned⟩
      · cases hs

/-! ## A run that has returned -/

/-- **Where `Wait` has returned nil, the run is complete.** -/
theorem Sound.complete (h : Sound cfg runID seconds t) (hphase : t.phase = .returned) :
    Complete cfg t := by
  obtain ⟨hfollowed, hworked⟩ := h.followed (by rw [hphase]; rfl)
  have hclosed := h.returned hphase
  -- `waitDone` is closed behind all the other statements
  have hpast : ∀ g : ExitStage, g.rank ≤ ExitStage.closeDone.rank →
      (t.snort.runner.child 0).stage.Past g := fun g hg => Nat.lt_of_le_of_lt hg hclosed
  constructor
  · exact hfollowed.joined (hpast _ (by decide))
  · exact hworked.monitor (hpast _ (by decide))
  · exact hworked.profile (hpast _ (by decide))
  · exact hworked.imported (hpast _ (by decide))
  · exact hworked.cleaned (hpast _ (by decide))

/-- A run that has returned does not go back. -/
theorem phase_of_over {a : InstanceAction F} (hover : t.phase.over = true)
    (hs : (instanceMachine cfg runID seconds).step t a = some t') : t'.phase = t.phase := by
  cases a with
  | run a out =>
      obtain ⟨p, -, hs⟩ := Option.bind_eq_some_iff.mp hs
      obtain ⟨phase, hafter, rfl⟩ := Option.map_eq_some_iff.mp hs
      exact (Phase.after_over hover hafter).2
  | profilerTick tick =>
      obtain ⟨p, -, rfl⟩ := Option.map_eq_some_iff.mp hs
      rfl
  | tailerTick read =>
      simp only [instanceMachine] at hs
      split at hs
      · cases hs
        rfl
      · cases hs

/-- **A run that has returned writes nothing any more.** -/
theorem Sound.tables_step (h : Sound cfg runID seconds t) (hphase : t.phase = .returned)
    {a : InstanceAction F} (hs : (instanceMachine cfg runID seconds).step t a = some t') :
    t'.tables = t.tables := by
  obtain ⟨hfollowed, -⟩ := h.followed (by rw [hphase]; rfl)
  have hclosed := h.returned hphase
  have htailer : ∀ n, (t.snort.runner.child n).tailer ≠ .running := by
    intro n
    by_cases hn : n = 0
    · subst hn
      rw [(h.complete hphase).tailer]
      split <;> simp
    · exact hfollowed.alone n hn
  cases a with
  | run a out =>
      obtain ⟨p, hp, hs⟩ := Option.bind_eq_some_iff.mp hs
      obtain ⟨phase, hafter, rfl⟩ := Option.map_eq_some_iff.mp hs
      obtain ⟨r, hr, rfl⟩ := Option.map_eq_some_iff.mp hp
      have ha := (Phase.after_over (by rw [hphase]; rfl) hafter).1
      obtain ⟨-, -, hcase⟩ := hfollowed.background h.booked.wired ha hr
      rcases hcase with ⟨rfl, -⟩ | ⟨hne, -⟩
      · -- only `r.waitDone = nil` is left
        have hlate : ∀ g : ExitStage, g.rank ≤ ExitStage.closeDone.rank →
            (t.snort.runner.child 0).stage ≠ g := by
          intro g hg hat
          rw [hat] at hclosed
          exact Nat.not_lt_of_le hg hclosed
        refine Prod.ext (rowsOf_eq_of_rows (if_neg (hlate _ (by decide))) 0) ?_
        show t.work.after cfg t.snort out (.drain 0) = t.work
        simp only [Work.after]
        split
        · next hat => exact absurd hat (hlate _ (by decide))
        · next hat => exact absurd hat (hlate _ (by decide))
        · next hat => exact absurd hat (hlate _ (by decide))
        · rfl
      · cases a with
        | drain n => exact absurd rfl (hne n)
        | tailReturns n =>
            simp only [Runner.step] at hr
            split at hr
            · next hn => exact absurd hn.1 (htailer n)
            · cases hr
        | exit n | reap n | monitorReturns n => rfl
        | _ => cases ha
  | profilerTick tick =>
      obtain ⟨p, hp, rfl⟩ := Option.map_eq_some_iff.mp hs
      exact Prod.ext (tick_frame hp).2 rfl
  | tailerTick read =>
      simp only [instanceMachine] at hs
      split at hs
      · next hrunning => exact absurd hrunning (htailer 0)
      · cases hs

end Sound

end SnortOptimizer.Runner
