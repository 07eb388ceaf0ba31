import SnortOptimizer.Analyser.Scheduler
import SnortOptimizer.Runner.InstanceRun

/-!
# Runs are complete before they are read (`analyser/scheduler/*.go`)

The model of the scheduler takes a run of a Snort instance for one step. That is only right if
nobody looks at the tables of a run while its goroutines are still filling them. Here the scheduler
runs in parallel with the goroutines of all the runners it has made: `runAll` runs the three
instances one after the other, each with a new runner, `refreshExpDerivedStats` follows the first of
them and `evaluateRun` the last.

The schedule decides when a child exits, when a helper ticks or returns, when a context is cancelled
and what fails. In every schedule, what is read is complete and final (`reads_complete_runs`).
-/

namespace SnortOptimizer.Analyser

open Runner (InstanceState InstanceAction instanceMachine Complete Sound)

/-! ## The scheduler and its runners -/

/-- The switches of the runner of an instance. -/
def Instance.config (inst : Instance) : Runner.Config :=
  { needAlert := inst = .exp, needProfiler := true, noClean := false }

/-- Where `Scheduler.Run` stands. The calls of `runAll` are counted from 0. -/
inductive Position where
  | running (call : Nat) (inst : Instance)     -- `inst.run`
  | refreshing (call : Nat)                    -- `afterExp`
  | evaluating (call : Nat)                    -- `evaluateRun`
  | deciding (call : Nat)                      -- on the way to the next `runAll`
  | over                                       -- `Run` has returned
  deriving DecidableEq, Repr

/-- What follows the run of an instance. -/
def Position.afterRun (call : Nat) : Instance → Position
  | .exp => .refreshing call
  | .real => .running call .base
  | .base => .evaluating call

/-- The scheduler, and the runs of the instances by the calls of `runAll`. -/
structure Session (F : Type) where
  position : Position
  run : Nat → Instance → InstanceState F

/-- An action of a run or of its goroutines, a read, or a decision of the scheduler. -/
inductive SessionAction (F : Type) where
  | inRun (call : Nat) (inst : Instance) (a : InstanceAction F)
  | refresh (ok : Bool)            -- `refreshExpDerivedStats`
  | evaluate (ok : Bool)           -- `EvaluateRun`
  | next (more : Bool)

/-- Where the scheduler goes when the run it is in has come to `phase`. -/
def Position.follow (call : Nat) (inst : Instance) : Runner.Phase → Position
  | .returned => Position.afterRun call inst
  | .failed => .over
  | _ => .running call inst

section Machine

variable {F : Type} [Zero F] [Add F] [Sub F] [Mul F] [Div F] [LE F] [LT F] [DecidableLE F]
  [DecidableLT F] [NatCast F] (runID : Nat → Int) (seconds : Int → F)

def Session.setRun (s : Session F) (call : Nat) (inst : Instance) (t : InstanceState F) :
    Session F :=
  { position := if s.position = .running call inst then Position.follow call inst t.phase
      else s.position
    run := Function.update s.run call (Function.update (s.run call) inst t) }

/-- `Scheduler.Run`. The goroutines of a run outlive it; it is entered only in its turn. -/
def sessionMachine : Machine (Session F) (SessionAction F) where
  init :=
    { position := .running 0 .exp
      run := fun call inst => (instanceMachine inst.config (runID call) seconds).init }
  step s
    | .inRun call inst a =>
        if s.position = .running call inst ∨ (s.run call inst).phase.over = true then
          ((instanceMachine inst.config (runID call) seconds).step (s.run call inst) a).map
            (s.setRun call inst)
        else none
    | .refresh ok =>
        match s.position with
        | .refreshing call => some { s with position := if ok then .running call .real else .over }
        | _ => none
    | .evaluate ok =>
        match s.position with
        | .evaluating call => some { s with position := if ok then .deciding call else .over }
        | _ => none
    | .next more =>
        match s.position with
        | .deciding call =>
            some { s with position := if more then .running (call + 1) .exp else .over }
        | _ => none

/-- **Only complete runs are read.** Where a run has returned nil it is complete, and whatever
happens then, its tables stay as they are. The runs whose tables the scheduler reads next have
returned, and so has every other run that was ever started. -/
structure ReadsComplete (s : Session F) : Prop where
  complete : ∀ call inst, (s.run call inst).phase = .returned →
    Complete inst.config (s.run call inst)
  final : ∀ call inst, (s.run call inst).phase = .returned →
    ∀ acts s', (sessionMachine runID seconds).exec s acts = some s' →
      (s'.run call inst).tables = (s.run call inst).tables
  refreshed : ∀ call, s.position = .refreshing call → (s.run call .exp).phase = .returned
  evaluated : ∀ call, s.position = .evaluating call →
    ∀ inst, (s.run call inst).phase = .returned
  others : ∀ call, s.position = .refreshing call ∨ s.position = .evaluating call →
    ∀ call' inst, (s.run call' inst).phase = .starting ∨ (s.run call' inst).phase = .returned

end Machine

/-! ## What one step preserves -/

/-- The runs of the present call of `runAll` that are behind the scheduler. -/
def Position.behind : Position → Nat → Instance → Bool
  | .running call .real, c, .exp => c = call
  | .running call .base, c, .exp => c = call
  | .running call .base, c, .real => c = call
  | .refreshing call, c, .exp => c = call
  | .evaluating call, c, _ => c = call
  | _, _, _ => false

/-- What is behind the scheduler when the run it is in has come to `phase`. -/
theorem behind_follow {call c : Nat} {inst i : Instance} {phase : Runner.Phase}
    (h : (Position.follow call inst phase).behind c i = true) :
    (c = call ∧ i = inst ∧ phase = .returned) ∨
      (¬ (c = call ∧ i = inst) ∧ (Position.running call inst).behind c i = true) := by
  cases phase <;> cases inst <;> cases i <;>
    simp_all [Position.follow, Position.afterRun, Position.behind]

theorem follow_of_not_returned {call : Nat} {inst : Instance} {phase : Runner.Phase}
    (h : phase ≠ .returned) :
    Position.follow call inst phase = .running call inst ∨
      Position.follow call inst phase = .over := by
  cases phase <;> simp_all [Position.follow]

section

variable {F : Type}

theorem setRun_run_self (s : Session F) (call : Nat) (inst : Instance) (t : InstanceState F) :
    (s.setRun call inst t).run call inst = t := by
  simp [Session.setRun]

theorem setRun_run_of_ne (s : Session F) {call c : Nat} {inst i : Instance} (t : InstanceState F)
    (h : ¬ (c = call ∧ i = inst)) : (s.setRun call inst t).run c i = s.run c i := by
  by_cases hc : c = call
  · subst hc
    have hi : i ≠ inst := fun hi => h ⟨rfl, hi⟩
    simp [Session.setRun, hi]
  · simp [Session.setRun, hc]

end

section Order

variable {F : Type} [Zero F] [Add F] [Sub F] [Mul F] [Div F] [LE F] [LT F] [DecidableLE F]
  [DecidableLT F] [NatCast F] {runID : Nat → Int} {seconds : Int → F} {s s' : Session F}

/-- **The runs come in order**: each is sound, those behind the scheduler have returned, and so has
every run that has been started, but for the one the scheduler is in. -/
structure RunsInOrder (runID : Nat → Int) (seconds : Int → F) (s : Session F) : Prop where
  sound : ∀ call inst, Sound inst.config (runID call) seconds (s.run call inst)
  behind : ∀ call inst, s.position.behind call inst = true →
    (s.run call inst).phase = .returned
  started : ∀ call inst, (s.run call inst).phase ≠ .starting →
    (s.run call inst).phase = .returned ∨ s.position = .running call inst ∨ s.position = .over

theorem runsInOrder_new : RunsInOrder runID seconds (sessionMachine runID seconds).init where
  sound _ _ := Runner.sound_new
  behind call inst h := by cases inst <;> cases h
  started call inst h := absurd rfl h

/-- A step of a run, or of what is left of it. -/
theorem RunsInOrder.inRun (h : RunsInOrder runID seconds s) {call : Nat} {inst : Instance}
    {a : InstanceAction F} {t : InstanceState F}
    (hturn : s.position = .running call inst ∨ (s.run call inst).phase.over = true)
    (ht : (instanceMachine inst.config (runID call) seconds).step (s.run call inst) a = some t) :
    RunsInOrder runID seconds (s.setRun call inst t) := by
  have hself := setRun_run_self s call inst t
  constructor
  · intro c i
    by_cases hci : c = call ∧ i = inst
    · obtain ⟨rfl, rfl⟩ := hci
      rw [hself]
      exact (h.sound c i).step ht
    · rw [setRun_run_of_ne s t hci]
      exact h.sound c i
  · intro c i hbehind
    by_cases hnow : s.position = .running call inst
    · have hposition : (s.setRun call inst t).position = Position.follow call inst t.phase :=
        if_pos hnow
      rw [hposition] at hbehind
      rcases behind_follow hbehind with ⟨rfl, rfl, hphase⟩ | ⟨hci, hold⟩
      · rw [hself]
        exact hphase
      · rw [setRun_run_of_ne s t hci]
        exact h.behind c i (hnow ▸ hold)
    · have hposition : (s.setRun call inst t).position = s.position := if_neg hnow
      rw [hposition] at hbehind
      have hphase := h.behind c i hbehind
      by_cases hci : c = call ∧ i = inst
      · obtain ⟨rfl, rfl⟩ := hci
        rw [hself, Runner.phase_of_over (hturn.resolve_left hnow) ht]
        exact hphase
      · rw [setRun_run_of_ne s t hci]
        exact hphase
  · intro c i hstarted
    by_cases hnow : s.position = .running call inst
    · have hposition : (s.setRun call inst t).position = Position.follow call inst t.phase :=
        if_pos hnow
      by_cases hci : c = call ∧ i = inst
      · obtain ⟨rfl, rfl⟩ := hci
        rw [hself, hposition]
        by_cases hphase : t.phase = .returned
        · exact .inl hphase
        · exact .inr (follow_of_not_returned hphase)
      · -- the scheduler is in one run only
        rw [setRun_run_of_ne s t hci] at hstarted ⊢
        rcases h.started c i hstarted with hphase | hrun | hover
        · exact .inl hphase
        · rw [hnow] at hrun
          cases hrun
          exact absurd ⟨rfl, rfl⟩ hci
        · rw [hnow] at hover
          cases hover
    · have hposition : (s.setRun call inst t).position = s.position := if_neg hnow
      rw [hposition]
      by_cases hci : c = call ∧ i = inst
      · obtain ⟨rfl, rfl⟩ := hci
        rw [hself, Runner.phase_of_over (hturn.resolve_left hnow) ht] at hstarted ⊢
        exact h.started c i hstarted
      · rw [setRun_run_of_ne s t hci] at hstarted ⊢
        exact h.started c i hstarted

/-- Where the scheduler is in no run, it may go on: every run that has been started has returned. -/
theorem RunsInOrder.move (h : RunsInOrder runID seconds s) {q : Position}
    (hidle : (∀ call inst, s.position ≠ .running call inst) ∧ s.position ≠ .over)
    (hbehind : ∀ call inst, q.behind call inst = true → s.position.behind call inst = true) :
    RunsInOrder runID seconds { s with position := q } := by
  refine ⟨h.sound, fun call inst hq => h.behind call inst (hbehind call inst hq), ?_⟩
  intro call inst hstarted
  rcases h.started call inst hstarted with hphase | hrun | hover
  · exact .inl hphase
  · exact absurd hrun (hidle.1 call inst)
  · exact absurd hover hidle.2

theorem RunsInOrder.step (h : RunsInOrder runID seconds s) {a : SessionAction F}
    (hs : (sessionMachine runID seconds).step s a = some s') : RunsInOrder runID seconds s' := by
  cases a with
  | inRun call inst a =>
      simp only [sessionMachine] at hs
      split at hs
      · next hturn =>
          obtain ⟨t, ht, rfl⟩ := Option.map_eq_some_iff.mp hs
          exact h.inRun hturn ht
      · cases hs
  | refresh ok =>
      simp only [sessionMachine] at hs
      split at hs
      · next call hposition =>
          cases hs
          refine h.move (by simp [hposition]) fun c i hq => ?_
          rw [hposition]
          cases ok <;> cases i <;> simp_all [Position.behind]
      · cases hs
  | evaluate ok =>
      simp only [sessionMachine] at hs
      split at hs
      · next call hposition =>
          cases hs
          refine h.move (by simp [hposition]) fun c i hq => ?_
          cases ok <;> simp [Position.behind] at hq
      · cases hs
  | next more =>
      simp only [sessionMachine] at hs
      split at hs
      · next call hposition =>
          cases hs
          refine h.move (by simp [hposition]) fun c i hq => ?_
          cases more <;> cases i <;> simp [Position.behind] at hq
      · cases hs

/-- The tables of a run that has returned stay as they are in a step of whatever goroutine. -/
theorem RunsInOrder.tables_step (h : RunsInOrder runID seconds s) {a : SessionAction F} {call : Nat}
    {inst : Instance} (hphase : (s.run call inst).phase = .returned)
    (hs : (sessionMachine runID seconds).step s a = some s') :
    (s'.run call inst).phase = .returned ∧
      (s'.run call inst).tables = (s.run call inst).tables := by
  cases a with
  | inRun c i a =>
      simp only [sessionMachine] at hs
      split at hs
      · obtain ⟨t, ht, rfl⟩ := Option.map_eq_some_iff.mp hs
        by_cases hci : call = c ∧ inst = i
        · obtain ⟨rfl, rfl⟩ := hci
          rw [setRun_run_self]
          refine ⟨?_, (h.sound call inst).tables_step hphase ht⟩
          rw [Runner.phase_of_over (by rw [hphase]; rfl) ht]
          exact hphase
        · rw [setRun_run_of_ne s t hci]
          exact ⟨hphase, rfl⟩
      · cases hs
  | refresh ok | evaluate ok | next more =>
      simp only [sessionMachine] at hs
      split at hs
      · cases hs
        exact ⟨hphase, rfl⟩
      · cases hs

/-! ## What is read -/

theorem RunsInOrder.readsComplete (h : RunsInOrder runID seconds s) :
    ReadsComplete runID seconds s := by
  constructor
  · exact fun call inst hphase => (h.sound call inst).complete hphase
  · intro call inst hphase acts s' hexec
    have hkept := Machine.exec_invariant (m := sessionMachine runID seconds)
      (I := fun u => RunsInOrder runID seconds u ∧ (u.run call inst).phase = .returned ∧
        (u.run call inst).tables = (s.run call inst).tables)
      (fun u a u' hu hstep => by
        obtain ⟨horder, hreturned, htables⟩ := hu
        obtain ⟨hreturned', htables'⟩ := horder.tables_step hreturned hstep
        exact ⟨horder.step hstep, hreturned', htables'.trans htables⟩)
      ⟨h, hphase, rfl⟩ hexec
    exact hkept.2.2
  · intro call hposition
    apply h.behind
    simp [hposition, Position.behind]
  · intro call hposition inst
    apply h.behind
    simp [hposition, Position.behind]
  · intro call hposition call' inst
    by_cases hstarting : (s.run call' inst).phase = .starting
    · exact .inl hstarting
    · rcases h.started call' inst hstarting with hphase | hrun | hover
      · exact .inr hphase
      · rcases hposition with hposition | hposition <;> rw [hposition] at hrun <;> cases hrun
      · rcases hposition with hposition | hposition <;> rw [hposition] at hover <;> cases hover

/-- **The scheduler reads complete runs only**, in every schedule of it and of the goroutines of the
runners it makes. -/
theorem reads_complete_runs (runID : Nat → Int) (seconds : Int → F)
    (acts : List (SessionAction F)) :
    (sessionMachine runID seconds).Always (ReadsComplete runID seconds)
      (sessionMachine runID seconds).init acts := by
  have horder : (sessionMachine runID seconds).Always (RunsInOrder runID seconds)
      (sessionMachine runID seconds).init acts :=
    Machine.always_of_step (fun s a s' h hs => h.step hs) runsInOrder_new
  exact horder.imp fun s h => h.readsComplete

end Order

/-- A first run that comes to be read. `Wait` has found an open channel. -/
example :
    let go (a : Runner.Action) : SessionAction Rat :=
      .inRun 0 .exp (.run a { stored := none, ok := true, read := some true })
    let acts : List Runner.Action :=
      [.start 0 true, .wait 0, .exit 0, .reap 0, .drain 0, .tailReturns 0, .drain 0, .drain 0,
        .monitorReturns 0, .drain 0, .drain 0, .drain 0, .drain 0, .waitReturns 0]
    ((sessionMachine (fun _ => 0) Runner.nanosToSeconds).exec
        (sessionMachine (fun _ => 0) Runner.nanosToSeconds).init (acts.map go)).map (fun s =>
      (s.position, (s.run 0 .exp).work.reads)) = some (.refreshing 0, [true]) := by
  decide +kernel

end SnortOptimizer.Analyser
