import SnortOptimizer.Machine.Basic
import Mathlib.Logic.Function.Basic

/-!
# Jobs that exclude each other

A service runs at most one job at a time. A start request reserves a *slot* in one locked section,
or is refused; it then writes a record of the job and spawns a task, and gives the slot back when
the record cannot be written. The task does what it does, writes its outcome to the record, and
gives the slot back in the end. A stop request cancels what is in the slot and leaves the slot
alone.

The slot and the task are parameters. Of a slot it has to be known that it is not free while it is
reserved, and that its holder's release empties it. The invariant `HeldBy` says who holds the slot:
nobody, or the one job that is on its way.
-/

namespace SnortOptimizer

/-- A place for one job. -/
structure Slot (σ : Type) where
  empty : σ
  isFree : σ → Bool
  reserve : σ → Nat → σ
  release : σ → Nat → σ
  cancels : σ → List Nat          -- the jobs a stop request cancels
  isFree_reserve : ∀ job, isFree (reserve empty job) = false
  release_reserve : ∀ job, release (reserve empty job) job = empty

/-- What a job does: events of type `ε` lead from stage to stage, and to an outcome in the end. The
truth value says whether the job has been canceled. -/
structure Task (β ε ω : Type) where
  start : β
  step : Bool → β → ε → Option (β ⊕ ω)

namespace Exclusive

/-- The record of a job. -/
inductive Record (ω : Type) where
  | running
  | settled (outcome : ω)
  deriving DecidableEq, Repr

/-- Where a start or stop request stands; `before` is the slot as the request found it. -/
inductive Request (σ : Type) where
  | idle
  | reserved (job : Nat) (before : σ)
  | rollingBack (job : Nat) (before : σ)    -- the record could not be written
  | stored (job : Nat)                      -- the record is written
  | stopping (cancels : List Nat)
  deriving DecidableEq, Repr

/-- Where the task of a job stands. -/
inductive Stage (β ω : Type) where
  | absent
  | working (at_ : β)
  | finishing (outcome : ω)       -- before the outcome is written
  | releasing                     -- before the slot is given back
  | done
  deriving DecidableEq, Repr

structure State (σ β ω : Type) where
  slot : σ
  canceled : Nat → Bool
  jobs : Nat → Option (Record ω)
  nextJob : Nat
  stage : Nat → Stage β ω
  request : Nat → Request σ

/-- The actions; `q` names a request, `j` a job. -/
inductive Action (ε : Type) where
  | refuse (q : Nat)              -- a start fails before it gets to the slot
  | reserve (q : Nat)             -- the locked section of a start
  | store (q : Nat) (ok : Bool)   -- its write of the record
  | rollback (q : Nat)            -- the locked section after a failed write
  | spawn (q : Nat)
  | work (j : Nat) (event : ε)
  | settle (j : Nat)              -- the outcome is written to the record
  | release (j : Nat)             -- the locked section at the end of a task
  | stop (q : Nat)                -- the locked section of a stop request
  | cancel (q : Nat)              -- one of its cancel functions is called
  deriving DecidableEq, Repr

variable {σ β ε ω : Type}

def State.setRequest (s : State σ β ω) (q : Nat) (p : Request σ) : State σ β ω :=
  { s with request := Function.update s.request q p }

def State.setStage (s : State σ β ω) (j : Nat) (g : Stage β ω) : State σ β ω :=
  { s with stage := Function.update s.stage j g }

def State.setJob (s : State σ β ω) (j : Nat) (r : Record ω) : State σ β ω :=
  { s with jobs := Function.update s.jobs j (some r) }

def State.setSlot (s : State σ β ω) (slot : σ) : State σ β ω := { s with slot := slot }

def State.cancelJob (s : State σ β ω) (j : Nat) : State σ β ω :=
  { s with canceled := Function.update s.canceled j true }

def State.new (slot : Slot σ) : State σ β ω :=
  { slot := slot.empty, canceled := fun _ => false, jobs := fun _ => none, nextJob := 0
    stage := fun _ => .absent, request := fun _ => .idle }

def step (slot : Slot σ) (task : Task β ε ω) (s : State σ β ω) : Action ε → Option (State σ β ω)
  | .refuse q =>
      match s.request q with
      | .idle => some s
      | _ => none
  | .reserve q =>
      match s.request q with
      | .idle =>
          some (if slot.isFree s.slot then
            { (s.setSlot (slot.reserve s.slot s.nextJob)).setRequest q
                (.reserved s.nextJob s.slot) with nextJob := s.nextJob + 1 }
          else s)
      | _ => none
  | .store q ok =>
      match s.request q with
      | .reserved j before =>
          some (if ok then (s.setJob j .running).setRequest q (.stored j)
          else s.setRequest q (.rollingBack j before))
      | _ => none
  | .rollback q =>
      match s.request q with
      | .rollingBack j _ =>
          some (((s.setSlot (slot.release s.slot j)).cancelJob j).setRequest q .idle)
      | _ => none
  | .spawn q =>
      match s.request q with
      | .stored j => some ((s.setStage j (.working task.start)).setRequest q .idle)
      | _ => none
  | .work j event =>
      match s.stage j with
      | .working b =>
          match task.step (s.canceled j) b event with
          | none => none
          | some (.inl b') => some (s.setStage j (.working b'))
          | some (.inr outcome) => some (s.setStage j (.finishing outcome))
      | _ => none
  | .settle j =>
      match s.stage j with
      | .finishing outcome => some ((s.setJob j (.settled outcome)).setStage j .releasing)
      | _ => none
  | .release j =>
      match s.stage j with
      | .releasing => some ((s.setSlot (slot.release s.slot j)).setStage j .done)
      | _ => none
  | .stop q =>
      match s.request q with
      | .idle => some (s.setRequest q (.stopping (slot.cancels s.slot)))
      | _ => none
  | .cancel q =>
      match s.request q with
      | .stopping [] => some (s.setRequest q .idle)
      | .stopping (j :: rest) => some ((s.cancelJob j).setRequest q (.stopping rest))
      | _ => none

def machine (slot : Slot σ) (task : Task β ε ω) : Machine (State σ β ω) (Action ε) where
  init := .new slot
  step := step slot task

/-! ## Who holds the slot -/

/-- The job a request is about to start. -/
def Request.job : Request σ → Option Nat
  | .reserved j _ | .rollingBack j _ | .stored j => some j
  | _ => none

/-- The job whose record is not written yet, with the slot as it was before. -/
def Request.pending : Request σ → Option (Nat × σ)
  | .reserved j before | .rollingBack j before => some (j, before)
  | _ => none

def Stage.active : Stage β ω → Bool
  | .absent | .done => false
  | _ => true

/-- The slot is held by the job `h` alone, or by nobody. -/
structure HeldBy (slot : Slot σ) (h : Option Nat) (s : State σ β ω) : Prop where
  slot_eq : s.slot = h.elim slot.empty (slot.reserve slot.empty)
  request : ∀ q j, (s.request q).job = some j → h = some j
  stage : ∀ j, (s.stage j).active = true → h = some j
  running : ∀ j, s.jobs j = some .running → h = some j
  oneRequest : ∀ q q' j j', (s.request q).job = some j → (s.request q').job = some j' → q = q'
  /-- A job is started by its request or has been spawned, not both. -/
  apart : ∀ q j, (s.request q).job = some j → (s.stage j).active = false
  unwritten : ∀ q j before, (s.request q).pending = some (j, before) →
    before = slot.empty ∧ s.jobs j ≠ some .running
  settled : ∀ j, s.stage j = .releasing → s.jobs j ≠ some .running

/-- At most one task is active. -/
def OneActive (s : State σ β ω) : Prop :=
  ∀ j j', (s.stage j).active = true → (s.stage j').active = true → j = j'

/-- While the slot is free no record says that its job is running. -/
def SettledWhenFree (slot : Slot σ) (s : State σ β ω) : Prop :=
  slot.isFree s.slot = true → ∀ j, s.jobs j ≠ some .running

/-- With this action a start returns an error, having found the slot as `before`. -/
inductive StartFails (slot : Slot σ) (s : State σ β ω) : Action ε → σ → Prop where
  | refused (q : Nat) : StartFails slot s (.refuse q) s.slot
  | occupied (q : Nat) (h : slot.isFree s.slot = false) : StartFails slot s (.reserve q) s.slot
  | rolledBack (q j : Nat) (before : σ) (h : s.request q = .rollingBack j before) :
      StartFails slot s (.rollback q) before

variable {slot : Slot σ} {task : Task β ε ω} {s s' : State σ β ω} {h : Option Nat}

theorem HeldBy.oneActive (hs : HeldBy slot h s) : OneActive s := by
  intro j j' hj hj'
  have hsame := (hs.stage j hj).symm.trans (hs.stage j' hj')
  exact Option.some.inj hsame

/-- A free slot is held by nobody. -/
theorem HeldBy.of_isFree (hs : HeldBy slot h s) (hfree : slot.isFree s.slot = true) : h = none := by
  cases h with
  | none => rfl
  | some j =>
      rw [hs.slot_eq] at hfree
      exact absurd hfree (by simp [slot.isFree_reserve j])

theorem HeldBy.settledWhenFree (hs : HeldBy slot h s) : SettledWhenFree slot s := by
  intro hfree j hj
  have hheld := hs.running j hj
  rw [hs.of_isFree hfree] at hheld
  cases hheld

/-- The holder's release empties the slot. -/
theorem HeldBy.release_eq {j : Nat} (hs : HeldBy slot (some j) s) :
    slot.release s.slot j = slot.empty := by
  rw [hs.slot_eq]
  exact slot.release_reserve j

theorem HeldBy.startFails (hs : HeldBy slot h s) {a : Action ε} {before : σ}
    (hstep : step slot task s a = some s') (hfails : StartFails slot s a before) :
    s'.slot = before := by
  cases hfails with
  | refused q =>
      simp only [step] at hstep
      split at hstep
      · cases hstep
        rfl
      · cases hstep
  | occupied q hfree =>
      simp only [step] at hstep
      split at hstep
      · rw [hfree] at hstep
        cases hstep
        rfl
      · cases hstep
  | rolledBack q j before hq =>
      simp only [step, hq, Option.some.injEq] at hstep
      subst hstep
      have hheld := hs.request q j (by rw [hq]; rfl)
      subst hheld
      obtain ⟨hbefore, _⟩ := hs.unwritten q j before (by rw [hq]; rfl)
      rw [hbefore]
      exact hs.release_eq

/-! ## Every step keeps the slot in one hand -/

theorem Request.job_of_pending {p : Request σ} {j : Nat} {before : σ}
    (hp : p.pending = some (j, before)) : p.job = some j := by
  cases p <;> simp_all [Request.pending, Request.job]

/-- A request that has no job under way moves on without one. -/
theorem HeldBy.setRequest (hs : HeldBy slot h s) {q : Nat} {p : Request σ}
    (hp : p.job = none) : HeldBy slot h (s.setRequest q p) := by
  obtain ⟨hslot, hrequest, hstage, hrunning, hone, hapart, hunwritten, hsettled⟩ := hs
  constructor <;>
    simp only [State.setRequest, Function.update_apply] at * <;>
    grind [Request.job_of_pending]

/-- Whom a stop cancels is nobody's concern but the task's. -/
theorem HeldBy.cancelJob (hs : HeldBy slot h s) (j : Nat) : HeldBy slot h (s.cancelJob j) :=
  { hs with }

theorem HeldBy.reserve (hs : HeldBy slot none s) (q : Nat) :
    HeldBy slot (some s.nextJob)
      { (s.setSlot (slot.reserve s.slot s.nextJob)).setRequest q
          (.reserved s.nextJob s.slot) with nextJob := s.nextJob + 1 } := by
  obtain ⟨hslot, hrequest, hstage, hrunning, hone, hapart, hunwritten, hsettled⟩ := hs
  constructor <;>
    simp only [State.setRequest, State.setSlot, Function.update_apply] at * <;>
    grind [Request.job, Request.pending, Request.job_of_pending]

/-- The record is written, and the request no longer pending. -/
theorem HeldBy.stored (hs : HeldBy slot h s) {q j : Nat} {before : σ}
    (hq : s.request q = .reserved j before) :
    HeldBy slot h ((s.setJob j .running).setRequest q (.stored j)) := by
  have hheld := hs.request q j (by rw [hq]; rfl)
  have hinactive := hs.apart q j (by rw [hq]; rfl)
  have hjob : (s.request q).job = some j := by rw [hq]; rfl
  obtain ⟨hslot, hrequest, hstage, hrunning, hone, hapart, hunwritten, hsettled⟩ := hs
  constructor <;>
    simp only [State.setRequest, State.setJob, Function.update_apply] at * <;>
    grind [Request.job, Request.pending, Request.job_of_pending, Stage.active]

theorem HeldBy.unstored (hs : HeldBy slot h s) {q j : Nat} {before : σ}
    (hq : s.request q = .reserved j before) :
    HeldBy slot h (s.setRequest q (.rollingBack j before)) := by
  have hjob : (s.request q).job = some j := by rw [hq]; rfl
  have hpending : (s.request q).pending = some (j, before) := by rw [hq]; rfl
  obtain ⟨hslot, hrequest, hstage, hrunning, hone, hapart, hunwritten, hsettled⟩ := hs
  constructor <;>
    simp only [State.setRequest, Function.update_apply] at * <;>
    grind [Request.job, Request.pending, Request.job_of_pending]

/-- A rolled back start gives the slot back: its job has no task and no record. -/
theorem HeldBy.rollback (hs : HeldBy slot h s) {q j : Nat} {before : σ}
    (hq : s.request q = .rollingBack j before) :
    HeldBy slot none
      (((s.setSlot (slot.release s.slot j)).cancelJob j).setRequest q .idle) := by
  have hjob : (s.request q).job = some j := by rw [hq]; rfl
  have hheld := hs.request q j hjob
  subst hheld
  have hempty := hs.release_eq
  have hinactive := hs.apart q j hjob
  have hunwrittenq := (hs.unwritten q j before (by rw [hq]; rfl)).2
  obtain ⟨hslot, hrequest, hstage, hrunning, hone, hapart, hunwritten, hsettled⟩ := hs
  constructor <;>
    simp only [State.setRequest, State.setSlot, State.cancelJob, Function.update_apply] at * <;>
    grind [Request.job, Request.pending, Request.job_of_pending]

theorem HeldBy.spawn (hs : HeldBy slot h s) {q j : Nat} (hq : s.request q = .stored j) (b : β) :
    HeldBy slot h ((s.setStage j (.working b)).setRequest q .idle) := by
  have hjob : (s.request q).job = some j := by rw [hq]; rfl
  obtain ⟨hslot, hrequest, hstage, hrunning, hone, hapart, hunwritten, hsettled⟩ := hs
  constructor <;>
    simp only [State.setRequest, State.setStage, Function.update_apply] at * <;>
    grind [Request.job, Request.pending, Request.job_of_pending]

/-- An active task goes on. -/
theorem HeldBy.setStage (hs : HeldBy slot h s) {j : Nat} {g : Stage β ω}
    (hj : (s.stage j).active = true) (hg : g ≠ .releasing) : HeldBy slot h (s.setStage j g) := by
  obtain ⟨hslot, hrequest, hstage, hrunning, hone, hapart, hunwritten, hsettled⟩ := hs
  constructor <;> simp only [State.setStage, Function.update_apply] at * <;> grind

theorem HeldBy.settle (hs : HeldBy slot h s) {j : Nat} (hj : (s.stage j).active = true)
    (outcome : ω) :
    HeldBy slot h ((s.setJob j (.settled outcome)).setStage j .releasing) := by
  obtain ⟨hslot, hrequest, hstage, hrunning, hone, hapart, hunwritten, hsettled⟩ := hs
  constructor <;> simp only [State.setJob, State.setStage, Function.update_apply] at * <;> grind

/-- The task gives the slot back, with its outcome written. -/
theorem HeldBy.release (hs : HeldBy slot h s) {j : Nat} (hj : s.stage j = .releasing) :
    HeldBy slot none ((s.setSlot (slot.release s.slot j)).setStage j .done) := by
  have hactive : (s.stage j).active = true := by rw [hj]; rfl
  have hheld := hs.stage j hactive
  subst hheld
  have hempty := hs.release_eq
  obtain ⟨hslot, hrequest, hstage, hrunning, hone, hapart, hunwritten, hsettled⟩ := hs
  constructor <;>
    simp only [State.setSlot, State.setStage, Function.update_apply] at * <;>
    grind [Stage.active]

theorem heldBy_step {a : Action ε} (hs : HeldBy slot h s) (hstep : step slot task s a = some s') :
    ∃ h', HeldBy slot h' s' := by
  cases a with
  | refuse q =>
      simp only [step] at hstep
      split at hstep <;> cases hstep
      exact ⟨h, hs⟩
  | reserve q =>
      simp only [step] at hstep
      split at hstep
      · split at hstep
        · next hfree =>
            cases hstep
            obtain rfl := hs.of_isFree hfree
            exact ⟨_, hs.reserve q⟩
        · cases hstep
          exact ⟨h, hs⟩
      · cases hstep
  | store q ok =>
      simp only [step] at hstep
      split at hstep
      · next j before hq =>
          cases ok with
          | true =>
              cases hstep
              exact ⟨h, hs.stored hq⟩
          | false =>
              cases hstep
              exact ⟨h, hs.unstored hq⟩
      · cases hstep
  | rollback q =>
      simp only [step] at hstep
      split at hstep
      · next j before hq =>
          cases hstep
          exact ⟨none, hs.rollback hq⟩
      · cases hstep
  | spawn q =>
      simp only [step] at hstep
      split at hstep
      · next j hq =>
          cases hstep
          exact ⟨h, hs.spawn hq task.start⟩
      · cases hstep
  | work j event =>
      simp only [step] at hstep
      split at hstep
      · next b hj =>
          have hactive : (s.stage j).active = true := by rw [hj]; rfl
          split at hstep
          · cases hstep
          · cases hstep
            exact ⟨h, hs.setStage hactive (by simp)⟩
          · cases hstep
            exact ⟨h, hs.setStage hactive (by simp)⟩
      · cases hstep
  | settle j =>
      simp only [step] at hstep
      split at hstep
      · next outcome hj =>
          cases hstep
          exact ⟨h, hs.settle (by rw [hj]; rfl) outcome⟩
      · cases hstep
  | release j =>
      simp only [step] at hstep
      split at hstep
      · next hj =>
          cases hstep
          exact ⟨none, hs.release hj⟩
      · cases hstep
  | stop q =>
      simp only [step] at hstep
      split at hstep
      · cases hstep
        exact ⟨h, hs.setRequest rfl⟩
      · cases hstep
  | cancel q =>
      simp only [step] at hstep
      split at hstep
      · cases hstep
        exact ⟨h, hs.setRequest rfl⟩
      · next j rest _ =>
          cases hstep
          exact ⟨h, (hs.cancelJob j).setRequest rfl⟩
      · cases hstep

/-- In every reachable state the slot is in one hand, or free. -/
theorem heldBy_of_reachable (hr : (machine slot task).Reachable s) : ∃ h, HeldBy slot h s := by
  refine hr.invariant (I := fun s => ∃ h, HeldBy slot h s) ⟨none, ?_⟩ ?_
  · constructor <;> simp [machine, State.new, Request.job, Request.pending, Stage.active]
  · rintro s a s' ⟨h, hs⟩ hstep
    exact heldBy_step hs hstep

/-- What holds of exclusive jobs whatever the schedule. -/
structure Settles (slot : Slot σ) (task : Task β ε ω) (s : State σ β ω) : Prop where
  oneActive : OneActive s
  settledWhenFree : SettledWhenFree slot s
  startFails : ∀ a s' before, step slot task s a = some s' → StartFails slot s a before →
    s'.slot = before

/-- **Exclusive jobs settle.** -/
theorem settles_of_reachable (hr : (machine slot task).Reachable s) : Settles slot task s := by
  obtain ⟨h, hs⟩ := heldBy_of_reachable hr
  exact ⟨hs.oneActive, hs.settledWhenFree, fun a s' before => hs.startFails⟩

end Exclusive

end SnortOptimizer
