import Mathlib.Order.Defs.Unbundled

/-!
# Computations that stop at an error

Code that talks to a database or a file does one thing after the other and returns at the first
error, with everything it has done up to there left as it is. `EStateM` is the monad of such code:
an error keeps the state.

* `bind_eq_ok` and `bind_eq_error` take a result apart: a sequence succeeds if both its parts do,
  and fails if the first part does or, after it, the second.
* `Keeps R x` says that `R` holds between the states before and after `x`, whatever `x` returns.
  For a preorder `R` it is proved along the code, one rule for each construct.
-/

namespace SnortOptimizer.Effects

variable {ε σ α β : Type}

/-- The state after a computation, whether it has failed or not. -/
def after (x : EStateM ε σ α) (s : σ) : σ :=
  match x s with
  | .ok _ s' => s'
  | .error _ s' => s'

theorem after_of_ok {x : EStateM ε σ α} {s s' : σ} {a : α} (h : x s = .ok a s') :
    after x s = s' := by
  rw [after, h]

theorem after_of_error {x : EStateM ε σ α} {s s' : σ} {e : ε} (h : x s = .error e s') :
    after x s = s' := by
  rw [after, h]

/-- The error of a computation, if it fails. -/
def failure (x : EStateM ε σ α) (s : σ) : Option ε :=
  match x s with
  | .ok _ _ => none
  | .error e _ => some e

theorem eq_ok_of_failure {x : EStateM ε σ α} {s : σ} (h : failure x s = none) :
    ∃ a, x s = .ok a (after x s) := by
  rw [failure] at h
  rw [after]
  cases hx : x s with
  | ok a s' => exact ⟨a, rfl⟩
  | error e s' =>
      rw [hx] at h
      cases h

/-! ## Taking results apart -/

theorem pure_eq_ok {a b : α} {s s' : σ} :
    (pure a : EStateM ε σ α) s = .ok b s' ↔ a = b ∧ s = s' :=
  EStateM.Result.ok.injEq a s b s' ▸ Iff.rfl

theorem bind_eq_ok {x : EStateM ε σ α} {f : α → EStateM ε σ β} {s s' : σ} {b : β} :
    (x >>= f) s = .ok b s' ↔ ∃ a t, x s = .ok a t ∧ f a t = .ok b s' := by
  show EStateM.bind x f s = _ ↔ _
  rw [EStateM.bind]
  cases x s with
  | ok a t =>
      constructor
      · exact fun h => ⟨a, t, rfl, h⟩
      · rintro ⟨a', t', heq, h⟩
        cases heq
        exact h
  | error e t => exact ⟨nofun, fun ⟨_, _, h, _⟩ => nomatch h⟩

theorem bind_eq_error {x : EStateM ε σ α} {f : α → EStateM ε σ β} {s s' : σ} {e : ε} :
    (x >>= f) s = .error e s' ↔
      x s = .error e s' ∨ ∃ a t, x s = .ok a t ∧ f a t = .error e s' := by
  show EStateM.bind x f s = _ ↔ _
  rw [EStateM.bind]
  cases x s with
  | ok a t =>
      constructor
      · exact fun h => .inr ⟨a, t, rfl, h⟩
      · rintro (heq | ⟨a', t', heq, h⟩)
        · cases heq
        · cases heq
          exact h
  | error d t =>
      constructor
      · intro h
        cases h
        exact .inl rfl
      · rintro (heq | ⟨a', t', heq, h⟩)
        · cases heq
          rfl
        · cases heq

/-! ## What is kept -/

/-- The states before and after are related. -/
def Keeps (R : σ → σ → Prop) (x : EStateM ε σ α) : Prop := ∀ s, R s (after x s)

namespace Keeps

variable {R : σ → σ → Prop} {x : EStateM ε σ α}

theorem ok (h : Keeps R x) {s s' : σ} {a : α} (hx : x s = .ok a s') : R s s' :=
  after_of_ok hx ▸ h s

protected theorem pure [Std.Refl R] (a : α) : Keeps R (pure a : EStateM ε σ α) :=
  fun s => Std.Refl.refl s

protected theorem throw [Std.Refl R] (e : ε) : Keeps R (throw e : EStateM ε σ α) :=
  fun s => Std.Refl.refl s

protected theorem bind [IsTrans σ R] (hx : Keeps R x) {f : α → EStateM ε σ β}
    (hf : ∀ a, Keeps R (f a)) : Keeps R (x >>= f) := by
  intro s
  have hs := hx s
  cases h : x s with
  | ok a t =>
      have hbind : after (x >>= f) s = after (f a) t := by
        show (match EStateM.bind x f s with | .ok _ s' => s' | .error _ s' => s') = _
        rw [EStateM.bind, h]
        rfl
      rw [after_of_ok h] at hs
      rw [hbind]
      exact IsTrans.trans _ _ _ hs (hf a t)
  | error e t =>
      -- the second part is not reached
      rw [after_of_error h] at hs
      rwa [after_of_error (bind_eq_error.mpr (.inl h))]

protected theorem ite {c : Prop} [Decidable c] {y : EStateM ε σ α} (hx : Keeps R x)
    (hy : Keeps R y) : Keeps R (if c then x else y) := by
  split
  · exact hx
  · exact hy

protected theorem forM [Std.Refl R] [IsTrans σ R] {l : List α} {f : α → EStateM ε σ PUnit}
    (hf : ∀ a ∈ l, Keeps R (f a)) : Keeps R (l.forM f) := by
  induction l with
  | nil => exact Keeps.pure ()
  | cons a l ih =>
      rw [List.forall_mem_cons] at hf
      show Keeps R (f a >>= fun _ => l.forM f)
      exact Keeps.bind hf.1 fun _ => ih hf.2

protected theorem mapM [Std.Refl R] [IsTrans σ R] {l : List α} {f : α → EStateM ε σ β}
    (hf : ∀ a ∈ l, Keeps R (f a)) : Keeps R (l.mapM f) := by
  induction l with
  | nil => exact Keeps.pure []
  | cons a l ih =>
      rw [List.forall_mem_cons] at hf
      rw [List.mapM_cons]
      exact Keeps.bind hf.1 fun _ => Keeps.bind (ih hf.2) fun _ => Keeps.pure _

/-- One computation after another, with their errors ignored. -/
theorem foldl [Std.Refl R] [IsTrans σ R] {l : List α} {f : α → EStateM ε σ β}
    (hf : ∀ a ∈ l, Keeps R (f a)) (s : σ) : R s (l.foldl (fun s a => after (f a) s) s) := by
  induction l generalizing s with
  | nil => exact Std.Refl.refl s
  | cons a l ih =>
      rw [List.forall_mem_cons] at hf
      exact IsTrans.trans _ _ _ (hf.1 s) (ih hf.2 _)

end Keeps

end SnortOptimizer.Effects
