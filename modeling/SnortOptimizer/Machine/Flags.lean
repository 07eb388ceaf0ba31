import SnortOptimizer.Machine.Basic
import Mathlib.Data.Set.SymmDiff

/-!
# Flags

A set of flags is changed by a fixed stock of operations, each of which sets, toggles or clears some
of them, and flags may be cleared from outside at any time. A condition asks for all of some flags,
or for any of them.

Nothing but the operations sets a flag, so what they set or toggle bounds every state
(`subset_settable`); and since flags can be cleared before they are toggled, all of it can be set at
once (`reachable_settable`). Conditions are monotone, so that one state decides what can ever hold
(`forall_reachable_not_holds_iff`, `exists_reachable_forall_holds_iff`).
-/

namespace SnortOptimizer.Flags

variable {β : Type}

inductive Effect
  | set
  | toggle
  | clear
  deriving DecidableEq

/-- An operation. -/
structure Change (β : Type) where
  effect : Effect
  flags : List β
  deriving DecidableEq

def Change.apply (c : Change β) (s : Set β) : Set β :=
  match c.effect with
  | .set => s ∪ {b | b ∈ c.flags}
  | .toggle => (s \ {b | b ∈ c.flags}) ∪ ({b | b ∈ c.flags} \ s)
  | .clear => s \ {b | b ∈ c.flags}

structure Condition (β : Type) where
  flags : List β
  any : Bool
  deriving DecidableEq

def Condition.Holds (c : Condition β) (s : Set β) : Prop :=
  if c.any then ∃ b ∈ c.flags, b ∈ s else ∀ b ∈ c.flags, b ∈ s

/-- What an operation of the stock does, or someone else who clears flags. -/
inductive Action (β : Type)
  | perform (c : Change β)
  | forget (flags : Set β)

def machine [DecidableEq β] (changes : List (Change β)) : Machine (Set β) (Action β) where
  init := ∅
  step
    | s, .perform c => if c ∈ changes then some (c.apply s) else none
    | s, .forget flags => some (s \ flags)

/-- The flags some operation sets or toggles. -/
def settable (changes : List (Change β)) : Set β :=
  {b | ∃ c ∈ changes, c.effect ≠ .clear ∧ b ∈ c.flags}

theorem Condition.Holds.mono {c : Condition β} {s t : Set β} (h : c.Holds s) (hst : s ⊆ t) :
    c.Holds t := by
  unfold Condition.Holds at h ⊢
  cases hany : c.any with
  | true =>
      rw [hany] at h
      obtain ⟨b, hb, hs⟩ := h
      exact ⟨b, hb, hst hs⟩
  | false =>
      rw [hany] at h
      exact fun b hb => hst (h b hb)

/-- A flag that is set after an operation was set before, or is one the operation can set. -/
theorem mem_of_mem_apply {c : Change β} {s : Set β} {b : β} (h : b ∈ c.apply s) :
    b ∈ s ∨ (c.effect ≠ .clear ∧ b ∈ c.flags) := by
  unfold Change.apply at h
  cases heffect : c.effect with
  | set =>
      rw [heffect] at h
      exact h.imp_right fun hb => ⟨by decide, hb⟩
  | toggle =>
      rw [heffect] at h
      rcases h with ⟨hs, _⟩ | ⟨hb, _⟩
      · exact .inl hs
      · exact .inr ⟨by decide, hb⟩
  | clear =>
      rw [heffect] at h
      exact .inl h.1

section Reachable

variable [DecidableEq β] {changes : List (Change β)}

theorem subset_settable {s : Set β} (h : (machine changes).Reachable s) : s ⊆ settable changes := by
  refine h.invariant (I := fun s => s ⊆ settable changes) (Set.empty_subset _) ?_
  intro s a s' hs hstep b hb
  cases a with
  | perform c =>
      simp only [machine] at hstep
      split at hstep
      · next hc =>
          cases hstep
          rcases mem_of_mem_apply hb with hold | ⟨heffect, hmem⟩
          · exact hs hold
          · exact ⟨c, hc, heffect, hmem⟩
      · cases hstep
  | forget flags =>
      cases hstep
      exact hs hb.1

/-- The flags of an operation can be set whatever is set: they are cleared before. -/
theorem reachable_union {s : Set β} (h : (machine changes).Reachable s) {c : Change β}
    (hc : c ∈ changes) (heffect : c.effect ≠ .clear) :
    (machine changes).Reachable (s ∪ {b | b ∈ c.flags}) := by
  let t := s \ {b | b ∈ c.flags}
  have ht : (machine changes).Reachable t := h.step (a := .forget {b | b ∈ c.flags}) rfl
  have happly : c.apply t = s ∪ {b | b ∈ c.flags} := by
    unfold Change.apply
    cases hc : c.effect with
    | set => exact Set.sdiff_union_self
    | toggle =>
        have hdisjoint : Disjoint t {b | b ∈ c.flags} := Set.disjoint_sdiff_left
        rw [hdisjoint.sdiff_eq_left, hdisjoint.symm.sdiff_eq_left]
        exact Set.sdiff_union_self
    | clear => exact absurd hc heffect
  rw [← happly]
  exact ht.step (a := .perform c) (if_pos hc)

theorem reachable_settable (changes : List (Change β)) :
    (machine changes).Reachable (settable changes) := by
  -- one operation after the other, of which each adds its flags
  have hall : ∀ done, done ⊆ changes → (machine changes).Reachable (settable done) := by
    intro done
    induction done with
    | nil =>
        intro _
        have hempty : settable ([] : List (Change β)) = ∅ := by
          simp [settable]
        rw [hempty]
        exact ⟨[], rfl⟩
    | cons c done ih =>
        intro hsub
        obtain ⟨hc, hdone⟩ := List.cons_subset.mp hsub
        by_cases heffect : c.effect = .clear
        · have hsame : settable (c :: done) = settable done := by
            simp [settable, heffect]
          rw [hsame]
          exact ih hdone
        · have hmore : settable (c :: done) = settable done ∪ {b | b ∈ c.flags} := by
            ext b
            simp [settable, heffect, or_comm]
          rw [hmore]
          exact reachable_union (ih hdone) hc heffect
  exact hall changes (List.Subset.refl changes)

/-- **What can never hold.** -/
theorem forall_reachable_not_holds_iff {c : Condition β} :
    (∀ s, (machine changes).Reachable s → ¬ c.Holds s) ↔ ¬ c.Holds (settable changes) := by
  constructor
  · exact fun h => h _ (reachable_settable changes)
  · exact fun h s hs hholds => h (hholds.mono (subset_settable hs))

/-- **What can hold together.** -/
theorem exists_reachable_forall_holds_iff {conditions : List (Condition β)} :
    (∃ s, (machine changes).Reachable s ∧ ∀ c ∈ conditions, c.Holds s) ↔
      ∀ c ∈ conditions, c.Holds (settable changes) := by
  constructor
  · rintro ⟨s, hs, hholds⟩ c hc
    exact (hholds c hc).mono (subset_settable hs)
  · exact fun h => ⟨_, reachable_settable changes, h⟩

end Reachable

end SnortOptimizer.Flags
