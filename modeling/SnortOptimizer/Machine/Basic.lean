import Mathlib.Logic.Basic

/-!
# Machines and their schedules

A concurrent component is modelled as a *machine*: a state, and a partial step function that says
what one named action does to it. Whatever the real scheduler may do is a list of actions, a
*schedule*; an action that is not enabled has no step, so a schedule stops there.

Two questions are asked of a schedule, and both are asked step by step:

* `Always P` — does `P` hold in every state the schedule passes through?
* `Guarded G` — was every step taken from a state in which `G` allows it?

`always_of_guarded` and `guarded_of_always` tie them together: where one step keeps `P` exactly
when the guard allows that step, a whole schedule keeps `P` exactly when all its steps are guarded
(`always_iff_guarded`).
-/

namespace SnortOptimizer

/-- A state machine with named actions. `step s a = none` says that `a` is not enabled in `s`. -/
structure Machine (σ α : Type) where
  init : σ
  step : σ → α → Option σ

namespace Machine

variable {σ α : Type} {m : Machine σ α}

/-- The state at the end of a schedule, `none` when one of its actions is not enabled. -/
def exec (m : Machine σ α) : σ → List α → Option σ
  | s, [] => some s
  | s, a :: acts => (m.step s a).bind fun s' => m.exec s' acts

/-- `s` is the end of some schedule. -/
def Reachable (m : Machine σ α) (s : σ) : Prop := ∃ acts, m.exec m.init acts = some s

/-- `P` holds in every state the schedule passes through, its first and last included. -/
def Always (m : Machine σ α) (P : σ → Prop) : σ → List α → Prop
  | s, [] => P s
  | s, a :: acts => P s ∧ ∀ s', m.step s a = some s' → m.Always P s' acts

/-- Every step of the schedule is taken from a state in which `G` allows it. -/
def Guarded (m : Machine σ α) (G : σ → α → Prop) : σ → List α → Prop
  | _, [] => True
  | s, a :: acts => ∀ s', m.step s a = some s' → G s a ∧ m.Guarded G s' acts

/-! ## Reachability -/

theorem exec_cons_eq_some {s s' : σ} {a : α} {acts : List α} :
    m.exec s (a :: acts) = some s' ↔ ∃ t, m.step s a = some t ∧ m.exec t acts = some s' := by
  simp [exec, Option.bind_eq_some_iff]

theorem exec_append (m : Machine σ α) (s : σ) (acts acts' : List α) :
    m.exec s (acts ++ acts') = (m.exec s acts).bind fun t => m.exec t acts' := by
  induction acts generalizing s with
  | nil => rfl
  | cons a acts ih =>
      rw [List.cons_append, exec, exec, Option.bind_assoc]
      congr 1
      funext t
      exact ih t

/-- Schedules compose. -/
theorem exec_trans {s t u : σ} {acts acts' : List α} (h : m.exec s acts = some t)
    (h' : m.exec t acts' = some u) : m.exec s (acts ++ acts') = some u := by
  rw [exec_append, h]
  exact h'

/-- **Invariant rule, along a schedule**: what every step preserves holds at the end. -/
theorem exec_invariant {I : σ → Prop}
    (hstep : ∀ s a s', I s → m.step s a = some s' → I s')
    {acts : List α} {s s' : σ} (hs : I s) (h : m.exec s acts = some s') : I s' := by
  induction acts generalizing s with
  | nil =>
      simp only [exec, Option.some.injEq] at h
      exact h ▸ hs
  | cons a acts ih =>
      obtain ⟨t, ht, hrest⟩ := exec_cons_eq_some.mp h
      exact ih (hstep s a t hs ht) hrest

/-- **Invariant rule**: what holds initially and is preserved by every step holds in every
reachable state. -/
theorem Reachable.invariant {I : σ → Prop} {s : σ} (hr : m.Reachable s) (h0 : I m.init)
    (hstep : ∀ s a s', I s → m.step s a = some s' → I s') : I s := by
  obtain ⟨acts, h⟩ := hr
  exact exec_invariant hstep h0 h

/-! ## Guarded schedules -/

/-- **Guarded invariant rule**: what holds initially and is preserved by every step the guard
allows holds throughout a guarded schedule. -/
theorem always_of_guarded {P : σ → Prop} {G : σ → α → Prop}
    (hstep : ∀ s a s', P s → G s a → m.step s a = some s' → P s')
    {acts : List α} {s : σ} (hP : P s) (hG : m.Guarded G s acts) : m.Always P s acts := by
  induction acts generalizing s with
  | nil => exact hP
  | cons a acts ih =>
      refine ⟨hP, fun s' hs' => ?_⟩
      obtain ⟨hga, hrest⟩ := hG s' hs'
      exact ih (hstep s a s' hP hga hs') hrest

/-- **Invariant rule, throughout a schedule**: what every step preserves holds in every state. -/
theorem always_of_step {I : σ → Prop}
    (hstep : ∀ s a s', I s → m.step s a = some s' → I s')
    {acts : List α} {s : σ} (hs : I s) : m.Always I s acts := by
  induction acts generalizing s with
  | nil => exact hs
  | cons a acts ih => exact ⟨hs, fun s' hs' => ih (hstep s a s' hs hs')⟩

theorem Always.head {P : σ → Prop} {s : σ} {acts : List α} (h : m.Always P s acts) : P s := by
  cases acts with
  | nil => exact h
  | cons a acts => exact h.1

/-- **Necessary guard rule**: if a step can only lead to a state with `P` when the guard allows
it, then a schedule that keeps `P` throughout is guarded. `I` is background knowledge that no step
can break. -/
theorem guarded_of_always {I P : σ → Prop} {G : σ → α → Prop}
    (hinv : ∀ s a s', I s → m.step s a = some s' → I s')
    (hstep : ∀ s a s', I s → P s → m.step s a = some s' → P s' → G s a)
    {acts : List α} {s : σ} (hI : I s) (hA : m.Always P s acts) : m.Guarded G s acts := by
  induction acts generalizing s with
  | nil => trivial
  | cons a acts ih =>
      intro s' hs'
      have hrest := hA.2 s' hs'
      refine ⟨hstep s a s' hI hA.1 hs' hrest.head, ?_⟩
      exact ih (hinv s a s' hI hs') hrest

theorem Always.imp {P Q : σ → Prop} {acts : List α} {s : σ} (hA : m.Always P s acts)
    (h : ∀ s, P s → Q s) : m.Always Q s acts := by
  induction acts generalizing s with
  | nil => exact h s hA
  | cons a acts ih => exact ⟨h s hA.1, fun s' hs' => ih (hA.2 s' hs')⟩

/-- What holds throughout holds at the end. -/
theorem Always.last {P : σ → Prop} {acts : List α} {s s' : σ} (hA : m.Always P s acts)
    (h : m.exec s acts = some s') : P s' := by
  induction acts generalizing s with
  | nil =>
      cases h
      exact hA
  | cons a acts ih =>
      obtain ⟨t, ht, hrest⟩ := exec_cons_eq_some.mp h
      exact ih (hA.2 t ht) hrest

/-- A guarded schedule is guarded in both its parts. -/
theorem Guarded.split {G : σ → α → Prop} {pre rest : List α} {s t : σ}
    (hG : m.Guarded G s (pre ++ rest)) (h : m.exec s pre = some t) :
    m.Guarded G s pre ∧ m.Guarded G t rest := by
  induction pre generalizing s with
  | nil =>
      cases h
      exact ⟨trivial, hG⟩
  | cons a pre ih =>
      obtain ⟨u, hu, hpre⟩ := exec_cons_eq_some.mp h
      obtain ⟨hga, hGu⟩ := hG u hu
      obtain ⟨hGpre, hGrest⟩ := ih hGu hpre
      refine ⟨fun s' hs' => ?_, hGrest⟩
      rw [hu, Option.some_inj] at hs'
      exact ⟨hga, hs' ▸ hGpre⟩

/-- **Exact guard rule**: if one step keeps `P` precisely when the guard allows it, then a
schedule keeps `P` throughout precisely when every step of it is guarded. -/
theorem always_iff_guarded {I P : σ → Prop} {G : σ → α → Prop}
    (hinv : ∀ s a s', I s → m.step s a = some s' → I s')
    (hstep : ∀ s a s', I s → P s → m.step s a = some s' → (P s' ↔ G s a))
    {acts : List α} {s : σ} (hI : I s) (hP : P s) :
    m.Always P s acts ↔ m.Guarded G s acts := by
  constructor
  · exact guarded_of_always hinv (fun s a s' hI hP h => (hstep s a s' hI hP h).mp) hI
  · intro hG
    have hboth : m.Always (fun t => I t ∧ P t) s acts := by
      refine always_of_guarded (fun s a s' hs hg h => ?_) ⟨hI, hP⟩ hG
      exact ⟨hinv s a s' hs.1 h, (hstep s a s' hs.1 hs.2 h).mpr hg⟩
    exact hboth.imp fun t ht => ht.2

/-! ## Machines side by side -/

/-- Two machines that share nothing: each action belongs to one of them. -/
def prod {τ β : Type} (m : Machine σ α) (n : Machine τ β) : Machine (σ × τ) (α ⊕ β) where
  init := (m.init, n.init)
  step
    | (s, t), .inl a => (m.step s a).map fun s' => (s', t)
    | (s, t), .inr b => (n.step t b).map fun t' => (s, t')

theorem Reachable.step {s s' : σ} {a : α} (hr : m.Reachable s) (h : m.step s a = some s') :
    m.Reachable s' := by
  obtain ⟨acts, hacts⟩ := hr
  have hone : m.exec s [a] = some s' := exec_cons_eq_some.mpr ⟨s', h, rfl⟩
  exact ⟨acts ++ [a], exec_trans hacts hone⟩

/-- Each of the two is where it could be alone. -/
theorem Reachable.of_prod {τ β : Type} {n : Machine τ β} {s : σ × τ}
    (hr : (m.prod n).Reachable s) : m.Reachable s.1 ∧ n.Reachable s.2 := by
  refine hr.invariant (I := fun s => m.Reachable s.1 ∧ n.Reachable s.2)
    ⟨⟨[], rfl⟩, ⟨[], rfl⟩⟩ ?_
  rintro s a s' ⟨hm, hn⟩ h
  cases a with
  | inl a =>
      obtain ⟨t, ht, rfl⟩ := Option.map_eq_some_iff.mp h
      exact ⟨hm.step ht, hn⟩
  | inr b =>
      obtain ⟨t, ht, rfl⟩ := Option.map_eq_some_iff.mp h
      exact ⟨hm, hn.step ht⟩

end Machine

end SnortOptimizer
