import Mathlib.Algebra.BigOperators.Group.List.Basic
import Mathlib.Data.List.SplitBy

/-!
# Gaps and runs in a series

A series that is measured as it comes in is known by its last element only. Two things can be kept
up to date all the same: the differences between neighbours (`gaps`), which add up to the distance
between the ends, and the runs it falls into when it is cut wherever two neighbours are not related
(`List.splitBy`). Each lemma about a series with one element more says what has to be done to what
was known before.
-/

namespace SnortOptimizer.Series

/-! ## Gaps -/

section Gaps

variable {α : Type} [AddCommGroup α]

/-- The differences between neighbours. -/
def gaps : List α → List α
  | [] => []
  | [_] => []
  | a :: b :: l => (b - a) :: gaps (b :: l)

theorem gaps_concat (l : List α) (a x : α) :
    gaps (l ++ [a] ++ [x]) = gaps (l ++ [a]) ++ [x - a] := by
  induction l with
  | nil => rfl
  | cons b l ih =>
      cases l with
      | nil => rfl
      | cons c l =>
          simp only [List.cons_append, gaps] at ih ⊢
          rw [ih]

/-- One element more is one gap more, if it is not the first. -/
theorem gaps_concat_of_getLast? {l : List α} {a : α} (h : l.getLast? = some a) (x : α) :
    gaps (l ++ [x]) = gaps l ++ [x - a] := by
  obtain ⟨front, rfl⟩ := List.getLast?_eq_some_iff.mp h
  exact gaps_concat front a x

theorem length_gaps (l : List α) : (gaps l).length = l.length - 1 := by
  induction l using gaps.induct with
  | case1 => rfl
  | case2 a => rfl
  | case3 a b l ih =>
      rw [gaps, List.length_cons, ih]
      rfl

/-- The gaps add up to the distance between the ends. -/
theorem sum_gaps {l : List α} {a b : α} (hhead : l.head? = some a) (hlast : l.getLast? = some b) :
    (gaps l).sum = b - a := by
  induction l using List.reverseRecOn generalizing b with
  | nil => cases hhead
  | append_singleton l x ih =>
      rw [List.getLast?_concat, Option.some_inj] at hlast
      subst hlast
      cases hl : l.getLast? with
      | none =>
          rw [List.getLast?_eq_none_iff] at hl
          subst hl
          cases hhead
          simp [gaps]
      | some y =>
          have hhead : l.head? = some a := by
            rwa [List.head?_append_of_ne_nil _ (List.ne_nil_of_mem (List.mem_of_getLast? hl))] at hhead
          rw [gaps_concat_of_getLast? hl, List.sum_append, ih hhead hl, List.sum_singleton]
          exact (add_comm _ _).trans (sub_add_sub_cancel x y a)

end Gaps

/-- The least element of a series, with one element more. -/
theorem min?_concat {α : Type} [Min α] {l : List α} {m : α} (h : l.min? = some m) (x : α) :
    (l ++ [x]).min? = some (min m x) := by
  cases l with
  | nil => cases h
  | cons a l =>
      rw [List.min?_cons'] at h
      rw [List.cons_append, List.min?_cons', List.foldl_append, Option.some.inj h, List.foldl_cons,
        List.foldl_nil]

/-! ## Runs -/

section Runs

variable {α : Type} {r : α → α → Bool} {l : List α} {x y : α}

/-- An element that is not related to the last one starts a run. -/
theorem splitBy_concat_new (h : ∀ y, l.getLast? = some y → r y x = false) :
    (l ++ [x]).splitBy r = l.splitBy r ++ [[x]] :=
  List.splitBy_append_cons [] h

/-- An element that is related to the last one joins its run. -/
theorem splitBy_concat_same {front : List (List α)} {last : List α} (hlast : l.getLast? = some y)
    (hr : r y x = true) (h : l.splitBy r = front ++ [last]) :
    (l ++ [x]).splitBy r = front ++ [last ++ [x]] := by
  obtain ⟨hflat, hnil, hchain, hcut⟩ := List.splitBy_eq_iff.mp h
  have hne : last ≠ [] := by
    rintro rfl
    exact hnil (by simp)
  have hend : last.getLast? = some y := by
    rw [hflat, List.flatten_append, List.flatten_singleton,
      List.getLast?_append_of_ne_nil _ hne] at hlast
    exact hlast
  rw [List.splitBy_eq_iff]
  refine ⟨?_, ?_, ?_, ?_⟩
  · rw [hflat]
    simp
  · intro hmem
    rcases List.mem_append.mp hmem with hmem | hmem
    · exact hnil (List.mem_append_left _ hmem)
    · simp at hmem
  · intro m hm
    rcases List.mem_append.mp hm with hm | hm
    · exact hchain m (List.mem_append_left _ hm)
    · rw [List.mem_singleton.mp hm, List.isChain_append]
      refine ⟨hchain last (by simp), List.isChain_singleton _, ?_⟩
      intro a ha b hb
      rw [hend, Option.mem_some_iff] at ha
      rw [List.head?_cons, Option.mem_some_iff] at hb
      rw [← ha, ← hb]
      exact hr
  · -- the last run begins as before
    rw [List.isChain_append] at hcut ⊢
    refine ⟨hcut.1, List.isChain_singleton _, ?_⟩
    intro a ha b hb
    obtain ⟨hane, hbne, hrel⟩ := hcut.2.2 a ha last (by simp)
    rw [List.head?_cons, Option.mem_some_iff] at hb
    subst hb
    refine ⟨hane, by simp, ?_⟩
    rwa [List.head_append_of_ne_nil hne]

/-- A series that is not empty has a last run, which ends where it ends. -/
theorem exists_last_run (hlast : l.getLast? = some y) : ∃ front last,
    l.splitBy r = front ++ [last] ∧ last.getLast? = some y := by
  have hl : l ≠ [] := List.ne_nil_of_mem (List.mem_of_getLast? hlast)
  have hne := List.splitBy_ne_nil (r := r).mpr hl
  refine ⟨(l.splitBy r).dropLast, (l.splitBy r).getLast hne,
    (List.dropLast_append_getLast hne).symm, ?_⟩
  have hrun : (l.splitBy r).getLast hne ≠ [] :=
    List.ne_nil_of_mem_splitBy (List.getLast_mem hne)
  rw [List.getLast?_eq_some_getLast hrun, List.getLast_getLast_splitBy r hl,
    ← List.getLast?_eq_some_getLast hl, hlast]

end Runs

end SnortOptimizer.Series
