import Mathlib.Algebra.BigOperators.Group.Finset.Basic
import Mathlib.Algebra.Order.BigOperators.Group.Finset
import Mathlib.Data.Finset.Card
import Mathlib.Data.List.Nodup

/-!
# Counting positions

A loop over a list that counts the elements with some property counts positions; as sets of
positions such counts can be compared. The two cover lemmas bound what changes when a set of
positions shrinks: not more than what the removed part covers, family by family.
-/

namespace SnortOptimizer.Counting

section Positions

variable {α : Type} {l : List α} {p : α → Bool}

/-- The positions of the elements with a property. -/
def positions (p : α → Bool) (l : List α) : Finset Nat :=
  ((l.zipIdx.filter fun x => p x.1).map Prod.snd).toFinset

theorem mem_positions {i : Nat} : i ∈ positions p l ↔ ∃ a, l[i]? = some a ∧ p a = true := by
  rw [positions, List.mem_toFinset, List.mem_map]
  constructor
  · rintro ⟨⟨a, j⟩, hmem, rfl⟩
    obtain ⟨hmem, hp⟩ := List.mem_filter.mp hmem
    exact ⟨a, List.mem_zipIdx_iff_getElem?.mp hmem, hp⟩
  · rintro ⟨a, ha, hp⟩
    exact ⟨(a, i), List.mem_filter.mpr ⟨List.mem_zipIdx_iff_getElem?.mpr ha, hp⟩, rfl⟩

theorem card_positions_le : (positions p l).card ≤ l.length := by
  calc (positions p l).card
      ≤ ((l.zipIdx.filter fun x => p x.1).map Prod.snd).length := List.toFinset_card_le _
    _ = (l.zipIdx.filter fun x => p x.1).length := List.length_map _
    _ ≤ l.zipIdx.length := List.length_filter_le _ _
    _ = l.length := List.length_zipIdx

/-- Counting the elements with a property at the positions of a set. -/
theorem countP_zipIdx (s : Finset Nat) :
    l.zipIdx.countP (fun x => p x.1 && decide (x.2 ∈ s)) = (positions p l ∩ s).card := by
  have hset : positions p l ∩ s =
      ((l.zipIdx.filter fun x => p x.1 && decide (x.2 ∈ s)).map Prod.snd).toFinset := by
    ext i
    simp only [positions, Finset.mem_inter, List.mem_toFinset, List.mem_map, List.mem_filter,
      Bool.and_eq_true, decide_eq_true_eq]
    constructor
    · rintro ⟨⟨x, ⟨hx, hp⟩, rfl⟩, hs⟩
      exact ⟨x, ⟨hx, hp, hs⟩, rfl⟩
    · rintro ⟨x, ⟨hx, hp, hs⟩, rfl⟩
      exact ⟨⟨x, ⟨hx, hp⟩, rfl⟩, hs⟩
  have hnodup : ((l.zipIdx.filter fun x => p x.1 && decide (x.2 ∈ s)).map Prod.snd).Nodup := by
    have hall : (l.zipIdx.map Prod.snd).Nodup := by
      rw [List.zipIdx_map_snd]
      exact List.nodup_range'
    exact hall.sublist (List.filter_sublist.map Prod.snd)
  rw [hset, List.toFinset_card_of_nodup hnodup, List.length_map, List.countP_eq_length_filter]

theorem countP_zipIdx_all : l.zipIdx.countP (fun x => p x.1) = (positions p l).card := by
  have hfull := countP_zipIdx (l := l) (p := p) (positions p l)
  rw [Finset.inter_self] at hfull
  rw [← hfull]
  apply List.countP_congr
  rintro ⟨a, i⟩ hx
  have ha : l[i]? = some a := List.mem_zipIdx_iff_getElem?.mp hx
  constructor
  · intro hp
    simpa [hp] using mem_positions.mpr ⟨a, ha, hp⟩
  · intro h
    exact ((Bool.and_eq_true _ _).mp h).1

theorem countP_zipIdx_not (s : Finset Nat) :
    l.zipIdx.countP (fun x => p x.1 && !decide (x.2 ∈ s)) = (positions p l \ s).card := by
  have hsplit : l.zipIdx.countP (fun x => p x.1) =
      l.zipIdx.countP (fun x => p x.1 && decide (x.2 ∈ s)) +
        l.zipIdx.countP (fun x => p x.1 && !decide (x.2 ∈ s)) := by
    rw [List.countP_eq_countP_filter_add l.zipIdx _ fun x => decide (x.2 ∈ s)]
    simp [List.countP_filter]
  have hsum := Finset.card_sdiff_add_card_inter (positions p l) s
  rw [countP_zipIdx_all, countP_zipIdx] at hsplit
  omega

end Positions

section Covers

variable {ι ρ : Type} [DecidableEq ι] {F M M' : Finset ι} {R : Finset ρ} {N : ρ → Finset ι}

/-- What `M'` misses of `F` beyond `M` is covered by the families that are gone. -/
theorem card_sdiff_le_of_cover (h : M ⊆ M' ∪ R.biUnion N) :
    (F \ M').card ≤ (F \ M).card + ∑ r ∈ R, (F ∩ N r).card := by
  have hsub : F \ M' ⊆ (F \ M) ∪ R.biUnion fun r => F ∩ N r := by
    intro i hi
    obtain ⟨hF, hM'⟩ := Finset.mem_sdiff.mp hi
    by_cases hM : i ∈ M
    · rcases Finset.mem_union.mp (h hM) with hin | hin
      · exact absurd hin hM'
      · obtain ⟨r, hr, hN⟩ := Finset.mem_biUnion.mp hin
        refine Finset.mem_union_right _ (Finset.mem_biUnion.mpr ⟨r, hr, ?_⟩)
        exact Finset.mem_inter.mpr ⟨hF, hN⟩
    · exact Finset.mem_union_left _ (Finset.mem_sdiff.mpr ⟨hF, hM⟩)
  calc (F \ M').card
      ≤ ((F \ M) ∪ R.biUnion fun r => F ∩ N r).card := Finset.card_le_card hsub
    _ ≤ (F \ M).card + (R.biUnion fun r => F ∩ N r).card := Finset.card_union_le _ _
    _ ≤ (F \ M).card + ∑ r ∈ R, (F ∩ N r).card :=
        Nat.add_le_add_left Finset.card_biUnion_le _

/-- What `M'` keeps of `F ∩ M` is all but what the families that are gone cover. -/
theorem card_inter_le_of_cover (h : M ⊆ M' ∪ R.biUnion N) :
    (F ∩ M).card ≤ (F ∩ M').card + ∑ r ∈ R, (F ∩ N r).card := by
  have hsub : F ∩ M ⊆ (F ∩ M') ∪ R.biUnion fun r => F ∩ N r := by
    intro i hi
    obtain ⟨hF, hM⟩ := Finset.mem_inter.mp hi
    rcases Finset.mem_union.mp (h hM) with hin | hin
    · exact Finset.mem_union_left _ (Finset.mem_inter.mpr ⟨hF, hin⟩)
    · obtain ⟨r, hr, hN⟩ := Finset.mem_biUnion.mp hin
      refine Finset.mem_union_right _ (Finset.mem_biUnion.mpr ⟨r, hr, ?_⟩)
      exact Finset.mem_inter.mpr ⟨hF, hN⟩
  calc (F ∩ M).card
      ≤ ((F ∩ M') ∪ R.biUnion fun r => F ∩ N r).card := Finset.card_le_card hsub
    _ ≤ (F ∩ M').card + (R.biUnion fun r => F ∩ N r).card := Finset.card_union_le _ _
    _ ≤ (F ∩ M').card + ∑ r ∈ R, (F ∩ N r).card :=
        Nat.add_le_add_left Finset.card_biUnion_le _

end Covers

end SnortOptimizer.Counting
