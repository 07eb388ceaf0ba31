import Mathlib.Data.List.Sort
import Mathlib.Order.Lattice

/-!
# Sorting up to ties

A sort that need not be stable may leave elements that compare equal in any order. What it does is
a `SliceSort`: some function that permutes and sorts. Where elements are compared by a key, the keys
come out the same whatever the sort (`map_key_eq`), and for each element there is a sort that puts
it in front of its ties and one that puts it behind them (`first_getElem?`, `mem_drop_last`), so
that nothing else about the order of ties can be relied on.
-/

namespace SnortOptimizer.Sorting

/-- What a sort makes of each list. -/
structure SliceSort {α : Type} (less : α → α → Prop) where
  sort : List α → List α
  perm : ∀ l, (sort l).Perm l
  sorted : ∀ l, (sort l).Pairwise fun a b => ¬ less b a

/-- An order in which a map is read. -/
structure MapOrder (α : Type) where
  order : List α → List α
  perm : ∀ l, (order l).Perm l

def MapOrder.asIs (α : Type) : MapOrder α := ⟨id, fun l => .refl l⟩

namespace SliceSort

variable {α κ : Type} [LinearOrder κ] {key : α → κ} {less : α → α → Prop}

/-- By key, and ties by their rank. -/
def RankLe (key : α → κ) (rank : α → Nat) (a b : α) : Prop :=
  key a < key b ∨ (key a = key b ∧ rank a ≤ rank b)

instance (key : α → κ) (rank : α → Nat) : DecidableRel (RankLe key rank) := fun _ _ =>
  inferInstanceAs (Decidable (_ ∨ (_ ∧ _)))

theorem RankLe.key_le {rank : α → Nat} {a b : α} (h : RankLe key rank a b) : key a ≤ key b := by
  rcases h with h | ⟨h, _⟩
  · exact h.le
  · exact h.le

instance (key : α → κ) (rank : α → Nat) : Std.Total (RankLe key rank) := ⟨fun a b => by
  rcases lt_trichotomy (key a) (key b) with h | h | h
  · exact .inl (.inl h)
  · rcases le_total (rank a) (rank b) with hr | hr
    · exact .inl (.inr ⟨h, hr⟩)
    · exact .inr (.inr ⟨h.symm, hr⟩)
  · exact .inr (.inl h)⟩

instance (key : α → κ) (rank : α → Nat) : IsTrans α (RankLe key rank) := ⟨fun a b c hab hbc => by
  rcases hab with hab | ⟨hab, hr⟩
  · exact .inl (hab.trans_le hbc.key_le)
  · rcases hbc with hbc | ⟨hbc, hr'⟩
    · exact .inl (hab ▸ hbc)
    · exact .inr ⟨hab.trans hbc, hr.trans hr'⟩⟩

/-- A sort that puts ties in the order of their ranks. -/
def ranked (hless : ∀ a b, less a b ↔ key a < key b) (rank : α → Nat) : SliceSort less where
  sort := List.insertionSort (RankLe key rank)
  perm := List.perm_insertionSort _
  sorted l := by
    refine (List.pairwise_insertionSort (RankLe key rank) l).imp fun {a b} hab => ?_
    rw [hless, not_lt]
    exact hab.key_le

theorem ranked_sorted (hless : ∀ a b, less a b ↔ key a < key b) (rank : α → Nat) (l : List α) :
    ((ranked hless rank).sort l).Pairwise (RankLe key rank) :=
  List.pairwise_insertionSort (RankLe key rank) l

/-- A sort that leaves ties as they are. -/
def stable (hless : ∀ a b, less a b ↔ key a < key b) : SliceSort less := ranked hless fun _ => 0

theorem sorted_key (hless : ∀ a b, less a b ↔ key a < key b) (s : SliceSort less) (l : List α) :
    (s.sort l).Pairwise fun a b => key a ≤ key b := by
  refine (s.sorted l).imp fun {a b} hab => ?_
  rw [hless, not_lt] at hab
  exact hab

/-- **Ties do not show in the keys.** -/
theorem map_key_eq (hless : ∀ a b, less a b ↔ key a < key b) (s s' : SliceSort less) {l l' : List α}
    (h : (l.map key).Perm (l'.map key)) : (s.sort l).map key = (s'.sort l').map key := by
  refine List.Perm.eq_of_pairwise (fun a b _ _ => le_antisymm)
    (List.pairwise_map.mpr (sorted_key hless s l))
    (List.pairwise_map.mpr (sorted_key hless s' l')) ?_
  exact ((s.perm l).map key).trans (h.trans ((s'.perm l').map key).symm)

/-- What is smaller than an element of a sorted list stands in front of it. -/
theorem countP_lt_le {l : List α} (hl : l.Pairwise fun a b => key a ≤ key b) {i : Nat} {x : α}
    (hx : l[i]? = some x) : l.countP (fun y => key y < key x) ≤ i := by
  obtain ⟨hi, hx⟩ := List.getElem?_eq_some_iff.mp hx
  have hback : (l.drop i).countP (fun y => key y < key x) = 0 := by
    rw [List.countP_eq_zero]
    intro y hy
    rw [List.drop_eq_getElem_cons hi, hx] at hy
    have hsorted := hl.drop (i := i)
    rw [List.drop_eq_getElem_cons hi, hx] at hsorted
    have hle : key x ≤ key y := by
      rcases List.mem_cons.mp hy with rfl | hy
      · exact le_refl _
      · exact List.rel_of_pairwise_cons hsorted hy
    simpa using hle
  rw [← List.take_append_drop i l, List.countP_append, hback, Nat.add_zero]
  exact List.countP_le_length.trans (List.length_take_le i l)

/-- What is not greater than an element of a sorted list, with what stands in front of it. -/
theorem lt_countP_le {l : List α} (hl : l.Pairwise fun a b => key a ≤ key b) {k : Nat} {x : α}
    (hx : x ∈ l.drop k) : k < l.countP (fun y => key y ≤ key x) := by
  rw [← List.take_append_drop k l, List.pairwise_append] at hl
  have hfront : (l.take k).countP (fun y => key y ≤ key x) = (l.take k).length := by
    rw [List.countP_eq_length]
    exact fun y hy => decide_eq_true (hl.2.2 y hy x hx)
  have hback : 0 < (l.drop k).countP (fun y => key y ≤ key x) :=
    List.countP_pos_iff.mpr ⟨x, hx, by simp⟩
  have hk : k < l.length := by
    by_contra hge
    rw [List.drop_eq_nil_of_le (not_lt.mp hge)] at hx
    exact List.not_mem_nil hx
  have hcount : l.countP (fun y => key y ≤ key x) =
      k + (l.drop k).countP (fun y => key y ≤ key x) := by
    conv_lhs => rw [← List.take_append_drop k l]
    rw [List.countP_append, hfront, List.length_take, Nat.min_eq_left hk.le]
  omega

/-- An element and what a sort puts around it. -/
theorem exists_split (s : SliceSort less) {l : List α} {x : α} (hnodup : l.Nodup) (hx : x ∈ l) :
    ∃ pre post, s.sort l = pre ++ x :: post ∧ x ∉ pre ∧ x ∉ post := by
  obtain ⟨pre, post, hsplit⟩ := List.append_of_mem ((s.perm l).mem_iff.mpr hx)
  have hall : (pre ++ x :: post).Nodup := by
    rw [← hsplit]
    exact (s.perm l).nodup_iff.mpr hnodup
  rw [List.nodup_middle, List.nodup_cons, List.mem_append, not_or] at hall
  exact ⟨pre, post, hsplit, hall.1⟩

section Ties

variable [DecidableEq α] (hless : ∀ a b, less a b ↔ key a < key b)

/-- A sort that puts an element in front of its ties. -/
def first (x : α) : SliceSort less := ranked hless fun a => if a = x then 0 else 1

/-- A sort that puts an element behind its ties. -/
def last (x : α) : SliceSort less := ranked hless fun a => if a = x then 1 else 0

theorem first_getElem? {l : List α} {x : α} (hnodup : l.Nodup) (hx : x ∈ l) :
    ((first hless x).sort l)[l.countP fun y => key y < key x]? = some x := by
  obtain ⟨pre, post, hsplit, hpre, hpost⟩ := exists_split (first hless x) hnodup hx
  have hsorted := ranked_sorted hless (fun a => if a = x then 0 else 1) l
  have hsplit' : (ranked hless fun a => if a = x then 0 else 1).sort l = pre ++ x :: post := hsplit
  rw [hsplit', List.pairwise_append] at hsorted
  have hbefore : pre.countP (fun y => key y < key x) = pre.length := by
    rw [List.countP_eq_length]
    intro y hy
    rcases hsorted.2.2 y hy x List.mem_cons_self with h | ⟨_, hrank⟩
    · exact decide_eq_true h
    · have hne : y ≠ x := fun h => hpre (h ▸ hy)
      simp [hne] at hrank
  have hafter : (x :: post).countP (fun y => key y < key x) = 0 := by
    rw [List.countP_eq_zero]
    intro y hy
    rcases List.mem_cons.mp hy with rfl | hy
    · simp
    · simpa using (List.rel_of_pairwise_cons hsorted.2.1 hy).key_le
  have hcount : l.countP (fun y => key y < key x) = pre.length := by
    rw [← ((first hless x).perm l).countP_eq, hsplit, List.countP_append, hbefore, hafter]
    rfl
  rw [hcount, hsplit]
  simp

theorem mem_drop_last {l : List α} {x : α} (hnodup : l.Nodup) (hx : x ∈ l) {k : Nat}
    (hk : k < l.countP fun y => key y ≤ key x) : x ∈ ((last hless x).sort l).drop k := by
  obtain ⟨pre, post, hsplit, hpre, hpost⟩ := exists_split (last hless x) hnodup hx
  have hsorted := ranked_sorted hless (fun a => if a = x then 1 else 0) l
  have hsplit' : (ranked hless fun a => if a = x then 1 else 0).sort l = pre ++ x :: post := hsplit
  rw [hsplit', List.pairwise_append] at hsorted
  have hafter : post.countP (fun y => key y ≤ key x) = 0 := by
    rw [List.countP_eq_zero]
    intro y hy
    rcases List.rel_of_pairwise_cons hsorted.2.1 hy with h | ⟨_, hrank⟩
    · simpa using h
    · have hne : y ≠ x := fun h => hpost (h ▸ hy)
      simp [hne] at hrank
  have hle : k ≤ pre.length := by
    rw [← ((last hless x).perm l).countP_eq, hsplit, List.countP_append, List.countP_cons,
      hafter] at hk
    have hpre : pre.countP (fun y => key y ≤ key x) ≤ pre.length := List.countP_le_length
    simp only [le_refl, decide_true, if_true] at hk
    omega
  rw [hsplit, List.drop_append_of_le_length hle]
  exact List.mem_append_right _ List.mem_cons_self

end Ties

/-- Where no keys are the same, each element has its place. -/
theorem getElem?_countP [DecidableEq α] (hless : ∀ a b, less a b ↔ key a < key b)
    (s : SliceSort less) {l : List α} {x : α} (hkeys : (l.map key).Nodup) (hx : x ∈ l) :
    (s.sort l)[l.countP fun y => key y < key x]? = some x := by
  have hfirst := first_getElem? hless (List.Nodup.of_map key hkeys) hx
  have hkey := congrArg (·[l.countP fun y => key y < key x]?)
    (map_key_eq hless s (first hless x) (.refl (l.map key)))
  simp only [List.getElem?_map, hfirst, Option.map_some, Option.map_eq_some_iff] at hkey
  obtain ⟨y, hy, hyx⟩ := hkey
  have hmem : y ∈ l := (s.perm l).subset (List.mem_of_getElem? hy)
  rw [hy, List.inj_on_of_nodup_map hkeys hmem hx hyx]

end SliceSort

end SnortOptimizer.Sorting
