import Mathlib.Data.List.Basic

/-!
# Lines

Splitting a sequence into lines at a separator, over an arbitrary alphabet. A separator ends its
line; what follows the last one is a line of its own only if it is not empty.

What makes incremental reading possible is `splitLines_append`: splitting may be done piecewise, as
long as every piece but the last ends where a line ends.
-/

namespace SnortOptimizer.Text

variable {α : Type}

/-- Nothing, or something that ends with the separator. -/
def EndsLine (nl : α) (xs : List α) : Prop := xs = [] ∨ ∃ ys, xs = ys ++ [nl]

theorem EndsLine.append {nl : α} {xs ys : List α} (hx : EndsLine nl xs) (hy : EndsLine nl ys) :
    EndsLine nl (xs ++ ys) := by
  obtain rfl | ⟨zs, rfl⟩ := hy
  · rw [List.append_nil]
    exact hx
  · exact .inr ⟨xs ++ zs, by rw [List.append_assoc]⟩

variable [DecidableEq α]

def splitLines (nl : α) : List α → List (List α)
  | [] => []
  | c :: cs =>
      if c = nl then [] :: splitLines nl cs
      else
        match splitLines nl cs with
        | [] => [[c]]
        | l :: ls => (c :: l) :: ls

/-- Where the separator occurs last. -/
def lastIndexOf (nl : α) (xs : List α) : Option Nat :=
  (xs.reverse.findIdx? (· = nl)).map fun i => xs.length - 1 - i

variable {nl : α} {xs ys : List α}

theorem splitLines_ne_nil (h : xs ≠ []) : splitLines nl xs ≠ [] := by
  cases xs with
  | nil => exact absurd rfl h
  | cons c cs =>
      rw [splitLines]
      split
      · simp
      · split <;> simp

theorem splitLines_snoc_append (xs ys : List α) :
    splitLines nl (xs ++ [nl] ++ ys) = splitLines nl (xs ++ [nl]) ++ splitLines nl ys := by
  induction xs with
  | nil => simp [splitLines]
  | cons c cs ih =>
      have hne : splitLines nl (cs ++ [nl]) ≠ [] := splitLines_ne_nil (by simp)
      obtain ⟨l, ls, hl⟩ := List.exists_cons_of_ne_nil hne
      rw [hl, List.cons_append] at ih
      rw [List.cons_append, List.cons_append, splitLines, splitLines, ih, hl]
      split
      · rfl
      · rfl

/-- **Lines can be split piecewise**, as long as the first piece ends where a line ends. -/
theorem splitLines_append (h : EndsLine nl xs) (ys : List α) :
    splitLines nl (xs ++ ys) = splitLines nl xs ++ splitLines nl ys := by
  obtain rfl | ⟨zs, rfl⟩ := h
  · rfl
  · exact splitLines_snoc_append zs ys

/-- A line that has its separator. -/
theorem splitLines_line {line : List α} (h : nl ∉ line) :
    splitLines nl (line ++ [nl]) = [line] := by
  induction line with
  | nil => simp [splitLines]
  | cons c cs ih =>
      rw [List.mem_cons, not_or] at h
      rw [List.cons_append, splitLines, if_neg (Ne.symm h.1), ih h.2]

/-- Lines written one after the other are read back. -/
theorem splitLines_flatMap {lines : List (List α)} (h : ∀ line ∈ lines, nl ∉ line) :
    splitLines nl (lines.flatMap (· ++ [nl])) = lines := by
  induction lines with
  | nil => rfl
  | cons line lines ih =>
      rw [List.forall_mem_cons] at h
      rw [List.flatMap_cons, splitLines_append (.inr ⟨line, rfl⟩), splitLines_line h.1, ih h.2]
      rfl

theorem notMem_of_mem_splitLines {line : List α} (h : line ∈ splitLines nl xs) : nl ∉ line := by
  induction xs generalizing line with
  | nil => cases h
  | cons c cs ih =>
      rw [splitLines] at h
      split at h
      · rcases List.mem_cons.mp h with rfl | h
        · exact List.not_mem_nil
        · exact ih h
      · next hc =>
          cases hcs : splitLines nl cs with
          | nil =>
              rw [hcs, List.mem_singleton] at h
              rw [h, List.mem_singleton]
              exact Ne.symm hc
          | cons l ls =>
              rw [hcs] at h
              rcases List.mem_cons.mp h with rfl | h
              · rw [List.mem_cons, not_or]
                exact ⟨Ne.symm hc, ih (hcs ▸ List.mem_cons_self)⟩
              · exact ih (hcs ▸ List.mem_cons_of_mem l h)

/-- The lines of the front of a sequence are lines of the whole, but for the last one, which may go
on. -/
theorem splitLines_front (nl : α) (xs ys : List α) :
    ∃ zs, List.Forall₂ (· <+: ·) (splitLines nl xs) zs ∧ zs <+: splitLines nl (xs ++ ys) := by
  induction xs with
  | nil => exact ⟨[], .nil, List.nil_prefix⟩
  | cons c cs ih =>
      obtain ⟨zs, hlines, hfront⟩ := ih
      rw [List.cons_append, splitLines, splitLines]
      split
      · exact ⟨[] :: zs, .cons (List.prefix_refl _) hlines, List.prefix_cons_inj _ |>.mpr hfront⟩
      · cases hcs : splitLines nl cs with
        | nil =>
            cases splitLines nl (cs ++ ys) with
            | nil => exact ⟨[[c]], .cons (List.prefix_refl _) .nil, List.prefix_refl _⟩
            | cons l ls =>
                exact ⟨[c :: l], .cons (List.prefix_append [c] l) .nil,
                  List.prefix_append [c :: l] ls⟩
        | cons l ls =>
            rw [hcs] at hlines
            cases hlines with
            | cons hl hls =>
                next l' ls' =>
                  obtain ⟨rest, hrest⟩ := hfront
                  rw [← hrest]
                  refine ⟨(c :: l') :: ls', .cons (List.prefix_cons_inj _ |>.mpr hl) hls, ?_⟩
                  exact List.prefix_append ((c :: l') :: ls') rest

theorem exists_longer_line {line : List α} (h : line ∈ splitLines nl xs) (ys : List α) :
    ∃ longer ∈ splitLines nl (xs ++ ys), line <+: longer := by
  obtain ⟨zs, hlines, hfront⟩ := splitLines_front nl xs ys
  have hmem : ∃ longer ∈ zs, line <+: longer := by
    clear hfront
    generalize splitLines nl xs = lines at h hlines
    induction hlines with
    | nil => cases h
    | cons hl _ ih =>
        rcases List.mem_cons.mp h with rfl | h
        · exact ⟨_, List.mem_cons_self, hl⟩
        · obtain ⟨longer, hlonger, hline⟩ := ih h
          exact ⟨longer, List.mem_cons_of_mem _ hlonger, hline⟩
  obtain ⟨longer, hlonger, hline⟩ := hmem
  exact ⟨longer, hfront.subset hlonger, hline⟩

/-- Up to and including its last separator, a sequence ends where a line ends. -/
theorem endsLine_take_lastIndexOf {i : Nat} (h : lastIndexOf nl xs = some i) :
    EndsLine nl (xs.take (i + 1)) := by
  obtain ⟨j, hj, rfl⟩ := Option.map_eq_some_iff.mp h
  obtain ⟨hlt, hget, _⟩ := List.findIdx?_eq_some_iff_getElem.mp hj
  rw [List.length_reverse] at hlt
  have hi : xs.length - 1 - j < xs.length := by omega
  have hnl : xs[xs.length - 1 - j] = nl := by
    rw [List.getElem_reverse] at hget
    simpa using hget
  refine .inr ⟨xs.take (xs.length - 1 - j), ?_⟩
  rw [List.take_succ_eq_append_getElem hi, hnl]

end SnortOptimizer.Text
