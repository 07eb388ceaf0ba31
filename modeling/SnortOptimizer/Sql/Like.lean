import Mathlib.Data.List.Infix

/-!
# `LIKE`

A pattern is matched against a whole text: `%` stands for any characters, `_` for any one, every
other character for itself, where small and capital letters of ASCII are the same. A pattern that
begins and ends with `%` is meant to find texts that contain what stands in between. It does so
when that has no `%` and no `_` of its own (`like_wrapped`), and never otherwise: a text in which
they are replaced by letters matches as well (`like_blanked`, `not_containsText_blanked`).
-/

namespace SnortOptimizer.Sql

/-- Letters of ASCII are compared without regard to case. -/
def foldCase (c : Char) : Char := c.toLower

def like : List Char → List Char → Bool
  | [], text => text.isEmpty
  | c :: pattern, text =>
      if c = '%' then text.tails.any (like pattern)
      else
        match text with
        | [] => false
        | d :: rest => (c = '_' || foldCase c = foldCase d) && like pattern rest

/-- The text contains the part, up to the case of ASCII letters. -/
def ContainsText (text part : List Char) : Prop := part.map foldCase <:+: text.map foldCase

instance decidableContainsText (text part : List Char) : Decidable (ContainsText text part) :=
  inferInstanceAs (Decidable (_ <:+: _))

/-- The characters that do not stand for themselves. -/
def isWildcard (c : Char) : Bool := c = '%' || c = '_'

/-! ## Patterns without wildcards -/

theorem like_cons_nil {c : Char} (hc : c ≠ '%') (pattern : List Char) :
    like (c :: pattern) [] = false := by
  rw [like.eq_def]
  exact if_neg hc

theorem like_cons_cons {c : Char} (hc : c ≠ '%') (pattern : List Char) (d : Char)
    (rest : List Char) :
    like (c :: pattern) (d :: rest) =
      ((c = '_' || foldCase c = foldCase d) && like pattern rest) := by
  rw [like.eq_def]
  exact if_neg hc

theorem like_percent {pattern text : List Char} :
    like ('%' :: pattern) text = true ↔
      ∃ before after, text = before ++ after ∧ like pattern after = true := by
  have hlike : like ('%' :: pattern) text = text.tails.any (like pattern) := by
    rw [like.eq_def]
    rfl
  rw [hlike, List.any_eq_true]
  constructor
  · rintro ⟨after, hafter, h⟩
    obtain ⟨before, rfl⟩ := (List.mem_tails _ _).mp hafter
    exact ⟨before, after, rfl, h⟩
  · rintro ⟨before, after, rfl, h⟩
    exact ⟨after, (List.mem_tails _ _).mpr (List.suffix_append before after), h⟩

theorem like_percent_only (text : List Char) : like ['%'] text = true :=
  like_percent.mpr ⟨text, [], (List.append_nil text).symm, rfl⟩

/-- The part at the front of a text. -/
theorem like_append_percent {part : List Char} (h : ∀ c ∈ part, isWildcard c = false)
    {text : List Char} :
    like (part ++ ['%']) text = true ↔ part.map foldCase <+: text.map foldCase := by
  induction part generalizing text with
  | nil => simp [like_percent_only]
  | cons c part ih =>
      rw [List.forall_mem_cons] at h
      have hc : c ≠ '%' ∧ c ≠ '_' := by simpa [isWildcard] using h.1
      cases text with
      | nil => simp [like_cons_nil hc.1]
      | cons d rest => simp [like_cons_cons hc.1, hc.2, ih h.2, List.cons_prefix_cons]

/-- **Contains.** -/
theorem like_wrapped {part : List Char} (h : ∀ c ∈ part, isWildcard c = false)
    (text : List Char) : like ('%' :: (part ++ ['%'])) text = true ↔ ContainsText text part := by
  rw [like_percent, ContainsText]
  constructor
  · rintro ⟨before, after, rfl, hafter⟩
    rw [like_append_percent h] at hafter
    rw [List.map_append]
    exact hafter.isInfix.trans (List.suffix_append _ _).isInfix
  · rintro ⟨before, after, heq⟩
    -- the place in the folded text is a place in the text
    obtain ⟨front, rest, rfl, hfront, hrest⟩ := List.map_eq_append_iff.mp
      ((List.append_assoc _ _ _).symm.trans heq).symm
    refine ⟨front, rest, rfl, (like_append_percent h).mpr ?_⟩
    rw [hrest]
    exact List.prefix_append _ _

/-! ## Patterns with wildcards -/

/-- A letter instead of a wildcard. -/
def blank (c : Char) : Char := if isWildcard c then 'a' else c

theorem like_append_blanked (part : List Char) : like (part ++ ['%']) (part.map blank) = true := by
  induction part with
  | nil => rfl
  | cons c part ih =>
      by_cases hc : c = '%'
      · subst hc
        exact like_percent.mpr ⟨[blank '%'], part.map blank, rfl, ih⟩
      · rw [List.cons_append, List.map_cons, like_cons_cons hc]
        by_cases hone : c = '_'
        · simp [hone, ih]
        · have hblank : blank c = c := by simp [blank, isWildcard, hc, hone]
          simp [hblank, ih]

/-- The pattern matches the text with letters for wildcards. -/
theorem like_blanked (part : List Char) :
    like ('%' :: (part ++ ['%'])) (part.map blank) = true :=
  like_percent.mpr ⟨[], part.map blank, rfl, like_append_blanked part⟩

/-- Only a wildcard is taken for one. -/
theorem isWildcard_foldCase (c : Char) : isWildcard (foldCase c) = isWildcard c := by
  by_cases h : 65 ≤ c.toNat ∧ c.toNat ≤ 90
  · -- a capital letter becomes a small one, and neither is a wildcard
    have hletters : ∀ n ∈ List.range' 65 26,
        isWildcard (foldCase (Char.ofNat n)) = isWildcard (Char.ofNat n) := by
      decide
    rw [← Char.ofNat_toNat c]
    exact hletters _ (List.mem_range'_1.mpr (by omega))
  · have hsame : foldCase c = c := by
      refine dif_neg fun hupper => h ?_
      exact ⟨UInt32.le_iff_toNat_le.mp hupper.1, UInt32.le_iff_toNat_le.mp hupper.2⟩
    rw [hsame]

/-- And that text does not contain the part. -/
theorem not_containsText_blanked {part : List Char} {w : Char} (hw : isWildcard w = true)
    (hmem : w ∈ part) : ¬ ContainsText (part.map blank) part := by
  intro h
  have hfold : foldCase w ∈ part.map foldCase := List.mem_map_of_mem hmem
  obtain ⟨b, hb, hbw⟩ := List.mem_map.mp (h.subset hfold)
  obtain ⟨c, _, rfl⟩ := List.mem_map.mp hb
  have hnone : isWildcard (blank c) = false := by
    rw [blank]
    split
    · rfl
    · next hc => simpa using hc
  have hsame := congrArg isWildcard hbw
  rw [isWildcard_foldCase, isWildcard_foldCase, hnone, hw] at hsame
  cases hsame

end SnortOptimizer.Sql
