import Mathlib.Data.List.Induction
import Mathlib.Data.List.Pairwise

/-!
# Tables with uniqueness constraints

A table is a list of rows no two of which conflict; what a conflict is (a primary key, a unique
index, several of them) is a parameter. The statements that write to a table keep it that way, so a
table that breaks its constraints cannot be built: an insert that would is refused, or ignored.
-/

namespace SnortOptimizer

@[ext]
structure Table (ρ : Type) (Conflict : ρ → ρ → Prop) where
  rows : List ρ
  apart : rows.Pairwise fun r s => ¬ Conflict r s

namespace Table

variable {ρ : Type} {Conflict : ρ → ρ → Prop}

def empty : Table ρ Conflict := ⟨[], .nil⟩

/-- `DELETE`: the rows a condition selects are gone. -/
def delete (t : Table ρ Conflict) (p : ρ → Bool) : Table ρ Conflict :=
  ⟨t.rows.filter fun r => !p r, t.apart.filter _⟩

/-- `UPDATE` with a function that brings no two rows into conflict. -/
def update (t : Table ρ Conflict) (f : ρ → ρ)
    (hf : ∀ r s, Conflict (f r) (f s) → Conflict r s) : Table ρ Conflict :=
  ⟨t.rows.map f, t.apart.map f fun r s h hc => h (hf r s hc)⟩

/-- The same rows in another form, in which they are no more in conflict than before. -/
def image {ρ' : Type} {Conflict' : ρ' → ρ' → Prop} (t : Table ρ Conflict) (f : ρ → ρ')
    (hf : ∀ r s, Conflict' (f r) (f s) → Conflict r s) : Table ρ' Conflict' :=
  ⟨t.rows.map f, t.apart.map f fun r s h hc => h (hf r s hc)⟩

/-- Where conflicts are mutual, a row conflicts with itself only. -/
theorem eq_of_conflict (t : Table ρ Conflict) (hsymm : ∀ r s, Conflict r s → Conflict s r)
    {r s : ρ} (hr : r ∈ t.rows) (hs : s ∈ t.rows) (h : Conflict r s) : r = s := by
  have hapart : Std.Symm fun r s => ¬ Conflict r s := ⟨fun r s hrs hsr => hrs (hsymm s r hsr)⟩
  by_contra hne
  exact t.apart.forall hr hs hne h

section Insert

variable [∀ r s, Decidable (Conflict r s)]

/-- `INSERT` of one row. -/
def insert? (t : Table ρ Conflict) (r : ρ) : Option (Table ρ Conflict) :=
  if h : ∀ s ∈ t.rows, ¬ Conflict s r then
    some ⟨t.rows ++ [r], by
      rw [List.pairwise_append]
      refine ⟨t.apart, List.pairwise_singleton _ _, fun s hs r' hr' => ?_⟩
      rw [List.mem_singleton.mp hr']
      exact h s hs⟩
  else none

/-- `INSERT OR IGNORE` of one row. -/
def insertOrIgnore (t : Table ρ Conflict) (r : ρ) : Table ρ Conflict := (t.insert? r).getD t

/-- `INSERT` of several rows; one that cannot be inserted fails the statement. -/
def insertAll (t : Table ρ Conflict) (rs : List ρ) : Option (Table ρ Conflict) :=
  rs.foldlM insert? t

theorem insert?_eq_some {t t' : Table ρ Conflict} {r : ρ} (h : t.insert? r = some t') :
    t'.rows = t.rows ++ [r] := by
  rw [insert?] at h
  split at h
  · cases h
    rfl
  · cases h

theorem mem_insertOrIgnore {t : Table ρ Conflict} {r s : ρ} (h : s ∈ (t.insertOrIgnore r).rows) :
    s ∈ t.rows ∨ s = r := by
  unfold insertOrIgnore at h
  cases hins : t.insert? r with
  | none =>
      rw [hins] at h
      exact .inl h
  | some u =>
      rw [hins, Option.getD_some, insert?_eq_some hins, List.mem_append, List.mem_singleton] at h
      exact h

theorem insertOrIgnore_of_conflict {t : Table ρ Conflict} {r s : ρ} (hs : s ∈ t.rows)
    (h : Conflict s r) : t.insertOrIgnore r = t := by
  rw [insertOrIgnore, insert?, dif_neg fun hfree => hfree s hs h, Option.getD_none]

theorem insertOrIgnore_rows {t : Table ρ Conflict} {r : ρ} (h : ∀ s ∈ t.rows, ¬ Conflict s r) :
    (t.insertOrIgnore r).rows = t.rows ++ [r] := by
  rw [insertOrIgnore, insert?, dif_pos h, Option.getD_some]

/-- Rows in another form that are in conflict as before are ignored as before. -/
theorem image_insertOrIgnore {ρ' : Type} {Conflict' : ρ' → ρ' → Prop}
    [∀ r s, Decidable (Conflict' r s)] {f : ρ → ρ'}
    (hf : ∀ r s, Conflict' (f r) (f s) → Conflict r s)
    (hf' : ∀ r s, Conflict r s → Conflict' (f r) (f s)) (t : Table ρ Conflict) (r : ρ) :
    (t.image f hf).insertOrIgnore (f r) = (t.insertOrIgnore r).image f hf := by
  by_cases hfree : ∀ s ∈ t.rows, ¬ Conflict s r
  · have hfree' : ∀ s ∈ (t.image f hf).rows, ¬ Conflict' s (f r) := by
      intro s hs hconflict
      obtain ⟨q, hq, rfl⟩ := List.mem_map.mp hs
      exact hfree q hq (hf q r hconflict)
    have hrows : ((t.image f hf).insertOrIgnore (f r)).rows =
        ((t.insertOrIgnore r).image f hf).rows := by
      show _ = (t.insertOrIgnore r).rows.map f
      rw [insertOrIgnore_rows hfree', insertOrIgnore_rows hfree, List.map_append]
      rfl
    exact Table.ext hrows
  · push Not at hfree
    obtain ⟨s, hs, hconflict⟩ := hfree
    have hs' : f s ∈ (t.image f hf).rows := List.mem_map_of_mem hs
    rw [insertOrIgnore_of_conflict hs hconflict,
      insertOrIgnore_of_conflict hs' (hf' s r hconflict)]

/-- Where the constraints come down to a key, a run of ignored inserts adds the first row of each
key. -/
theorem mem_foldl_insertOrIgnore {κ : Type} [DecidableEq κ] (key : ρ → κ) {rs : List ρ}
    {t : Table ρ Conflict} (hkey : ∀ r ∈ rs, ∀ s ∈ rs, Conflict r s ↔ key r = key s)
    (ht : ∀ s ∈ t.rows, ∀ r ∈ rs, ¬ Conflict s r) {row : ρ} :
    row ∈ (rs.foldl insertOrIgnore t).rows ↔
      row ∈ t.rows ∨ rs.find? (fun r => key r = key row) = some row := by
  induction rs using List.reverseRecOn generalizing row with
  | nil => simp
  | append_singleton rs r ih =>
      have hkey' : ∀ s ∈ rs, Conflict s r ↔ key s = key r := fun s hs =>
        hkey s (List.mem_append_left _ hs) r (List.mem_append_right _ List.mem_cons_self)
      have ih {row : ρ} : row ∈ (rs.foldl insertOrIgnore t).rows ↔
          row ∈ t.rows ∨ rs.find? (fun r => key r = key row) = some row := by
        apply ih
        · exact fun r hr s hs =>
            hkey r (List.mem_append_left _ hr) s (List.mem_append_left _ hs)
        · exact fun s hs r hr => ht s hs r (List.mem_append_left _ hr)
      rw [List.foldl_append, List.foldl_cons, List.foldl_nil, List.find?_append]
      by_cases hnew : ∀ s ∈ (rs.foldl insertOrIgnore t).rows, ¬ Conflict s r
      · -- no earlier row has the key of the new one
        have hnone : ∀ s ∈ rs, key s ≠ key r := by
          intro s hs heq
          obtain ⟨q, hq⟩ : ∃ q, rs.find? (fun s => key s = key r) = some q := by
            rw [← Option.isSome_iff_exists, List.find?_isSome]
            exact ⟨s, hs, decide_eq_true heq⟩
          have hqkey : key q = key r := by simpa using List.find?_some hq
          have hrow : q ∈ (rs.foldl insertOrIgnore t).rows := by
            rw [ih, hqkey]
            exact .inr hq
          exact hnew q hrow ((hkey' q (List.mem_of_find?_eq_some hq)).mpr hqkey)
        rw [insertOrIgnore_rows hnew, List.mem_append, List.mem_singleton, ih, or_assoc]
        refine or_congr_right ?_
        by_cases hrow : key r = key row
        · have hfind : rs.find? (fun s => key s = key row) = none := by
            rw [List.find?_eq_none, ← hrow]
            exact fun s hs => by simpa using hnone s hs
          have hlast : [r].find? (fun s => key s = key row) = some r := by simp [hrow]
          rw [hfind, hlast, Option.none_or, Option.some_inj, eq_comm (a := row)]
          simp
        · have hne : row ≠ r := fun h => hrow (h ▸ rfl)
          rw [List.find?_cons_of_neg (by simpa using hrow), List.find?_nil, Option.or_none]
          simp [hne]
      · push Not at hnew
        obtain ⟨s, hs, hconflict⟩ := hnew
        rw [insertOrIgnore_of_conflict hs hconflict, ih]
        refine or_congr_right ?_
        have hsfind : rs.find? (fun q => key q = key s) = some s := by
          rcases ih.mp hs with hs | hs
          · exact absurd hconflict (ht s hs r (List.mem_append_right _ List.mem_cons_self))
          · exact hs
        have hsr : key s = key r := (hkey' s (List.mem_of_find?_eq_some hsfind)).mp hconflict
        by_cases hrow : key r = key row
        · rw [← hrow, ← hsr, hsfind, Option.some_or]
        · rw [List.find?_cons_of_neg (by simpa using hrow), List.find?_nil, Option.or_none]

theorem insertAll_rows {rs : List ρ} {t t' : Table ρ Conflict} (h : t.insertAll rs = some t') :
    t'.rows = t.rows ++ rs := by
  induction rs generalizing t with
  | nil =>
      cases h
      rw [List.append_nil]
  | cons r rs ih =>
      rw [insertAll, List.foldlM_cons] at h
      obtain ⟨u, hu, hrest⟩ := Option.bind_eq_some_iff.mp h
      rw [ih hrest, insert?_eq_some hu, List.append_assoc]
      rfl

/-- Rows in no conflict with each other or with the table can be inserted. -/
theorem insertAll_isSome {rs : List ρ} {t : Table ρ Conflict}
    (hrs : rs.Pairwise fun r s => ¬ Conflict r s)
    (ht : ∀ s ∈ t.rows, ∀ r ∈ rs, ¬ Conflict s r) : ∃ t', t.insertAll rs = some t' := by
  induction rs generalizing t with
  | nil => exact ⟨t, rfl⟩
  | cons r rs ih =>
      have hr : ∀ s ∈ t.rows, ¬ Conflict s r := fun s hs => ht s hs r List.mem_cons_self
      obtain ⟨u, hu⟩ : ∃ u, t.insert? r = some u := by
        rw [insert?, dif_pos hr]
        exact ⟨_, rfl⟩
      have hrest : ∀ s ∈ u.rows, ∀ r' ∈ rs, ¬ Conflict s r' := by
        intro s hs r' hr'
        rw [insert?_eq_some hu, List.mem_append, List.mem_singleton] at hs
        rcases hs with hs | rfl
        · exact ht s hs r' (List.mem_cons_of_mem _ hr')
        · exact List.rel_of_pairwise_cons hrs hr'
      obtain ⟨t', ht'⟩ := ih hrs.of_cons hrest
      refine ⟨t', ?_⟩
      rw [insertAll, List.foldlM_cons, hu]
      exact ht'

end Insert

end Table

end SnortOptimizer
