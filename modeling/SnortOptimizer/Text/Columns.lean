import SnortOptimizer.Text.Basic

/-!
# Columns

A table may be written with a width for each column and nothing between the columns, and read back
by splitting its lines at white space. The spaces a column is padded with are then all that keeps it
apart from its neighbour: a value as wide as its column runs into the one before.

A line is seen here as a first word and further words, each with the number of spaces before it.
-/

namespace SnortOptimizer.Text

/-- `strings.Fields`: what is left between runs of white space. -/
def fields (s : List Char) : List (List Char) := (s.splitOnP isSpace).filter (· ≠ [])

def padLeft (width : Nat) (s : List Char) : List Char :=
  List.replicate (width - s.length) ' ' ++ s

def padRight (width : Nat) (s : List Char) : List Char :=
  s ++ List.replicate (width - s.length) ' '

/-- A text that `fields` keeps in one piece. -/
structure IsWord (w : List Char) : Prop where
  ne_nil : w ≠ []
  solid : ∀ c ∈ w, isSpace c = false

theorem isWord_singleton {c : Char} (hc : isSpace c = false) : IsWord [c] := by
  refine ⟨List.cons_ne_nil c [], ?_⟩
  intro d hd
  rw [List.mem_singleton.mp hd]
  exact hc

theorem IsWord.append {w v : List Char} (hw : IsWord w) (hv : IsWord v) : IsWord (w ++ v) := by
  refine ⟨List.append_ne_nil_of_left_ne_nil hw.ne_nil v, ?_⟩
  intro c hc
  rcases List.mem_append.mp hc with hc | hc
  · exact hw.solid c hc
  · exact hv.solid c hc

theorem isWord_of_digits {w : List Char} (hne : w ≠ []) (h : ∀ c ∈ w, c.isDigit = true) :
    IsWord w :=
  ⟨hne, fun c hc => isSpace_of_isDigit (h c hc)⟩

theorem isWord_toString (n : Nat) : IsWord (toString n).toList :=
  isWord_of_digits (toString_nat_ne_nil n) fun _ hc => isDigit_of_mem_toString hc

/-! ## Lines -/

/-- A line of words with the gaps before them. -/
def gapped (w : List Char) : List (Nat × List Char) → List Char
  | [] => w
  | (gap, v) :: rest => w ++ (List.replicate gap ' ' ++ gapped v rest)

/-- The words after the ones without a gap have run into each other. -/
def merged (w : List Char) : List (Nat × List Char) → List (List Char)
  | [] => [w]
  | (0, v) :: rest => merged (w ++ v) rest
  | (_ + 1, v) :: rest => w :: merged v rest

theorem fields_word {w : List Char} (h : IsWord w) : fields w = [w] := by
  rw [fields, List.splitOnP_eq_singleton h.solid]
  simp [h.ne_nil]

theorem fields_space (s : List Char) : fields (' ' :: s) = fields s := by
  have hspace : isSpace ' ' = true := by decide
  rw [fields, List.splitOnP_cons_eq_if_modifyHead, if_pos hspace]
  simp [fields]

theorem fields_spaces (n : Nat) (s : List Char) :
    fields (List.replicate n ' ' ++ s) = fields s := by
  induction n with
  | zero => rfl
  | succ n ih =>
      rw [List.replicate_succ, List.cons_append, fields_space]
      exact ih

theorem fields_word_space {w : List Char} (h : IsWord w) (s : List Char) :
    fields (w ++ ' ' :: s) = w :: fields s := by
  have hspace : isSpace ' ' = true := by decide
  rw [fields, List.splitOnP_append_cons _ _ hspace, List.splitOnP_eq_singleton h.solid]
  simp [fields, h.ne_nil]

theorem gapped_zero (w v : List Char) (rest : List (Nat × List Char)) :
    gapped w ((0, v) :: rest) = gapped (w ++ v) rest := by
  cases rest with
  | nil => rfl
  | cons x rest =>
      show w ++ (v ++ _) = (w ++ v) ++ _
      rw [List.append_assoc]

/-- **Reading a line back**: words without a gap between them come back as one. -/
theorem fields_gapped {w : List Char} (rest : List (Nat × List Char)) (hw : IsWord w)
    (hrest : ∀ x ∈ rest, IsWord x.2) : fields (gapped w rest) = merged w rest := by
  induction rest generalizing w with
  | nil => exact fields_word hw
  | cons x rest ih =>
      obtain ⟨gap, v⟩ := x
      obtain ⟨hv, hwords⟩ := List.forall_mem_cons.mp hrest
      cases gap with
      | zero =>
          rw [gapped_zero]
          exact ih (hw.append hv) hwords
      | succ n =>
          rw [gapped, List.replicate_succ, List.cons_append, fields_word_space hw, fields_spaces,
            ih hv hwords]
          rfl

theorem length_merged (w : List Char) (rest : List (Nat × List Char)) :
    (merged w rest).length = rest.countP (fun x => 0 < x.1) + 1 := by
  induction rest generalizing w with
  | nil => rfl
  | cons x rest ih =>
      obtain ⟨gap, v⟩ := x
      cases gap with
      | zero => simpa [merged] using ih (w ++ v)
      | succ n => simpa [merged] using ih v

/-- Exactly the lines with a gap everywhere have as many fields as words. -/
theorem length_merged_eq_iff (w : List Char) (rest : List (Nat × List Char)) :
    (merged w rest).length = rest.length + 1 ↔ ∀ x ∈ rest, 0 < x.1 := by
  rw [length_merged, Nat.add_right_cancel_iff, List.countP_eq_length]
  simp

theorem merged_of_gaps {w : List Char} {rest : List (Nat × List Char)} (h : ∀ x ∈ rest, 0 < x.1) :
    merged w rest = w :: rest.map Prod.snd := by
  induction rest generalizing w with
  | nil => rfl
  | cons x rest ih =>
      obtain ⟨gap, v⟩ := x
      obtain ⟨hgap, hgaps⟩ := List.forall_mem_cons.mp h
      cases gap with
      | zero => exact absurd hgap (Nat.lt_irrefl 0)
      | succ n =>
          rw [merged, ih hgaps]
          rfl

/-! ## Columns of a line -/

/-- Columns aligned to the right. -/
theorem append_padLeft (w : List Char) (cols : List (Nat × List Char)) :
    (w ++ cols.flatMap fun x => padLeft x.1 x.2) =
      gapped w (cols.map fun x => (x.1 - x.2.length, x.2)) := by
  induction cols generalizing w with
  | nil => exact List.append_nil w
  | cons x cols ih =>
      rw [List.flatMap_cons, padLeft, List.append_assoc, ih x.2]
      rfl

/-- A first column aligned to the left: its padding adds to that of the second. -/
theorem padRight_append_padLeft (width : Nat) (w : List Char) (x : Nat × List Char)
    (cols : List (Nat × List Char)) :
    (padRight width w ++ (x :: cols).flatMap fun x => padLeft x.1 x.2) =
      gapped w ((width - w.length + (x.1 - x.2.length), x.2) ::
        cols.map fun x => (x.1 - x.2.length, x.2)) := by
  rw [List.flatMap_cons, padRight, padLeft, List.append_assoc, List.append_assoc,
    append_padLeft, ← List.append_assoc (List.replicate _ ' '), List.replicate_append_replicate]
  rfl

end SnortOptimizer.Text
