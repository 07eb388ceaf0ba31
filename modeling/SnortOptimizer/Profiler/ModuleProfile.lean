import SnortOptimizer.Profiler.ModuleTree
import SnortOptimizer.Profiler.Report

/-!
# Module profiles (`profiler/time_profiler.cc`, `sql/profiler/parser.go`)

The table that Snort prints of its modules, and how the profiler store reads it: line by line, with
the words of a line as the values of its columns. Values that leave no space in their column run
into the next, and the row is lost.

`moduleTable_stored` says what the parser has for the store after a table: the rows whose values
leave room in their columns, in the order of the table, and no other line of it.
-/

namespace SnortOptimizer.Profiler

open Text

/-! ## Printing -/

/-- A percentage as `std::fixed` writes it with two digits. -/
structure Percent where
  number : NumberText
  places : number.fraction.length = 2
  fits : number.Fits

/-- What the printer gets from the clock and from floating point arithmetic: microseconds, the two
percentages, and the sum of percentages at the end of the table. -/
structure Arithmetic where
  usecs : Int64 → Int64
  callerPct : TimeStats → TimeStats → Percent
  totalPct : TimeStats → TimeStats → Percent
  sumPct : List TimeStats → Percent

def timeFields : List Field :=
  [ { name := "#", width := 5, precision := 0, left := true },
    { name := "module", width := 24, precision := 0, left := false },
    { name := "layer", width := 6, precision := 0, left := false },
    { name := "checks", width := 21, precision := 0, left := false },
    { name := "time(us)", width := 21, precision := 0, left := false },
    { name := "avg/check", width := 21, precision := 1, left := false },
    { name := "%/caller", width := 10, precision := 2, left := false },
    { name := "%/total", width := 9, precision := 2, left := false } ]

def putFields (texts : List (List Char)) : List Char :=
  (List.zipWith Field.put timeFields texts).flatten

section Print

variable (arith : Arithmetic) (root : View)

/-- The middle columns, `print_fn`. -/
def View.numbers (v : View) : List (List Char) :=
  [ natText v.stats.checks.toNat, intText (arith.usecs v.stats.elapsed).toInt,
    intText (arith.usecs v.avgCheck).toInt ]

/-- The row of the root; `summed` are the entries whose percentages have been added up. -/
def rootRow (summed : List TimeStats) (v : View) : List Char :=
  putFields (["--".toList, root.name.text.toList, "--".toList] ++ v.numbers arith ++
    ["--".toList, (arith.sumPct summed).number.text])

/-- The row of another entry. -/
def entryRow (r : ModuleRow) : List Char :=
  putFields ([List.replicate r.layer ' ' ++ natText r.num, r.view.name.text.toList,
    natText r.layer] ++ r.view.numbers arith ++
    [(arith.callerPct r.view.stats r.view.callerStats).number.text,
      (arith.totalPct r.view.stats root.stats).number.text])

/-- Entries are told apart by their names, so one that is named as the root is printed as it. -/
def ModuleRow.IsRoot (r : ModuleRow) : Prop := r.view.name.text = root.name.text

instance (r : ModuleRow) : Decidable (r.IsRoot root) :=
  inferInstanceAs (Decidable (_ = _))

/-- `print_row` for one row after the other. -/
def printRows (summed : List TimeStats) : List ModuleRow → List (List Char)
  | [] => [rootRow arith root summed root]
  | r :: rs =>
      if r.IsRoot root then rootRow arith root summed r.view :: printRows summed rs
      else
        entryRow arith root r ::
          printRows (if r.layer = 1 then summed ++ [r.view.stats] else summed) rs

def tableTitle (cfg : TimeConfig) : String :=
  "module profile" ++ (if cfg.count = 0 then " (all" else " (worst " ++ toString cfg.count) ++
    (if 0 ≤ cfg.maxDepth then ", depth " ++ toString cfg.maxDepth else "") ++
    ((cfg.sort.map fun key => ", sorted by " ++ key.name).getD "") ++ ")"

/-- `StatsTable::sep`. -/
def sepLine : String := String.ofList (List.replicate 50 '-')

/-- The two lines of `StatsTable::header`. -/
def headerLine : String := String.ofList (putFields (timeFields.map fun f => f.name.toList))

def underLine : String :=
  String.ofList (putFields (timeFields.map fun f => List.replicate f.name.length '='))

/-- `print_table`: the lines of the table. -/
def printTable (std : PartialSort) (cfg : TimeConfig) (root : TreeEntry) : List String :=
  [sepLine, tableTitle cfg, headerLine, underLine] ++
    (printRows arith root.view [] (root.rows std cfg 1)).map String.ofList

/-- `print_time_profiler_stats`. -/
def printTimeProfilerStats (std : PartialSort) (cfg : TimeConfig) (root : ProfilerNode) :
    List String :=
  if root.build.children.isEmpty && !root.build.view.stats.isActive then []
  else printTable arith std cfg root.build

end Print

/-! ## Parsing -/

structure ModuleProfileMetric where
  runID : Int
  rank : Int
  module_ : String
  layer : String
  checks : Int
  timeUS : Int
  avgCheck : ℚ
  callerPct : ℚ
  totalPct : ℚ
  rawLine : String
  sourceFile : String

def parseModuleProfileLine (raw : String) (runID : Int) (sourceFile : String) :
    Option ModuleProfileMetric :=
  match fields raw.toList with
  | [f0, f1, f2, f3, f4, f5, f6, f7] => do
      let rank ← parseInt f0
      let checks ← parseInt f3
      let timeUS ← parseInt f4
      let avgCheck ← parseFloat f5
      let callerPct ← parseFloat f6
      let totalPct ← parseFloat f7
      return {
        runID := runID, rank := rank, module_ := String.ofList f1, layer := String.ofList f2
        checks := checks, timeUS := timeUS, avgCheck := avgCheck, callerPct := callerPct
        totalPct := totalPct, rawLine := trimSpace raw, sourceFile := sourceFile }
  | _ => none

/-! ## The texts of the values -/

theorem isWord_numberText (n : NumberText) : IsWord n.text := by
  have hpoint : isSpace '.' = false := by decide
  refine ⟨?_, ?_⟩
  · intro h
    rw [NumberText.text, List.append_eq_nil_iff, List.append_eq_nil_iff] at h
    exact n.whole_ne h.2.1
  · intro c hc
    rw [NumberText.text, List.mem_append, List.mem_append] at hc
    rcases hc with hc | hc | hc
    · rcases n.sign_cases with hsign | hsign | hsign <;> rw [hsign] at hc
      · cases hc
      · rw [List.mem_singleton.mp hc]
        decide
      · rw [List.mem_singleton.mp hc]
        decide
    · exact isSpace_of_isDigit (n.isDigit_whole c hc)
    · split at hc
      · cases hc
      · rcases List.mem_cons.mp hc with rfl | hc
        · exact hpoint
        · exact isSpace_of_isDigit (n.isDigit_fraction c hc)

/-- The numeral of an integer, as a number without a point. -/
def intNumber (n : Int) : NumberText where
  sign := if n < 0 then ['-'] else []
  whole := natText n.natAbs
  fraction := []
  sign_mem := by split <;> decide
  whole_ne := toString_nat_ne_nil _
  digits := by
    intro c hc
    rw [List.append_nil] at hc
    exact isDigit_of_mem_toString hc

theorem intNumber_text (n : Int) : (intNumber n).text = intText n := by
  have htext : (intNumber n).text = (if n < 0 then ['-'] else []) ++ natText n.natAbs := by
    rw [NumberText.text]
    show _ ++ (natText n.natAbs ++ if ([] : List Char) = [] then [] else _) = _
    rw [if_pos rfl, List.append_nil]
    rfl
  rw [htext]
  cases n with
  | ofNat k => rfl
  | negSucc k =>
      rw [if_pos (Int.negSucc_lt_zero k)]
      exact (toString_negSucc k).symm

theorem intNumber_magnitude (n : Int) : (intNumber n).magnitude = n.natAbs := by
  have hmag : (intNumber n).magnitude =
      (Nat.ofDigitChars 10 (natText n.natAbs ++ []) 0 : ℚ) / 10 ^ 0 := rfl
  rw [hmag, List.append_nil, ofDigitChars_natText, pow_zero, div_one]

theorem parseFloat_intText {n : Int} (h : n.natAbs < 2 ^ 64) :
    parseFloat (intText n) = some (n : ℚ) := by
  have hfits : (intNumber n).Fits := by
    rw [NumberText.Fits, intNumber_magnitude]
    exact_mod_cast h.trans_le (two_pow_le_doubleLimit (by decide))
  have hvalue : (intNumber n).value = n := by
    have hsign : (intNumber n).sign = if n < 0 then ['-'] else [] := rfl
    rw [NumberText.value, intNumber_magnitude, hsign, Nat.cast_natAbs]
    rcases lt_or_ge n 0 with hneg | hpos
    · rw [if_pos hneg, if_pos rfl, abs_of_neg hneg, Int.cast_neg, neg_neg]
    · rw [if_neg (not_lt.mpr hpos), if_neg (List.cons_ne_nil _ _).symm, abs_of_nonneg hpos]
  rw [← intNumber_text, parseFloat_text, if_pos hfits, hvalue]

theorem parseFloat_percent (p : Percent) : parseFloat p.number.text = some p.number.value := by
  rw [parseFloat_text, if_pos p.fits]

/-! ## A row -/

section Row

variable (arith : Arithmetic) (root : View)

def ModuleRow.callerText (r : ModuleRow) : List Char :=
  (arith.callerPct r.view.stats r.view.callerStats).number.text

def ModuleRow.totalText (r : ModuleRow) : List Char :=
  (arith.totalPct r.view.stats root.stats).number.text

/-- Every value is narrower than its column, as far as it can be wider, and is within the range of
an `int64`. The name may use the space that the place among the siblings has left. -/
def ModuleRow.Fits (r : ModuleRow) : Prop :=
  (r.layer + (natText r.num).length < 5 ∨ r.view.name.text.toList.length < 24) ∧
    r.layer < 10 ^ 5 ∧ (r.callerText arith).length < 10 ∧ (r.totalText arith root).length < 9 ∧
    r.num < 2 ^ 63 ∧ r.view.stats.checks.toNat < 2 ^ 63

instance (r : ModuleRow) : Decidable (r.Fits arith root) :=
  inferInstanceAs (Decidable (_ ∧ _))

/-- The columns behind the name. -/
def ModuleRow.columns (r : ModuleRow) : List (Nat × List Char) :=
  [(6, natText r.layer), (21, natText r.view.stats.checks.toNat),
    (21, intText (arith.usecs r.view.stats.elapsed).toInt),
    (21, intText (arith.usecs r.view.avgCheck).toInt), (10, r.callerText arith),
    (9, r.totalText arith root)]

def ModuleRow.gaps (r : ModuleRow) : List (Nat × List Char) :=
  (5 - (r.layer + (natText r.num).length) + (24 - r.view.name.text.toList.length),
    r.view.name.text.toList) :: (r.columns arith root).map fun x => (x.1 - x.2.length, x.2)

theorem gapped_spaces (k : Nat) (w : List Char) (rest : List (Nat × List Char)) :
    gapped (List.replicate k ' ' ++ w) rest = List.replicate k ' ' ++ gapped w rest := by
  cases rest with
  | nil => rfl
  | cons x rest =>
      rw [gapped, gapped, List.append_assoc]

theorem entryRow_gapped (r : ModuleRow) :
    entryRow arith root r =
      List.replicate r.layer ' ' ++ gapped (natText r.num) (r.gaps arith root) := by
  have hlength : (List.replicate r.layer ' ' ++ natText r.num).length =
      r.layer + (natText r.num).length := by
    rw [List.length_append, List.length_replicate]
  rw [← gapped_spaces, ModuleRow.gaps, ← hlength]
  exact padRight_append_padLeft 5 (List.replicate r.layer ' ' ++ natText r.num)
    (24, r.view.name.text.toList) (r.columns arith root)

theorem gaps_isWord (r : ModuleRow) : ∀ x ∈ r.gaps arith root, IsWord x.2 := by
  simp only [ModuleRow.gaps, ModuleRow.columns, List.map_cons, List.map_nil, List.forall_mem_cons,
    List.not_mem_nil, false_implies, implies_true, and_true]
  exact ⟨r.view.name.word, isWord_natText _, isWord_natText _, isWord_intText _, isWord_intText _,
    isWord_numberText _, isWord_numberText _⟩

theorem fields_entryRow (r : ModuleRow) :
    fields (entryRow arith root r) = merged (natText r.num) (r.gaps arith root) := by
  rw [entryRow_gapped, fields_spaces]
  exact fields_gapped _ (isWord_natText _) (gaps_isWord arith root r)

/-- Numbers of 64 bits are always narrower than their columns. -/
theorem length_intText_int64 (n : Int64) : (intText n.toInt).length < 21 := by
  have hlow := n.le_toInt
  have hhigh := n.toInt_lt
  have h := @length_intText_lt n.toInt 18
  rw [h]
  omega

theorem moduleGaps_pos_iff (r : ModuleRow) :
    (∀ x ∈ r.gaps arith root, 0 < x.1) ↔
      (r.layer + (natText r.num).length < 5 ∨ r.view.name.text.toList.length < 24) ∧
        r.layer < 10 ^ 5 ∧ (r.callerText arith).length < 10 ∧
        (r.totalText arith root).length < 9 := by
  have hchecks : (natText r.view.stats.checks.toNat).length < 21 := by
    rw [Nat.lt_succ_iff, length_natText_le (by decide)]
    exact r.view.stats.checks.toNat_lt.trans (by decide)
  have htime := length_intText_int64 (arith.usecs r.view.stats.elapsed)
  have havg := length_intText_int64 (arith.usecs r.view.avgCheck)
  have hlayer : (natText r.layer).length < 6 ↔ r.layer < 10 ^ 5 := by
    rw [Nat.lt_succ_iff, length_natText_le (by decide)]
  simp only [ModuleRow.gaps, ModuleRow.columns, List.map_cons, List.map_nil, List.forall_mem_cons,
    List.not_mem_nil, false_implies, implies_true, and_true, Nat.sub_pos_iff_lt,
    Nat.add_pos_iff_pos_or_pos, hchecks, htime, havg, hlayer, true_and]

/-- What is stored of a row. -/
def ModuleRow.metric (runID : Int) (source : String) (r : ModuleRow) : ModuleProfileMetric where
  runID := runID
  rank := r.num
  module_ := r.view.name.text
  layer := toString r.layer
  checks := r.view.stats.checks.toNat
  timeUS := (arith.usecs r.view.stats.elapsed).toInt
  avgCheck := (arith.usecs r.view.avgCheck).toInt
  callerPct := (arith.callerPct r.view.stats r.view.callerStats).number.value
  totalPct := (arith.totalPct r.view.stats root.stats).number.value
  rawLine := trimSpace (String.ofList (entryRow arith root r))
  sourceFile := source

theorem length_moduleFields {raw source : String} {runID : Int} {m : ModuleProfileMetric}
    (h : parseModuleProfileLine raw runID source = some m) : (fields raw.toList).length = 8 := by
  unfold parseModuleProfileLine at h
  split at h
  · next heq => rw [heq]; rfl
  · cases h

/-- **A row is read back exactly if its values fit.** -/
theorem parse_entryRow (runID : Int) (source : String) (r : ModuleRow) :
    parseModuleProfileLine (String.ofList (entryRow arith root r)) runID source =
      if r.Fits arith root then some (r.metric arith root runID source) else none := by
  have hfields := fields_entryRow arith root r
  by_cases hgaps : ∀ x ∈ r.gaps arith root, 0 < x.1
  · have hwords : fields (String.ofList (entryRow arith root r)).toList =
        [natText r.num, r.view.name.text.toList, natText r.layer,
          natText r.view.stats.checks.toNat, intText (arith.usecs r.view.stats.elapsed).toInt,
          intText (arith.usecs r.view.avgCheck).toInt, r.callerText arith,
          r.totalText arith root] := by
      rw [String.toList_ofList, hfields, merged_of_gaps hgaps]
      rfl
    have hint : ∀ n : Int64, parseInt (intText n.toInt) = some n.toInt := fun n =>
      parseInt_intText ⟨n.le_toInt, n.toInt_lt⟩
    have havg : parseFloat (intText (arith.usecs r.view.avgCheck).toInt) =
        some (((arith.usecs r.view.avgCheck).toInt : Int) : ℚ) := by
      have hlow := (arith.usecs r.view.avgCheck).le_toInt
      have hhigh := (arith.usecs r.view.avgCheck).toInt_lt
      exact parseFloat_intText (by omega)
    have hcaller : parseFloat (r.callerText arith) = _ := parseFloat_percent _
    have htotal : parseFloat (r.totalText arith root) = _ := parseFloat_percent _
    have hwidths := (moduleGaps_pos_iff arith root r).mp hgaps
    unfold parseModuleProfileLine
    rw [hwords]
    simp only [hint, havg, hcaller, htotal]
    by_cases hnum : r.num < 2 ^ 63
    · rw [parseInt_natText hnum]
      by_cases hchecks : r.view.stats.checks.toNat < 2 ^ 63
      · have hfits : r.Fits arith root :=
          ⟨hwidths.1, hwidths.2.1, hwidths.2.2.1, hwidths.2.2.2, hnum, hchecks⟩
        rw [parseInt_natText hchecks, if_pos hfits]
        have hlayer : String.ofList (natText r.layer) = toString r.layer := String.ofList_toList
        show some _ = some _
        rw [ModuleRow.metric, String.ofList_toList, hlayer]
      · have hnone : parseInt (natText _) = none :=
          atoi_toString_eq_none (Nat.not_lt.mp hchecks)
        rw [hnone, if_neg fun h => hchecks h.2.2.2.2.2]
        rfl
    · have hnone : parseInt (natText _) = none := atoi_toString_eq_none (Nat.not_lt.mp hnum)
      rw [hnone, if_neg fun h => hnum h.2.2.2.2.1]
      rfl
  · have hnot : ¬ r.Fits arith root := fun h =>
      hgaps ((moduleGaps_pos_iff arith root r).mpr ⟨h.1, h.2.1, h.2.2.1, h.2.2.2.1⟩)
    rw [if_neg hnot]
    cases hparse : parseModuleProfileLine (String.ofList (entryRow arith root r)) runID source with
    | none => rfl
    | some m =>
        have hlength := length_moduleFields hparse
        have hcount : (r.gaps arith root).length + 1 = 8 := rfl
        rw [String.toList_ofList, hfields, ← hcount, length_merged_eq_iff] at hlength
        exact absurd hlength hgaps

/-- Lines that do not begin with a number are no rows. -/
theorem parse_of_head {raw : String} {w : List Char} {rest : List (List Char)}
    (h : fields raw.toList = w :: rest) (hw : parseInt w = none) (runID : Int) (source : String) :
    parseModuleProfileLine raw runID source = none := by
  unfold parseModuleProfileLine
  rw [h]
  split
  · next heq =>
      rw [← (List.cons.inj heq).1, hw]
      rfl
  · rfl

/-- The row of the root begins with dashes. -/
theorem fields_rootRow (summed : List TimeStats) (v : View) :
    ∃ rest, fields (rootRow arith root summed v) = "--".toList :: rest := by
  let columns : List (Nat × List Char) :=
    [(6, "--".toList), (21, natText v.stats.checks.toNat),
      (21, intText (arith.usecs v.stats.elapsed).toInt),
      (21, intText (arith.usecs v.avgCheck).toInt), (10, "--".toList),
      (9, (arith.sumPct summed).number.text)]
  have hdash : IsWord "--".toList := ⟨by decide, List.forall_iff_forall_mem.mp (by decide)⟩
  have hwords : ∀ x ∈ (3 + (24 - root.name.text.toList.length), root.name.text.toList) ::
      columns.map (fun x => (x.1 - x.2.length, x.2)), IsWord x.2 := by
    simp only [columns, List.map_cons, List.map_nil, List.forall_mem_cons, List.not_mem_nil,
      false_implies, implies_true, and_true]
    exact ⟨root.name.word, hdash, isWord_natText _, isWord_intText _, isWord_intText _, hdash,
      isWord_numberText _⟩
  have hrow : rootRow arith root summed v =
      gapped "--".toList ((3 + (24 - root.name.text.toList.length), root.name.text.toList) ::
        columns.map fun x => (x.1 - x.2.length, x.2)) :=
    padRight_append_padLeft 5 "--".toList (24, root.name.text.toList) columns
  refine ⟨merged root.name.text.toList (columns.map fun x => (x.1 - x.2.length, x.2)), ?_⟩
  rw [hrow, fields_gapped _ hdash hwords, Nat.add_comm 3]
  rfl

end Row

/-! ## The lines of the table -/

/-- A line, by the first character of it that is no space. -/
def StartsWith (c : Char) (raw : String) : Prop :=
  ∃ k cs, raw.toList = List.replicate k ' ' ++ c :: cs

theorem trimSpace_front {c : Char} (hc : isSpace c = false) {raw : String}
    (h : StartsWith c raw) : (trimSpace raw).toList.head? = some c := by
  obtain ⟨k, cs, hraw⟩ := h
  have hfront : raw.toList.dropWhile isSpace = c :: cs := by
    rw [hraw, List.dropWhile_append_of_pos, List.dropWhile_cons_of_neg (by simp [hc])]
    intro d hd
    rw [List.eq_of_mem_replicate hd]
    decide
  -- the end of the text is taken off as well, but never its first character
  have hback : ((c :: cs).reverse.dropWhile isSpace).reverse.head? = some c := by
    rw [List.head?_reverse, List.reverse_cons, List.dropWhile_append]
    split
    · rw [List.dropWhile_cons_of_neg (by simp [hc])]
      rfl
    · rw [List.getLast?_concat]
  rw [trimSpace, String.toList_ofList, hfront]
  exact hback

section Table

variable {R : Type} {parseModule : String → Option ModuleProfileMetric}
  {parseRule : String → Option R} {runID : Int} {source : String}

/-- A line of the module table. -/
theorem read_moduleLine {s : ParseState ModuleProfileMetric R}
    (hsection : s.section_ = "module profile") {c : Char} (hc : isSpace c = false)
    (hne : c ≠ 'm' ∧ c ≠ 'r') {raw : String} (h : StartsWith c raw) :
    s.read parseModule parseRule runID source raw =
      { s with modules := s.modules ++ (parseModule raw).toList } := by
  have hhead := trimSpace_front hc h
  have hshown : trimSpace raw ≠ "" := by
    intro hnil
    rw [hnil] at hhead
    cases hhead
  have hmodule : ¬ beginsWith "module profile " (trimSpace raw) = true := by
    intro hbegins
    have hm := beginsWith_head rfl hbegins
    rw [hhead] at hm
    exact hne.1 (Option.some.inj hm)
  have hrule : ¬ beginsWith "rule profile " (trimSpace raw) = true := by
    intro hbegins
    have hr := beginsWith_head rfl hbegins
    rw [hhead] at hr
    exact hne.2 (Option.some.inj hr)
  simp only [ParseState.read, if_neg hshown, if_neg hmodule, if_neg hrule, if_pos hsection]

/-- The lines of the module table, after its title. -/
theorem readAll_moduleLines {s : ParseState ModuleProfileMetric R}
    (hsection : s.section_ = "module profile") {raws : List String}
    (h : ∀ raw ∈ raws, ∃ c, isSpace c = false ∧ (c ≠ 'm' ∧ c ≠ 'r') ∧ StartsWith c raw) :
    s.readAll parseModule parseRule runID source raws =
      { s with modules := s.modules ++ raws.filterMap parseModule } := by
  induction raws generalizing s with
  | nil =>
      rw [List.filterMap_nil, List.append_nil]
      rfl
  | cons raw raws ih =>
      rw [List.forall_mem_cons] at h
      obtain ⟨⟨c, hc, hne, hraw⟩, hrest⟩ := h
      have hnext := ih (s := { s with modules := s.modules ++ (parseModule raw).toList }) hsection
        hrest
      rw [readAll_cons, read_moduleLine hsection hc hne hraw, hnext]
      cases hparse : parseModule raw with
      | none => rw [List.filterMap_cons_none hparse, Option.toList_none, List.append_nil]
      | some m =>
          rw [List.filterMap_cons_some hparse, Option.toList_some]
          simp only [List.append_assoc]
          rfl

/-- A line of dashes stores no module, wherever it stands. -/
theorem read_dashLine (s : ParseState ModuleProfileMetric R) (raw : String)
    (hparse : parseModule raw = none) (h : StartsWith '-' raw)
    (hdash : isSeparator (trimSpace raw) = true) :
    (s.read parseModule parseRule runID source raw).modules = s.modules := by
  have hspace : isSpace '-' = false := by decide
  by_cases hsection : s.section_ = "module profile"
  · rw [read_moduleLine hsection hspace (by decide) h, hparse, Option.toList_none, List.append_nil]
  · unfold ParseState.read
    simp only [if_neg hsection]
    split
    · rfl
    · split
      · rfl
      · split
        · rfl
        · split
          · rfl
          · rw [ParseState.readOther]
            simp only [if_pos hdash]
            split <;> rfl

/-- The title opens the section of the modules. -/
theorem read_tableTitle (s : ParseState ModuleProfileMetric R) (cfg : TimeConfig) :
    s.read parseModule parseRule runID source (tableTitle cfg) =
      s.enterTable "module profile" := by
  obtain ⟨middle, hmiddle⟩ : ∃ middle,
      (tableTitle cfg).toList = "module profile ".toList ++ (middle ++ [')']) := by
    have hfront : ∃ more,
        (if cfg.count = 0 then " (all" else " (worst " ++ toString cfg.count).toList =
          ' ' :: more := by
      split
      · exact ⟨_, rfl⟩
      · rw [String.toList_append]
        exact ⟨_, rfl⟩
    obtain ⟨more, hmore⟩ := hfront
    have hparen : ")".toList = [')'] := rfl
    have htitle : "module profile ".toList = "module profile".toList ++ [' '] := by decide
    refine ⟨more ++
      ((if 0 ≤ cfg.maxDepth then ", depth " ++ toString cfg.maxDepth else "").toList ++
        ((cfg.sort.map fun key => ", sorted by " ++ key.name).getD "").toList), ?_⟩
    simp only [tableTitle, String.toList_append, hmore, hparen, htitle, List.append_assoc,
      List.cons_append, List.nil_append]
  have htrim : trimSpace (tableTitle cfg) = tableTitle cfg := by
    rw [← @String.ofList_toList (tableTitle cfg)]
    apply trimSpace_of_ends
    · intro c hc
      rw [hmiddle] at hc
      cases hc
      decide
    · intro c hc
      rw [hmiddle, ← List.append_assoc, List.getLast?_concat] at hc
      cases hc
      decide
  have hbegins : beginsWith "module profile " (tableTitle cfg) = true := by
    rw [beginsWith, hmiddle]
    exact List.isPrefixOf_iff_prefix.mpr (List.prefix_append _ _)
  have hshown : tableTitle cfg ≠ "" := by
    intro hnil
    rw [hnil] at hbegins
    cases hbegins
  simp only [ParseState.read, htrim, if_neg hshown, if_pos hbegins]

end Table

section Rows

variable (arith : Arithmetic) (root : View)

/-- The row is one of a module, and its values fit. -/
def ModuleRow.Stored (r : ModuleRow) : Prop := ¬ r.IsRoot root ∧ r.Fits arith root

instance (r : ModuleRow) : Decidable (r.Stored arith root) := inferInstanceAs (Decidable (_ ∧ _))

theorem parse_rootRow (summed : List TimeStats) (v : View) (runID : Int) (source : String) :
    parseModuleProfileLine (String.ofList (rootRow arith root summed v)) runID source = none := by
  obtain ⟨rest, hrest⟩ := fields_rootRow arith root summed v
  have hfields : fields (String.ofList (rootRow arith root summed v)).toList =
      "--".toList :: rest := by
    rw [String.toList_ofList, hrest]
  exact parse_of_head hfields (by decide) runID source

theorem filterMap_line {raw : String} {runID : Int} {source : String}
    (h : parseModuleProfileLine raw runID source = none) (raws : List String) :
    (raw :: raws).filterMap (parseModuleProfileLine · runID source) =
      raws.filterMap (parseModuleProfileLine · runID source) :=
  List.filterMap_cons_none h

theorem filterMap_printRows (runID : Int) (source : String) (summed : List TimeStats)
    (rows : List ModuleRow) :
    ((printRows arith root summed rows).map String.ofList).filterMap
        (parseModuleProfileLine · runID source) =
      (rows.filter (ModuleRow.Stored arith root)).map
        (ModuleRow.metric arith root runID source) := by
  induction rows generalizing summed with
  | nil =>
      have hnone := parse_rootRow arith root summed root runID source
      rw [printRows, List.map_singleton, filterMap_line hnone]
      rfl
  | cons r rs ih =>
      rw [printRows]
      split
      · next hroot =>
          have hnone := parse_rootRow arith root summed r.view runID source
          rw [List.map_cons, filterMap_line hnone, ih, List.filter_cons,
            if_neg fun h => (of_decide_eq_true h).1 hroot]
      · next hroot =>
          have hrow := parse_entryRow arith root runID source r
          by_cases hfits : r.Fits arith root
          · rw [if_pos hfits] at hrow
            have htake : ∀ raws, (String.ofList (entryRow arith root r) :: raws).filterMap
                (parseModuleProfileLine · runID source) =
                r.metric arith root runID source ::
                  raws.filterMap (parseModuleProfileLine · runID source) :=
              fun raws => List.filterMap_cons_some hrow
            rw [List.map_cons, htake, ih, List.filter_cons, if_pos (decide_eq_true ⟨hroot, hfits⟩)]
            rfl
          · rw [if_neg hfits] at hrow
            rw [List.map_cons, filterMap_line hrow, ih, List.filter_cons,
              if_neg fun h => hfits (of_decide_eq_true h).2]

theorem gapped_cons (c : Char) (cs : List Char) (rest : List (Nat × List Char)) :
    ∃ more, gapped (c :: cs) rest = c :: more := by
  cases rest with
  | nil => exact ⟨cs, rfl⟩
  | cons x rest => exact ⟨_, rfl⟩

theorem startsWith_rootRow (summed : List TimeStats) (v : View) :
    StartsWith '-' (String.ofList (rootRow arith root summed v)) :=
  ⟨0, _, by rw [String.toList_ofList]; rfl⟩

theorem startsWith_entryRow (r : ModuleRow) :
    ∃ c, c.isDigit = true ∧ StartsWith c (String.ofList (entryRow arith root r)) := by
  obtain ⟨c, cs, hnum⟩ := List.exists_cons_of_ne_nil (isWord_natText r.num).ne_nil
  have hdigit : c.isDigit = true :=
    isDigit_of_mem_toString (n := r.num) (by
      have hmem : c ∈ natText r.num := hnum ▸ List.mem_cons_self
      exact hmem)
  obtain ⟨more, hmore⟩ := gapped_cons c cs (r.gaps arith root)
  refine ⟨c, hdigit, r.layer, more, ?_⟩
  rw [String.toList_ofList, entryRow_gapped, hnum, hmore]

theorem startsWith_printRows (summed : List TimeStats) (rows : List ModuleRow) :
    ∀ raw ∈ (printRows arith root summed rows).map String.ofList,
      ∃ c, isSpace c = false ∧ (c ≠ 'm' ∧ c ≠ 'r') ∧ StartsWith c raw := by
  have hroot : ∀ summed v, ∃ c, isSpace c = false ∧ (c ≠ 'm' ∧ c ≠ 'r') ∧
      StartsWith c (String.ofList (rootRow arith root summed v)) := fun summed v =>
    ⟨'-', by decide, by decide, startsWith_rootRow arith root summed v⟩
  induction rows generalizing summed with
  | nil =>
      intro raw hraw
      rw [printRows, List.map_singleton, List.mem_singleton] at hraw
      rw [hraw]
      exact hroot summed root
  | cons r rs ih =>
      rw [printRows]
      split
      · rw [List.map_cons, List.forall_mem_cons]
        exact ⟨hroot summed r.view, ih summed⟩
      · rw [List.map_cons, List.forall_mem_cons]
        refine ⟨?_, ih _⟩
        obtain ⟨c, hdigit, hstarts⟩ := startsWith_entryRow arith root r
        refine ⟨c, isSpace_of_isDigit hdigit, ⟨?_, ?_⟩, hstarts⟩
        · rintro rfl
          cases hdigit
        · rintro rfl
          cases hdigit

/-- A line of dashes. -/
theorem dashes_line (n : Nat) :
    fields (String.ofList (List.replicate (n + 1) '-')).toList = [List.replicate (n + 1) '-'] ∧
      StartsWith '-' (String.ofList (List.replicate (n + 1) '-')) ∧
      isSeparator (trimSpace (String.ofList (List.replicate (n + 1) '-'))) = true := by
  have hdash : isSpace '-' = false := by decide
  have hmem : ∀ c ∈ List.replicate (n + 1) '-', c = '-' := fun c hc => List.eq_of_mem_replicate hc
  have hword : IsWord (List.replicate (n + 1) '-') :=
    ⟨List.cons_ne_nil _ _, fun c hc => by rw [hmem c hc]; exact hdash⟩
  have htrim : trimSpace (String.ofList (List.replicate (n + 1) '-')) =
      String.ofList (List.replicate (n + 1) '-') := by
    apply trimSpace_of_ends
    · intro c hc
      rw [hmem c (List.mem_of_mem_head? hc)]
      exact hdash
    · intro c hc
      rw [hmem c (List.mem_of_getLast? hc)]
      exact hdash
  refine ⟨?_, ⟨0, List.replicate n '-', ?_⟩, ?_⟩
  · rw [String.toList_ofList]
    exact fields_word hword
  · rw [String.toList_ofList]
    rfl
  · rw [htrim, isSeparator_iff, String.toList_ofList]
    exact hmem

/-- A line of the header, by its first word. -/
theorem header_line {c : Char} (hc : isSpace c = false) (texts : List (List Char)) :
    (∃ rest, fields (String.ofList (putFields ([c] :: texts))).toList = [c] :: rest) ∧
      StartsWith c (String.ofList (putFields ([c] :: texts))) := by
  have hword : IsWord [c] := ⟨List.cons_ne_nil _ _, by simpa using hc⟩
  have hline : (String.ofList (putFields ([c] :: texts))).toList =
      [c] ++ ' ' :: (List.replicate 3 ' ' ++
        (List.zipWith Field.put timeFields.tail texts).flatten) :=
    String.toList_ofList
  exact ⟨⟨_, by rw [hline, fields_word_space hword]⟩, 0, _, hline⟩

/-- **What is stored of a table**: its rows, as far as they can be read. -/
theorem readAll_printTable {R : Type} {parseRule : String → Option R}
    (s : ParseState ModuleProfileMetric R) (runID : Int) (source : String) (std : PartialSort)
    (cfg : TimeConfig) (tree : TreeEntry) :
    (s.readAll (parseModuleProfileLine · runID source) parseRule runID source
        (printTable arith std cfg tree)).modules =
      s.modules ++ ((tree.rows std cfg 1).filter (ModuleRow.Stored arith tree.view)).map
        (ModuleRow.metric arith tree.view runID source) := by
  obtain ⟨hsep, hsepHead, hseparator⟩ := dashes_line 49
  obtain ⟨⟨_, hheader⟩, hhead⟩ :=
    header_line (c := '#') (by decide) (timeFields.tail.map fun f => f.name.toList)
  obtain ⟨⟨_, hunder⟩, hunderHead⟩ :=
    header_line (c := '=') (by decide)
      (timeFields.tail.map fun f => List.replicate f.name.length '=')
  have hnoSep : parseModuleProfileLine sepLine runID source = none :=
    parse_of_head hsep (by decide) runID source
  have hnoHeader : parseModuleProfileLine headerLine runID source = none :=
    parse_of_head hheader (by decide) runID source
  have hnoUnder : parseModuleProfileLine underLine runID source = none :=
    parse_of_head hunder (by decide) runID source
  have hbody : ∀ raw ∈ headerLine :: underLine ::
      (printRows arith tree.view [] (tree.rows std cfg 1)).map String.ofList,
      ∃ c, isSpace c = false ∧ (c ≠ 'm' ∧ c ≠ 'r') ∧ StartsWith c raw := by
    rw [List.forall_mem_cons, List.forall_mem_cons]
    refine ⟨⟨'#', by decide, by decide, hhead⟩, ⟨'=', by decide, by decide, hunderHead⟩, ?_⟩
    exact startsWith_printRows arith tree.view [] (tree.rows std cfg 1)
  have hrows : (headerLine :: underLine ::
      (printRows arith tree.view [] (tree.rows std cfg 1)).map String.ofList).filterMap
        (parseModuleProfileLine · runID source) =
      ((tree.rows std cfg 1).filter (ModuleRow.Stored arith tree.view)).map
        (ModuleRow.metric arith tree.view runID source) := by
    rw [filterMap_line hnoHeader, filterMap_line hnoUnder, filterMap_printRows]
  have hlast : (s.read (parseModuleProfileLine · runID source) parseRule runID source
      sepLine).modules = s.modules :=
    read_dashLine s sepLine hnoSep hsepHead hseparator
  rw [printTable, List.cons_append, List.cons_append, List.cons_append, List.cons_append,
    List.nil_append, readAll_cons, readAll_cons, read_tableTitle, readAll_moduleLines rfl hbody,
    hrows, ParseState.enterTable, hlast]

end Rows

/-- **What the parser has of a profile**, for the store to insert: the rows of the table whose
values fit, in the order of the table. With no limits every active module that only active ones call
is a row of it exactly once, with its layer and the times of its caller; a module below an inactive
one is no row (`ProfilerNode.activeBelow`). With limits no row is below the depth, and of the
modules that one other calls those are listed that come first by what the table is sorted by. -/
theorem moduleTable_stored (arith : Arithmetic) (std : PartialSort) (cfg : TimeConfig)
    (root : ProfilerNode) {R : Type} (parseRule : String → Option R)
    (s : ParseState ModuleProfileMetric R) (runID : Int) (source : String) :
    (s.readAll (parseModuleProfileLine · runID source) parseRule runID source
        (printTimeProfilerStats arith std cfg root)).modules =
      s.modules ++ ((root.build.rows std cfg 1).filter
        (ModuleRow.Stored arith root.build.view)).map
          (ModuleRow.metric arith root.build.view runID source) ∧
    (cfg.count = 0 → cfg.maxDepth < 0 →
      ((root.build.rows std cfg 1).map ModuleRow.place).Perm (root.activeBelow 1)) ∧
    (∀ r ∈ root.build.rows std cfg 1, 1 ≤ r.layer ∧ (0 ≤ cfg.maxDepth → r.layer ≤ cfg.maxDepth)) ∧
    ∀ (e : TreeEntry) (layer : Nat), (0 ≤ cfg.maxDepth → layer ≤ cfg.maxDepth) →
      ∃ listed omitted, ChildRows std cfg e layer listed omitted := by
  refine ⟨?_, fun hcount hdepth => rows_perm std cfg hcount hdepth .zero 1 root,
    layer_of_mem_rows std cfg 1 root.build, fun e layer hdepth => rows_children std cfg e hdepth⟩
  rw [printTimeProfilerStats]
  split
  · next hempty =>
      have hchildren : root.build.children = [] :=
        List.isEmpty_iff.mp (Bool.and_eq_true_iff.mp hempty).1
      rw [rows_of_children_nil std cfg hchildren, readAll_nil, List.filter_nil, List.map_nil,
        List.append_nil]
  · exact readAll_printTable arith s runID source std cfg root.build

end SnortOptimizer.Profiler
