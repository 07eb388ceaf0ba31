import SnortOptimizer.Number.ParseFloat
import SnortOptimizer.Text.Columns
import Mathlib.Algebra.Order.Field.Rat
import Mathlib.Tactic.NormNum

/-!
# Rule profiles (`profiler/table_view.cc`, `sql/profiler/parser.go`)

Snort prints one line per rule into a table with fixed widths and no separators; the profiler store
reads the lines by splitting them at white space and takes only those with 14 fields. The two agree
on the lines whose values are narrower than their columns, and on no other
(`ruleProfile_survives_iff`).
-/

namespace SnortOptimizer.Profiler

open Text
open Number (nearest64 takeSign IsDecimal)

/-! ## Printing -/

/-- `StatsTable::Field`; a field is aligned to the right unless its flags say `left`. -/
structure Field where
  name : String
  width : Nat
  precision : Nat
  left : Bool

def ruleFields : List Field :=
  [ { name := "#", width := 5, precision := 0, left := true },
    { name := "gid", width := 6, precision := 0, left := false },
    { name := "sid", width := 6, precision := 0, left := false },
    { name := "rev", width := 4, precision := 0, left := false },
    { name := "checks", width := 10, precision := 0, left := false },
    { name := "matches", width := 8, precision := 0, left := false },
    { name := "alerts", width := 7, precision := 0, left := false },
    { name := "time (us)", width := 10, precision := 0, left := false },
    { name := "avg/check", width := 10, precision := 1, left := false },
    { name := "avg/match", width := 10, precision := 1, left := false },
    { name := "avg/non-match", width := 14, precision := 1, left := false },
    { name := "timeouts", width := 9, precision := 0, left := false },
    { name := "suspends", width := 9, precision := 0, left := false },
    { name := "rule_time (%)", width := 14, precision := 5, left := false } ]

/-- Numbers from here on are rounded to infinity, and not held by a double. -/
def doubleLimit : Nat := 2 ^ 1024 - 2 ^ 970

/-- A finite double, as far as `std::fixed` with five digits shows it. -/
structure Fixed5 where
  negative : Bool
  units : Nat                      -- of 0.00001
  finite : units < 10 ^ 5 * doubleLimit

/-- What `print_single_entry` prints of a rule. The averages are integers, so that their precision
has no effect. -/
structure RuleView where
  rank : UInt32
  gid : UInt32
  sid : UInt32
  rev : UInt32
  checks : UInt64
  matches_ : UInt64
  alerts : UInt64
  timeUS : Int64
  avgCheck : Int64
  avgMatch : Int64
  avgNoMatch : Int64
  timeouts : UInt64
  suspends : UInt64
  ruleTime : Fixed5

def natText (n : Nat) : List Char := (toString n).toList

def intText (n : Int) : List Char := (toString n).toList

def Fixed5.text (x : Fixed5) : List Char :=
  (if x.negative then ['-'] else []) ++ (natText (x.units / 10 ^ 5) ++ '.' ::
    (List.replicate (5 - (natText (x.units % 10 ^ 5)).length) '0' ++ natText (x.units % 10 ^ 5)))

/-- The values in the order they are printed. -/
def RuleView.texts (v : RuleView) : List (List Char) :=
  [ natText v.rank.toNat, natText v.gid.toNat, natText v.sid.toNat, natText v.rev.toNat,
    natText v.checks.toNat, natText v.matches_.toNat, natText v.alerts.toNat,
    intText v.timeUS.toInt, intText v.avgCheck.toInt, intText v.avgMatch.toInt,
    intText v.avgNoMatch.toInt, natText v.timeouts.toNat, natText v.suspends.toNat,
    v.ruleTime.text ]

/-- `StatsTable::format` and the output of a value. -/
def Field.put (field : Field) (text : List Char) : List Char :=
  if field.left then padRight field.width text else padLeft field.width text

/-- `print_single_entry`, without the line feed at its end. -/
def printSingleEntry (v : RuleView) : String :=
  String.ofList (List.zipWith Field.put ruleFields v.texts).flatten

/-! ## Parsing -/

structure RuleProfilerMetric where
  runID : Int
  gid : Int
  sid : Int
  rev : Int
  checks : Int
  matches_ : Int
  alerts : Int
  timeUS : Int
  avgCheck : ℚ
  avgMatch : ℚ
  avgNonMatch : ℚ
  timeouts : Int
  suspends : Int
  ruleTimePct : ℚ
  rawLine : String
  sourceFile : String

/-- `strconv.ParseInt` in base 10 with 64 bits. -/
def parseInt (input : List Char) : Option Int := atoi input

/-- What `ParseInt` returns beside its error: the nearest number if the value is out of range, 0 if
there is no number at all. -/
def mustInt (input : List Char) : Int :=
  match atoi input with
  | some v => v
  | none =>
      let digits := if input.head? = some '-' ∨ input.head? = some '+' then input.tail else input
      if digits = [] ∨ digits.any (!·.isDigit) then 0
      else if input.head? = some '-' then -2 ^ 63 else 2 ^ 63 - 1

/-- `strconv.ParseFloat` on texts with digits and a point only, up to rounding
(`parseFloat_rounded`). What a double cannot hold is an error. -/
def parseFloat (input : List Char) : Option ℚ :=
  let body := if input.head? = some '-' ∨ input.head? = some '+' then input.tail else input
  let whole := body.takeWhile Char.isDigit
  let rest := body.dropWhile Char.isDigit
  let fraction := rest.tail
  if (whole = [] ∧ fraction = []) ∨ ¬ (rest = [] ∨ rest.head? = some '.') ∨
      fraction.any (!·.isDigit) then none
  else
    let value : ℚ := Nat.ofDigitChars 10 (whole ++ fraction) 0 / 10 ^ fraction.length
    if value < doubleLimit then some (if input.head? = some '-' then -value else value)
    else none

def parseRuleProfileLine (raw : String) (runID : Int) (sourceFile : String) :
    Option RuleProfilerMetric :=
  match fields raw.toList with
  | [f0, f1, f2, f3, f4, f5, f6, f7, f8, f9, f10, f11, f12, f13] => do
      let _ ← parseInt f0
      let gid ← parseInt f1
      let sid ← parseInt f2
      let rev ← parseInt f3
      let checks ← parseInt f4
      let matches_ ← parseInt f5
      let alerts ← parseInt f6
      let timeUS ← parseInt f7
      let _ ← parseInt f8
      let _ ← parseInt f9
      let _ ← parseInt f10
      let timeouts ← parseInt f11
      let ruleTimePct ← parseFloat f13
      return {
        runID := runID, gid := gid, sid := sid, rev := rev, checks := checks
        matches_ := matches_, alerts := alerts, timeUS := timeUS
        avgCheck := (parseFloat f8).getD 0, avgMatch := (parseFloat f9).getD 0
        avgNonMatch := (parseFloat f10).getD 0, timeouts := timeouts, suspends := mustInt f12
        ruleTimePct := ruleTimePct, rawLine := trimSpace raw, sourceFile := sourceFile }
  | _ => none

/-- The metric has the numbers of the row. -/
structure RuleProfilerMetric.Of (m : RuleProfilerMetric) (v : RuleView) : Prop where
  gid : m.gid = v.gid.toNat
  sid : m.sid = v.sid.toNat
  rev : m.rev = v.rev.toNat
  checks : m.checks = v.checks.toNat
  matches_ : m.matches_ = v.matches_.toNat
  alerts : m.alerts = v.alerts.toNat
  timeUS : m.timeUS = v.timeUS.toInt
  timeouts : m.timeouts = v.timeouts.toNat
  suspends : m.suspends = v.suspends.toNat

/-! ## The texts of the values -/

theorem isWord_natText (n : Nat) : IsWord (natText n) := isWord_toString n

theorem isWord_intText (n : Int) : IsWord (intText n) := by
  cases n with
  | ofNat k => exact isWord_natText k
  | negSucc k =>
      have hminus : IsWord ['-'] := isWord_singleton (by decide)
      have htext : intText (Int.negSucc k) = ['-'] ++ natText (k + 1) := toString_negSucc k
      rw [htext]
      exact hminus.append (isWord_natText (k + 1))

/-- The digits after the point. -/
def Fixed5.fraction (x : Fixed5) : List Char :=
  List.replicate (5 - (natText (x.units % 10 ^ 5)).length) '0' ++ natText (x.units % 10 ^ 5)

theorem Fixed5.fraction_digit (x : Fixed5) : ∀ c ∈ x.fraction, c.isDigit = true := by
  intro c hc
  rcases List.mem_append.mp hc with hc | hc
  · rw [List.eq_of_mem_replicate hc]
    decide
  · exact isDigit_of_mem_toString hc

theorem length_natText_le {n k : Nat} (hk : 0 < k) : (natText n).length ≤ k ↔ n < 10 ^ k := by
  rw [natText, Nat.toString_eq_ofList_toDigits, String.toList_ofList]
  exact Nat.length_toDigits_le_iff (by decide) hk

theorem Fixed5.length_fraction (x : Fixed5) : x.fraction.length = 5 := by
  have hle : (natText (x.units % 10 ^ 5)).length ≤ 5 := by
    rw [length_natText_le (by decide)]
    exact Nat.mod_lt _ (by decide)
  rw [Fixed5.fraction, List.length_append, List.length_replicate]
  omega

theorem Fixed5.text_eq (x : Fixed5) :
    x.text =
      (if x.negative then ['-'] else []) ++ (natText (x.units / 10 ^ 5) ++ '.' :: x.fraction) :=
  rfl

theorem isWord_fixed5 (x : Fixed5) : IsWord x.text := by
  have hpoint : IsWord ['.'] := isWord_singleton (by decide)
  have hminus : IsWord ['-'] := isWord_singleton (by decide)
  have hne : x.fraction ≠ [] := by
    intro hnil
    have hlength := x.length_fraction
    rw [hnil] at hlength
    cases hlength
  have hnumber : IsWord (natText (x.units / 10 ^ 5) ++ '.' :: x.fraction) :=
    (isWord_natText _).append (hpoint.append (isWord_of_digits hne x.fraction_digit))
  rw [Fixed5.text_eq]
  split
  · exact hminus.append hnumber
  · exact hnumber

/-- A number has fewer digits than its column is wide. -/
theorem length_natText_lt {n width : Nat} :
    (natText n).length < width + 2 ↔ n < 10 ^ (width + 1) := by
  rw [Nat.lt_succ_iff, length_natText_le (Nat.succ_pos width)]

theorem length_intText_lt {n : Int} {width : Nat} :
    (intText n).length < width + 3 ↔ -10 ^ (width + 1) < n ∧ n < 10 ^ (width + 2) := by
  have hpos : ∀ k, (0 : Int) < 10 ^ k := fun k => Int.pow_pos (by decide)
  cases n with
  | ofNat k =>
      have htext : intText (Int.ofNat k) = natText k := rfl
      rw [htext, length_natText_lt]
      constructor
      · intro h
        have hk : (k : Int) < 10 ^ (width + 2) := by exact_mod_cast h
        have hneg := hpos (width + 1)
        exact ⟨by simp only [Int.ofNat_eq_natCast]; omega, hk⟩
      · rintro ⟨_, hk⟩
        have hk : (k : Int) < 10 ^ (width + 2) := hk
        exact_mod_cast hk
  | negSucc k =>
      have htext : intText (Int.negSucc k) = '-' :: natText (k + 1) := toString_negSucc k
      rw [htext, List.length_cons, Nat.add_lt_add_iff_right, length_natText_lt]
      constructor
      · intro h
        have hk : ((k + 1 : Nat) : Int) < 10 ^ (width + 1) := by exact_mod_cast h
        have hlarge := hpos (width + 2)
        rw [Int.negSucc_eq]
        push_cast at hk
        exact ⟨by omega, by omega⟩
      · rintro ⟨hk, _⟩
        rw [Int.negSucc_eq] at hk
        have hk : ((k + 1 : Nat) : Int) < 10 ^ (width + 1) := by
          push_cast
          omega
        exact_mod_cast hk

theorem length_fixed5_lt {x : Fixed5} :
    x.text.length < 14 ↔ x.units < if x.negative then 10 ^ 11 else 10 ^ 12 := by
  rw [Fixed5.text_eq, List.length_append, List.length_append, List.length_cons, x.length_fraction]
  split
  · have hwhole : (natText (x.units / 10 ^ 5)).length ≤ 6 ↔ x.units / 10 ^ 5 < 10 ^ 6 :=
      length_natText_le (by decide)
    rw [List.length_singleton]
    omega
  · have hwhole : (natText (x.units / 10 ^ 5)).length ≤ 7 ↔ x.units / 10 ^ 5 < 10 ^ 7 :=
      length_natText_le (by decide)
    rw [List.length_nil]
    omega

/-! ## The gaps between the columns -/

/-- All values but the first are narrower than their columns; the second may use the space the first
has left. -/
structure RuleView.Fits (v : RuleView) : Prop where
  gid : v.rank.toNat < 10 ^ 4 ∨ v.gid.toNat < 10 ^ 5
  sid : v.sid.toNat < 10 ^ 5
  rev : v.rev.toNat < 10 ^ 3
  checks : v.checks.toNat < 10 ^ 9
  matches_ : v.matches_.toNat < 10 ^ 7
  alerts : v.alerts.toNat < 10 ^ 6
  timeUS : -10 ^ 8 < v.timeUS.toInt ∧ v.timeUS.toInt < 10 ^ 9
  avgCheck : -10 ^ 8 < v.avgCheck.toInt ∧ v.avgCheck.toInt < 10 ^ 9
  avgMatch : -10 ^ 8 < v.avgMatch.toInt ∧ v.avgMatch.toInt < 10 ^ 9
  avgNoMatch : -10 ^ 12 < v.avgNoMatch.toInt ∧ v.avgNoMatch.toInt < 10 ^ 13
  timeouts : v.timeouts.toNat < 10 ^ 8
  suspends : v.suspends.toNat < 10 ^ 8
  ruleTime : v.ruleTime.units < if v.ruleTime.negative then 10 ^ 11 else 10 ^ 12

/-- The values after the first, with the widths of their columns. -/
def RuleView.columns (v : RuleView) : List (Nat × List Char) :=
  (ruleFields.tail.map Field.width).zip v.texts.tail

/-- The values after the first, with the spaces before them. -/
def RuleView.gaps (v : RuleView) : List (Nat × List Char) :=
  (5 - (natText v.rank.toNat).length + (6 - (natText v.gid.toNat).length),
    natText v.gid.toNat) :: v.columns.tail.map fun x => (x.1 - x.2.length, x.2)

theorem printSingleEntry_gapped (v : RuleView) :
    (printSingleEntry v).toList = gapped (natText v.rank.toNat) v.gaps := by
  rw [printSingleEntry, String.toList_ofList]
  exact padRight_append_padLeft 5 (natText v.rank.toNat) (6, natText v.gid.toNat) v.columns.tail

theorem gaps_words (v : RuleView) : ∀ x ∈ v.gaps, IsWord x.2 := by
  simp only [RuleView.gaps, RuleView.columns, RuleView.texts, ruleFields, List.tail_cons,
    List.map_cons, List.map_nil, List.zip_cons_cons, List.zip_nil_right, List.forall_mem_cons]
  simp [isWord_natText, isWord_intText, isWord_fixed5]

/-- The values are the words of the line. -/
theorem texts_gaps (v : RuleView) : natText v.rank.toNat :: v.gaps.map Prod.snd = v.texts := by
  simp [RuleView.gaps, RuleView.columns, RuleView.texts, ruleFields]

theorem gaps_pos_iff (v : RuleView) : (∀ x ∈ v.gaps, 0 < x.1) ↔ v.Fits := by
  simp only [RuleView.gaps, RuleView.columns, RuleView.texts, ruleFields, List.tail_cons,
    List.map_cons, List.map_nil, List.zip_cons_cons, List.zip_nil_right, List.forall_mem_cons,
    Nat.sub_pos_iff_lt, Nat.add_pos_iff_pos_or_pos, length_natText_lt, length_intText_lt,
    length_fixed5_lt, Nat.reduceAdd]
  constructor
  · rintro ⟨hgid, hsid, hrev, hchecks, hmatches, halerts, htime, hcheck, hmatch, hnomatch,
      htimeouts, hsuspends, hrule, _⟩
    exact ⟨hgid, hsid, hrev, hchecks, hmatches, halerts, htime, hcheck, hmatch, hnomatch,
      htimeouts, hsuspends, hrule⟩
  · intro h
    exact ⟨h.gid, h.sid, h.rev, h.checks, h.matches_, h.alerts, h.timeUS, h.avgCheck, h.avgMatch,
      h.avgNoMatch, h.timeouts, h.suspends, h.ruleTime, fun x hx => absurd hx List.not_mem_nil⟩

/-! ## Reading a line back -/

theorem fields_printSingleEntry (v : RuleView) :
    fields (printSingleEntry v).toList = merged (natText v.rank.toNat) v.gaps := by
  rw [printSingleEntry_gapped]
  exact fields_gapped v.gaps (isWord_natText _) (gaps_words v)

/-- Only lines with 14 fields are taken. -/
theorem length_fields_of_some {raw source : String} {runID : Int} {m : RuleProfilerMetric}
    (h : parseRuleProfileLine raw runID source = some m) : (fields raw.toList).length = 14 := by
  unfold parseRuleProfileLine at h
  split at h
  · next heq => rw [heq]; rfl
  · cases h

/-- Two columns that run into one another are one field. -/
theorem fits_of_some {v : RuleView} {runID : Int} {source : String} {m : RuleProfilerMetric}
    (h : parseRuleProfileLine (printSingleEntry v) runID source = some m) : v.Fits := by
  have hlength := length_fields_of_some h
  have hcount : v.gaps.length + 1 = 14 := by
    have htexts := congrArg List.length (texts_gaps v)
    rwa [List.length_cons, List.length_map] at htexts
  rw [fields_printSingleEntry, ← hcount, length_merged_eq_iff] at hlength
  exact (gaps_pos_iff v).mp hlength

theorem parseInt_natText {n : Nat} (h : n < 2 ^ 63) : parseInt (natText n) = some (n : Int) :=
  atoi_toString_nat h

theorem parseInt_intText {n : Int} (h : -2 ^ 63 ≤ n ∧ n < 2 ^ 63) :
    parseInt (intText n) = some n := atoi_toString h

theorem mustInt_natText {n : Nat} (h : n < 2 ^ 63) : mustInt (natText n) = n := by
  have hatoi : atoi (natText n) = some (n : Int) := parseInt_natText h
  rw [mustInt, hatoi]

theorem ofDigitChars_natText (n : Nat) : Nat.ofDigitChars 10 (natText n) 0 = n := by
  rw [natText, Nat.toString_eq_ofList_toDigits, String.toList_ofList,
    Nat.ofDigitChars_ten_toDigits]

/-- The digits before and after the point are those of the units. -/
theorem Fixed5.digits_value (x : Fixed5) :
    Nat.ofDigitChars 10 (natText (x.units / 10 ^ 5) ++ x.fraction) 0 = x.units := by
  have hfraction : Nat.ofDigitChars 10 x.fraction 0 = x.units % 10 ^ 5 := by
    rw [Fixed5.fraction, Nat.ofDigitChars_append, Nat.ofDigitChars_replicate_zero, Nat.mul_zero,
      ofDigitChars_natText]
  rw [Nat.ofDigitChars_append, Nat.ofDigitChars_eq_ofDigitChars_zero, x.length_fraction,
    ofDigitChars_natText, hfraction]
  omega

theorem doubleLimit_eq : doubleLimit = (2 ^ 54 - 1) * 2 ^ 970 := by
  have hsum : 1024 = 54 + 970 := by omega
  rw [doubleLimit, hsum]
  generalize 970 = last
  rw [Nat.pow_add, Nat.sub_mul, Nat.one_mul]

theorem two_pow_le_doubleLimit {k : Nat} (h : k ≤ 970) : 2 ^ k ≤ doubleLimit := by
  rw [doubleLimit_eq]
  generalize 970 = last at h
  have hpow : 2 ^ k ≤ 2 ^ last := Nat.pow_le_pow_right (by decide) h
  exact hpow.trans (Nat.le_mul_of_pos_left _ (by decide))

theorem takeSign_snd (input : List Char) :
    (takeSign input).2 =
      if input.head? = some '-' ∨ input.head? = some '+' then input.tail else input := by
  unfold takeSign
  split
  · rfl
  · rfl
  · next hminus hplus =>
      rw [if_neg]
      rintro (h | h) <;> obtain ⟨cs, rfl⟩ := List.head?_eq_some_iff.mp h
      · exact hminus cs rfl
      · exact hplus cs rfl

theorem div_lt_doubleLimit_iff (num places : Nat) :
    (num : ℚ) / 10 ^ places < doubleLimit ↔ num < 10 ^ places * doubleLimit := by
  rw [div_lt_iff₀ (by positivity), mul_comm]
  exact_mod_cast Iff.rfl

/-- A text with digits and points only is read as the number that `strconv.ParseFloat` rounds to 64
bits, and is an error where it is one there. -/
theorem parseFloat_rounded {input : List Char} (h : ∀ c ∈ (takeSign input).2, IsDecimal c) :
    ((parseFloat input).isSome = (Number.parseFloat (String.ofList input)).isSome) ∧
    ∀ value ∈ parseFloat input, ∃ num den : Nat, 0 < den ∧
      value = (if input.head? = some '-' then -(num / den : ℚ) else num / den) ∧
      Number.parseFloat (String.ofList input) = nearest64 (input.head? = some '-') num den := by
  let whole := (takeSign input).2.takeWhile Char.isDigit
  let rest := (takeSign input).2.dropWhile Char.isDigit
  -- so the second condition of `parseFloat` says nothing here
  have hrest : rest = [] ∨ rest.head? = some '.' := by
    cases hrest : rest with
    | nil => exact .inl rfl
    | cons c cs =>
        have hc : c = '.' := Number.head_dropWhile_decimal h c (congrArg List.head? hrest)
        exact .inr (congrArg some hc)
  have hread := Number.parseFloat_decimal (s := String.ofList input) (by rwa [String.toList_ofList])
  rw [String.toList_ofList] at hread
  rw [hread]
  unfold parseFloat
  simp only [← takeSign_snd]
  by_cases hbad : (whole = [] ∧ rest.tail = []) ∨ rest.tail.any (!·.isDigit) = true
  · have hbad' : (whole = [] ∧ rest.tail = []) ∨ ¬ (rest = [] ∨ rest.head? = some '.') ∨
        rest.tail.any (!·.isDigit) = true := hbad.imp_right .inr
    rw [if_pos hbad, if_pos hbad']
    exact ⟨rfl, nofun⟩
  · have hgood : ¬ ((whole = [] ∧ rest.tail = []) ∨ ¬ (rest = [] ∨ rest.head? = some '.') ∨
        rest.tail.any (!·.isDigit) = true) := by
      rw [not_or, not_or, not_not]
      exact ⟨fun hnil => hbad (.inl hnil), hrest, fun hany => hbad (.inr hany)⟩
    have hpos : 0 < 10 ^ rest.tail.length := Nat.pow_pos (by decide)
    have hfits := Number.nearest64_isSome_iff (input.head? = some '-')
      (Nat.ofDigitChars 10 (whole ++ rest.tail) 0) hpos
    rw [← doubleLimit_eq, ← div_lt_doubleLimit_iff] at hfits
    rw [if_neg hbad, if_neg hgood, Number.takeSign_fst]
    split
    · next hlt =>
        refine ⟨(hfits.mpr hlt).symm, ?_⟩
        intro value hvalue
        cases Option.mem_some.mp hvalue
        exact ⟨_, _, hpos, by push_cast; rfl, rfl⟩
    · next hge =>
        refine ⟨?_, nofun⟩
        exact (Bool.eq_false_iff.mpr fun hsome => hge (hfits.mp hsome)).symm

/-- What `std::fixed` prints is a number to `ParseFloat`. -/
theorem parseFloat_fixed5 (x : Fixed5) : ∃ value, parseFloat x.text = some value := by
  let whole := natText (x.units / 10 ^ 5)
  have hdigits : ∀ c ∈ whole, c.isDigit = true := fun c hc => isDigit_of_mem_toString hc
  -- the sign is taken off
  have hbody : (if x.text.head? = some '-' ∨ x.text.head? = some '+' then x.text.tail
      else x.text) = whole ++ '.' :: x.fraction := by
    rw [Fixed5.text_eq]
    cases x.negative with
    | true => rfl
    | false =>
        obtain ⟨c, cs, hcs⟩ := List.exists_cons_of_ne_nil (isWord_natText (x.units / 10 ^ 5)).ne_nil
        have hc : c.isDigit = true := by
          apply hdigits c
          rw [show whole = c :: cs from hcs]
          exact List.mem_cons_self
        rw [if_neg]
        · rfl
        · rw [hcs]
          rintro (hhead | hhead) <;> cases hhead <;> exact absurd hc (by decide)
  have htake : (whole ++ '.' :: x.fraction).takeWhile Char.isDigit = whole := by
    rw [List.takeWhile_append_of_pos hdigits]
    simp
  have hdrop : (whole ++ '.' :: x.fraction).dropWhile Char.isDigit = '.' :: x.fraction := by
    rw [List.dropWhile_append_of_pos hdigits]
    simp
  have hvalue : ((Nat.ofDigitChars 10 (whole ++ x.fraction) 0 : ℕ) : ℚ) / 10 ^ x.fraction.length <
      doubleLimit := by
    rw [x.digits_value, x.length_fraction, div_lt_iff₀ (by norm_num), mul_comm]
    exact_mod_cast x.finite
  have hplain : x.fraction.any (!·.isDigit) = false := by
    rw [List.any_eq_false]
    intro c hc
    simp [x.fraction_digit c hc]
  unfold parseFloat
  simp only [hbody, htake, hdrop, List.tail_cons, List.head?_cons, hplain]
  rw [if_neg, if_pos hvalue]
  · exact ⟨_, rfl⟩
  · simp [whole, (isWord_natText _).ne_nil]

/-- **When a rule profile survives.** For every row: the line that is printed for it is read back
with its numbers if and only if every value leaves room in its column. -/
theorem ruleProfile_survives_iff (v : RuleView) (runID : Int) (sourceFile : String) :
    (∃ m, parseRuleProfileLine (printSingleEntry v) runID sourceFile = some m ∧ m.Of v) ↔
      v.Fits := by
  constructor
  · rintro ⟨m, hm, _⟩
    exact fits_of_some hm
  · intro h
    have hfields : fields (printSingleEntry v).toList = v.texts := by
      rw [fields_printSingleEntry, merged_of_gaps ((gaps_pos_iff v).mpr h), texts_gaps]
    obtain ⟨pct, hpct⟩ := parseFloat_fixed5 v.ruleTime
    have hrank := v.rank.toNat_lt
    have hgid := v.gid.toNat_lt
    have hsid := h.sid
    have hrev := h.rev
    have hchecks := h.checks
    have hmatches := h.matches_
    have halerts := h.alerts
    have htimeouts := h.timeouts
    have hsuspends := h.suspends
    have htime := h.timeUS
    have hcheck := h.avgCheck
    have hmatch := h.avgMatch
    have hno := h.avgNoMatch
    unfold parseRuleProfileLine
    rw [hfields]
    simp (disch := omega) only [RuleView.texts, parseInt_natText, parseInt_intText, hpct,
      mustInt_natText]
    exact ⟨_, rfl, rfl, rfl, rfl, rfl, rfl, rfl, rfl, rfl, rfl⟩

theorem doubleLimit_pos : 0 < doubleLimit :=
  (Nat.two_pow_pos 0).trans_le (two_pow_le_doubleLimit (Nat.zero_le _))

/-- A rule with a sid of seven digits, as local rules have it. -/
def localRule : RuleView :=
  { rank := 1, gid := 1, sid := 1000000, rev := 1, checks := 20, matches_ := 3, alerts := 3
    timeUS := 75, avgCheck := 3, avgMatch := 5, avgNoMatch := 3, timeouts := 0, suspends := 0
    ruleTime :=
      { negative := false, units := 120, finite := by have := doubleLimit_pos; omega } }

/-- Its gid and its sid are printed as one number, and the line is dropped. -/
theorem local_rule_dropped :
    ¬ ∃ m, parseRuleProfileLine (printSingleEntry localRule) 0 "profiler.txt" = some m ∧
      m.Of localRule := by
  rintro ⟨m, hm, _⟩
  exact absurd (fits_of_some hm).sid (by decide)

end SnortOptimizer.Profiler
