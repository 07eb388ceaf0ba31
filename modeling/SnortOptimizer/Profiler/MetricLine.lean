import SnortOptimizer.Profiler.RuleProfile
import Mathlib.Data.List.TakeWhile

/-!
# Counter lines (`sql/profiler/parser.go`)

`metricLine` is a regular expression for lines such as `pkts/sec: 38971` or
`analyzed: 100 ( 50.0%) packets`. It is matched here by going through the line once, since no part
of it can be taken in two ways: `metricLine_eq_some_iff` says that the lines it matches are those
made of the parts of a `CounterText`, and what it captures are these parts.
-/

namespace SnortOptimizer.Profiler

open Text

/-! ## The regular expression -/

def skipBlanks (cs : List Char) : List Char := cs.dropWhile reSpace

/-- `[-+]?`. -/
def scanSign : List Char → List Char × List Char
  | '-' :: cs => (['-'], cs)
  | '+' :: cs => (['+'], cs)
  | cs => ([], cs)

/-- `(?:\.\d+)?`. -/
def scanFraction : List Char → List Char × List Char
  | '.' :: cs =>
      if cs.takeWhile Char.isDigit = [] then ([], '.' :: cs)
      else ('.' :: cs.takeWhile Char.isDigit, cs.dropWhile Char.isDigit)
  | cs => ([], cs)

/-- `[-+]?\d+(?:\.\d+)?`, and what stands behind it. -/
def scanNumber (cs : List Char) : Option (List Char × List Char) :=
  let (sign, cs) := scanSign cs
  let whole := cs.takeWhile Char.isDigit
  let (fraction, rest) := scanFraction (cs.dropWhile Char.isDigit)
  if whole = [] then none else some (sign ++ (whole ++ fraction), rest)

/-- `(?:\(\s*([-+]?\d+(?:\.\d+)?)%\s*\))?`. An opening bracket fits nothing else. -/
def scanPercent : List Char → Option (List Char × List Char)
  | '(' :: cs =>
      match scanNumber (skipBlanks cs) with
      | some (number, '%' :: rest) =>
          match skipBlanks rest with
          | ')' :: rest => some (number, rest)
          | _ => none
      | _ => none
  | cs => some ([], cs)

/-- The groups of a match; one that took no part in it is empty. -/
structure Captures where
  name : List Char
  number : List Char
  percent : List Char
  unit : List Char
  deriving DecidableEq, Repr

/-- The group `[^:]+` behind `^\s*`. It has at least the last character before the colon. -/
def captureName (before : List Char) : List Char :=
  if skipBlanks before = [] then before.drop (before.length - 1) else skipBlanks before

/-- What stands behind the colon: the number, the percentage and the unit. -/
def scanValues (cs : List Char) : Option (List Char × List Char × List Char) :=
  (scanNumber (skipBlanks cs)).bind fun (number, rest) =>
    (scanPercent (skipBlanks rest)).bind fun (percent, rest) =>
      let rest := skipBlanks rest
      if skipBlanks (rest.dropWhile Char.isAlpha) = [] then
        some (number, percent, rest.takeWhile Char.isAlpha)
      else none

/-- `metricLine.FindStringSubmatch`. -/
def metricLine (cs : List Char) : Option Captures :=
  let before := cs.takeWhile (· ≠ ':')
  match cs.dropWhile (· ≠ ':') with
  | [] => none
  | _ :: after =>
      if before = [] then none
      else (scanValues after).map fun (number, percent, unit) =>
        { name := captureName before, number, percent, unit }

/-! ## Parsing -/

/-- A number `ParseFloat` returns, up to rounding. -/
inductive Double where
  | finite (value : ℚ)
  | infinite (negative : Bool)

structure ProfilerMetric where
  runID : Int
  section_ : String
  module_ : String
  metric : String
  value : ℚ
  percent : Double
  unit : String
  rawLine : String
  sourceFile : String

/-- What `ParseFloat` returns beside its error: infinity if the number is too large. -/
def mustFloat (input : List Char) : Double :=
  match parseFloat input with
  | some value => .finite value
  | none => .infinite (input.head? = some '-')

def parseMetricLine (raw : String) (runID : Int) (sourceFile section_ module_ : String) :
    Option ProfilerMetric :=
  (metricLine raw.toList).bind fun captures =>
    (parseFloat captures.number).map fun value =>
      { runID, section_ := trimSpace section_, module_ := trimSpace module_
        metric := trimSpace (String.ofList captures.name), value
        percent := if captures.percent = [] then .finite 0 else mustFloat captures.percent
        unit := trimSpace (String.ofList captures.unit), rawLine := trimSpace raw, sourceFile }

/-! ## The lines it matches -/

/-- A decimal number as it is written. -/
structure NumberText where
  sign : List Char
  whole : List Char
  fraction : List Char             -- the digits behind the point, none if there is no point
  sign_mem : sign ∈ [[], ['-'], ['+']]
  whole_ne : whole ≠ []
  digits : ∀ c ∈ whole ++ fraction, c.isDigit = true

def NumberText.text (n : NumberText) : List Char :=
  n.sign ++ (n.whole ++ if n.fraction = [] then [] else '.' :: n.fraction)

def NumberText.magnitude (n : NumberText) : ℚ :=
  Nat.ofDigitChars 10 (n.whole ++ n.fraction) 0 / 10 ^ n.fraction.length

def NumberText.value (n : NumberText) : ℚ :=
  if n.sign = ['-'] then -n.magnitude else n.magnitude

/-- A double holds the number. -/
def NumberText.Fits (n : NumberText) : Prop := n.magnitude < doubleLimit

instance numberFitsDecidable (n : NumberText) : Decidable n.Fits :=
  inferInstanceAs (Decidable (_ < _))

/-- `( 50.0%)`. -/
structure PercentText where
  lead : List Char
  number : NumberText
  trail : List Char
  blank : ∀ c ∈ lead ++ trail, reSpace c = true

def PercentText.text (p : PercentText) : List Char :=
  '(' :: (p.lead ++ (p.number.text ++ '%' :: (p.trail ++ [')'])))

/-- A counter line: a name, a number, and perhaps a percentage and a unit, with white space between
them. -/
structure CounterText where
  name : List Char                 -- all that stands before the colon
  lead : List Char
  number : NumberText
  gap : List Char
  percent : Option PercentText
  space : List Char
  unit : List Char
  trail : List Char
  name_ne : name ≠ []
  name_colon : ':' ∉ name
  blank : ∀ c ∈ lead ++ (gap ++ (space ++ trail)), reSpace c = true
  alpha : ∀ c ∈ unit, c.isAlpha = true

def CounterText.percentText (c : CounterText) : List Char :=
  (c.percent.map PercentText.text).getD []

def CounterText.text (c : CounterText) : List Char :=
  c.name ++ ':' :: (c.lead ++ (c.number.text ++
    (c.gap ++ (c.percentText ++ (c.space ++ (c.unit ++ c.trail))))))

def CounterText.captures (c : CounterText) : Captures :=
  { name := captureName c.name, number := c.number.text
    percent := (c.percent.map fun p => p.number.text).getD [], unit := c.unit }

/-! ## Numbers -/

theorem reSpace_ne {c : Char} (h : reSpace c = true) :
    c.isDigit = false ∧ c.isAlpha = false ∧ c ≠ '.' ∧ c ≠ '(' := by
  simp only [reSpace, Bool.or_eq_true, decide_eq_true_eq] at h
  rcases h with (((rfl | rfl) | rfl) | rfl) | rfl <;> decide

theorem isAlpha_ne {c : Char} (h : c.isAlpha = true) :
    c.isDigit = false ∧ reSpace c = false ∧ c ≠ '.' ∧ c ≠ '(' := by
  have hrange : (65 ≤ c.toNat ∧ c.toNat ≤ 90) ∨ (97 ≤ c.toNat ∧ c.toNat ≤ 122) := by
    have hcases : decide (c.val ≥ 'A'.val ∧ c.val ≤ 'Z'.val) = true ∨
        (c.val ≥ 'a'.val && c.val ≤ 'z'.val) = true := Bool.or_eq_true_iff.mp h
    simpa [UInt32.le_iff_toNat_le] using hcases
  have hne : ∀ d : Char, d.toNat < 65 → c ≠ d := by
    rintro d hd rfl
    omega
  refine ⟨?_, ?_, hne _ (by decide), hne _ (by decide)⟩
  · by_contra hdigit
    have hnumber : 48 ≤ c.toNat ∧ c.toNat ≤ 57 := by
      simpa [Char.isDigit, UInt32.le_iff_toNat_le] using hdigit
    omega
  · by_contra hblank
    simp only [reSpace, Bool.not_eq_false, Bool.or_eq_true, decide_eq_true_eq] at hblank
    rcases hblank with (((hc | hc) | hc) | hc) | hc <;> exact hne _ (by decide) hc

/-- A run of characters, where the next one is not of its kind. -/
theorem takeWhile_run {p : Char → Bool} {run rest : List Char} (hrun : ∀ c ∈ run, p c = true)
    (hrest : ∀ c, rest.head? = some c → p c = false) :
    (run ++ rest).takeWhile p = run ∧ (run ++ rest).dropWhile p = rest := by
  rw [List.takeWhile_append_of_pos hrun, List.dropWhile_append_of_pos hrun,
    dropWhile_of_head hrest]
  refine ⟨?_, rfl⟩
  cases rest with
  | nil => simp
  | cons c rest => simp [hrest c rfl]

theorem NumberText.sign_cases (n : NumberText) : n.sign = [] ∨ n.sign = ['-'] ∨ n.sign = ['+'] := by
  simpa using n.sign_mem

theorem isDigit_ne {c : Char} (h : c.isDigit = true) :
    reSpace c = false ∧ c ≠ '-' ∧ c ≠ '+' ∧ c ≠ '.' := by
  have hne : ∀ d : Char, d.isDigit = false → c ≠ d := by
    rintro d hd rfl
    simp [h] at hd
  refine ⟨?_, hne _ (by decide), hne _ (by decide), hne _ (by decide)⟩
  by_contra hblank
  have hnot := (reSpace_ne (by simpa using hblank)).1
  simp [h] at hnot

theorem NumberText.isDigit_whole (n : NumberText) : ∀ c ∈ n.whole, c.isDigit = true :=
  fun c hc => n.digits c (List.mem_append_left _ hc)

theorem NumberText.isDigit_fraction (n : NumberText) : ∀ c ∈ n.fraction, c.isDigit = true :=
  fun c hc => n.digits c (List.mem_append_right _ hc)

/-- What a number may be followed by: no digit and no point. -/
def EndsNumber (rest : List Char) : Prop := ∀ c, rest.head? = some c → c.isDigit = false ∧ c ≠ '.'

theorem scanSign_text (n : NumberText) (rest : List Char) :
    scanSign (n.text ++ rest) =
      (n.sign, n.whole ++ ((if n.fraction = [] then [] else '.' :: n.fraction) ++ rest)) := by
  obtain ⟨d, ds, hwhole⟩ := List.exists_cons_of_ne_nil n.whole_ne
  have hd := isDigit_ne (n.isDigit_whole d (by simp [hwhole]))
  rw [NumberText.text, List.append_assoc, List.append_assoc]
  rcases n.sign_cases with hsign | hsign | hsign
  · rw [hsign, hwhole]
    simp only [List.nil_append, List.cons_append]
    unfold scanSign
    split
    · next heq => exact absurd (List.cons.inj heq).1 hd.2.1
    · next heq => exact absurd (List.cons.inj heq).1 hd.2.2.1
    · rfl
  · rw [hsign]
    rfl
  · rw [hsign]
    rfl

theorem scanFraction_text {fraction rest : List Char} (hdigits : ∀ c ∈ fraction, c.isDigit = true)
    (hrest : EndsNumber rest) :
    scanFraction ((if fraction = [] then [] else '.' :: fraction) ++ rest) =
      (if fraction = [] then [] else '.' :: fraction, rest) := by
  by_cases hnil : fraction = []
  · rw [if_pos hnil, List.nil_append]
    unfold scanFraction
    split
    · next heq => exact absurd rfl (hrest '.' rfl).2
    · rfl
  · have hrun := takeWhile_run hdigits fun c hc => (hrest c hc).1
    rw [if_neg hnil, List.cons_append, scanFraction, hrun.1, hrun.2, if_neg hnil]

/-- A number is read as it is written. -/
theorem scanNumber_text (n : NumberText) {rest : List Char} (hrest : EndsNumber rest) :
    scanNumber (n.text ++ rest) = some (n.text, rest) := by
  have hrun := @takeWhile_run _ _ ((if n.fraction = [] then [] else '.' :: n.fraction) ++ rest)
    n.isDigit_whole (by
      intro c hc
      by_cases hnil : n.fraction = []
      · rw [if_pos hnil, List.nil_append] at hc
        exact (hrest c hc).1
      · rw [if_neg hnil] at hc
        cases hc
        decide)
  rw [scanNumber, scanSign_text]
  simp only [hrun.1, hrun.2, scanFraction_text n.isDigit_fraction hrest]
  rw [if_neg n.whole_ne, NumberText.text]

theorem scanSign_eq {cs sign rest : List Char} (h : scanSign cs = (sign, rest)) :
    sign ∈ [[], ['-'], ['+']] ∧ cs = sign ++ rest := by
  unfold scanSign at h
  split at h <;> cases h <;> simp

theorem scanFraction_eq {cs fraction rest : List Char} (h : scanFraction cs = (fraction, rest)) :
    ∃ digits, (∀ c ∈ digits, c.isDigit = true) ∧
      fraction = (if digits = [] then [] else '.' :: digits) ∧ cs = fraction ++ rest := by
  unfold scanFraction at h
  split at h
  · next cs' =>
      split at h
      · cases h
        exact ⟨[], by simp, rfl, rfl⟩
      · next hne =>
          cases h
          refine ⟨cs'.takeWhile Char.isDigit, fun c hc => List.mem_takeWhile_imp hc,
            (if_neg hne).symm, ?_⟩
          rw [List.cons_append, List.takeWhile_append_dropWhile]
  · cases h
    exact ⟨[], by simp, rfl, rfl⟩

/-- What is read as a number is one. -/
theorem scanNumber_eq_some {cs number rest : List Char} (h : scanNumber cs = some (number, rest)) :
    ∃ n : NumberText, number = n.text ∧ cs = n.text ++ rest := by
  cases hsign : scanSign cs with
  | mk sign after =>
      cases hfraction : scanFraction (after.dropWhile Char.isDigit) with
      | mk fraction rest' =>
          simp only [scanNumber, hsign, hfraction] at h
          split at h
          · cases h
          · next hne =>
              cases h
              obtain ⟨hmem, hcs⟩ := scanSign_eq hsign
              obtain ⟨digits, hdigits, rfl, hafter⟩ := scanFraction_eq hfraction
              refine ⟨⟨sign, after.takeWhile Char.isDigit, digits, hmem, hne, ?_⟩, rfl, ?_⟩
              · intro c hc
                rcases List.mem_append.mp hc with hc | hc
                · exact List.mem_takeWhile_imp hc
                · exact hdigits c hc
              · rw [hcs, NumberText.text]
                simp only [List.append_assoc, ← hafter, List.takeWhile_append_dropWhile]

/-! ## Percentages and units -/

theorem skipBlanks_run {run rest : List Char} (hrun : ∀ c ∈ run, reSpace c = true) :
    skipBlanks (run ++ rest) = skipBlanks rest := List.dropWhile_append_of_pos hrun

theorem skipBlanks_of_head {cs : List Char} (h : ∀ c, cs.head? = some c → reSpace c = false) :
    skipBlanks cs = cs := dropWhile_of_head h

theorem skipBlanks_eq (cs : List Char) :
    ∃ run, (∀ c ∈ run, reSpace c = true) ∧ cs = run ++ skipBlanks cs :=
  ⟨cs.takeWhile reSpace, fun _ hc => List.mem_takeWhile_imp hc,
    List.takeWhile_append_dropWhile.symm⟩

theorem skipBlanks_skipBlanks (cs : List Char) : skipBlanks (skipBlanks cs) = skipBlanks cs := by
  apply skipBlanks_of_head
  intro c hc
  have hhead := List.head?_dropWhile_not reSpace cs
  rw [show cs.dropWhile reSpace = skipBlanks cs from rfl, hc] at hhead
  exact hhead

theorem NumberText.head_text (n : NumberText) (rest : List Char) :
    ∀ c, (n.text ++ rest).head? = some c → reSpace c = false := by
  intro c hc
  obtain ⟨d, ds, hwhole⟩ := List.exists_cons_of_ne_nil n.whole_ne
  rw [NumberText.text, hwhole] at hc
  rcases n.sign_cases with hsign | hsign | hsign <;> rw [hsign] at hc <;> cases hc
  · exact (isDigit_ne (n.isDigit_whole _ (by simp [hwhole]))).1
  · decide
  · decide

theorem scanPercent_text (p : PercentText) (rest : List Char) :
    scanPercent (p.text ++ rest) = some (p.number.text, rest) := by
  have hlead : ∀ c ∈ p.lead, reSpace c = true := fun c hc => p.blank c (List.mem_append_left _ hc)
  have htrail : ∀ c ∈ p.trail, reSpace c = true :=
    fun c hc => p.blank c (List.mem_append_right _ hc)
  have hnumber : skipBlanks (p.lead ++ (p.number.text ++ ('%' :: (p.trail ++ (')' :: rest))))) =
      p.number.text ++ ('%' :: (p.trail ++ (')' :: rest))) := by
    rw [skipBlanks_run hlead, skipBlanks_of_head (p.number.head_text _)]
  have hends : EndsNumber ('%' :: (p.trail ++ (')' :: rest))) := by
    intro c hc
    cases hc
    decide
  have hclose : skipBlanks (p.trail ++ (')' :: rest)) = ')' :: rest := by
    rw [skipBlanks_run htrail]
    rfl
  have htext : p.text ++ rest =
      '(' :: (p.lead ++ (p.number.text ++ ('%' :: (p.trail ++ (')' :: rest))))) := by
    simp [PercentText.text]
  rw [htext]
  simp only [scanPercent, hnumber, scanNumber_text p.number hends, hclose]

theorem scanPercent_of_head {cs : List Char} (h : cs.head? ≠ some '(') :
    scanPercent cs = some ([], cs) := by
  unfold scanPercent
  split
  · exact absurd rfl h
  · rfl

theorem scanPercent_eq_some {cs percent rest : List Char}
    (h : scanPercent cs = some (percent, rest)) :
    ∃ p : Option PercentText, percent = (p.map fun p => p.number.text).getD [] ∧
      cs = (p.map PercentText.text).getD [] ++ rest := by
  unfold scanPercent at h
  split at h
  · next cs' =>
      split at h
      · next number after hnumber =>
          split at h
          · next after' hclose =>
              cases h
              obtain ⟨n, rfl, hn⟩ := scanNumber_eq_some hnumber
              obtain ⟨lead, hlead, hcs⟩ := skipBlanks_eq cs'
              obtain ⟨trail, htrail, hafter⟩ := skipBlanks_eq after
              refine ⟨some ⟨lead, n, trail, ?_⟩, rfl, ?_⟩
              · intro c hc
                rcases List.mem_append.mp hc with hc | hc
                · exact hlead c hc
                · exact htrail c hc
              · rw [hcs, hn, hafter, hclose]
                simp [PercentText.text]
          · cases h
      · cases h
  · cases h
    exact ⟨none, rfl, rfl⟩

/-- A unit and the blanks behind it. -/
theorem scanUnit_text {unit trail : List Char} (hunit : ∀ c ∈ unit, c.isAlpha = true)
    (htrail : ∀ c ∈ trail, reSpace c = true) :
    (skipBlanks (unit ++ trail)).takeWhile Char.isAlpha = unit ∧
      skipBlanks ((skipBlanks (unit ++ trail)).dropWhile Char.isAlpha) = [] ∧
      (skipBlanks (unit ++ trail)).head? ≠ some '(' := by
  have hnil : skipBlanks trail = [] := by
    have hrun := @skipBlanks_run trail [] htrail
    rwa [List.append_nil] at hrun
  cases unit with
  | nil =>
      rw [List.nil_append, hnil]
      exact ⟨rfl, rfl, by simp⟩
  | cons c unit =>
      have hc := isAlpha_ne (hunit c List.mem_cons_self)
      have hhead : skipBlanks (c :: unit ++ trail) = c :: unit ++ trail :=
        skipBlanks_of_head fun d hd => by cases hd; exact hc.2.1
      have hrun := @takeWhile_run _ _ trail hunit fun d hd =>
        (reSpace_ne (htrail d (List.mem_of_head? hd))).2.1
      rw [hhead, hrun.1, hrun.2]
      refine ⟨rfl, hnil, fun h => ?_⟩
      cases h
      exact hc.2.2.2 rfl

/-! ## Lines -/

theorem EndsNumber.append {xs ys : List Char} (hx : EndsNumber xs) (hy : EndsNumber ys) :
    EndsNumber (xs ++ ys) := by
  intro c hc
  cases xs with
  | nil => exact hy c hc
  | cons x xs => exact hx c hc

theorem endsNumber_of_blank {cs : List Char} (h : ∀ c ∈ cs, reSpace c = true) : EndsNumber cs := by
  intro c hc
  have hne := reSpace_ne (h c (List.mem_of_head? hc))
  exact ⟨hne.1, hne.2.2.1⟩

theorem endsNumber_of_alpha {cs : List Char} (h : ∀ c ∈ cs, c.isAlpha = true) :
    EndsNumber cs := by
  intro c hc
  have hne := isAlpha_ne (h c (List.mem_of_head? hc))
  exact ⟨hne.1, hne.2.2.1⟩

namespace CounterText

variable (c : CounterText)

theorem blank_lead : ∀ d ∈ c.lead, reSpace d = true :=
  fun d hd => c.blank d (List.mem_append_left _ hd)

theorem blank_gap : ∀ d ∈ c.gap, reSpace d = true :=
  fun d hd => c.blank d (List.mem_append_right _ (List.mem_append_left _ hd))

theorem blank_space : ∀ d ∈ c.space, reSpace d = true :=
  fun d hd => c.blank d
    (List.mem_append_right _ (List.mem_append_right _ (List.mem_append_left _ hd)))

theorem blank_trail : ∀ d ∈ c.trail, reSpace d = true :=
  fun d hd => c.blank d
    (List.mem_append_right _ (List.mem_append_right _ (List.mem_append_right _ hd)))

theorem endsNumber_rest :
    EndsNumber (c.gap ++ (c.percentText ++ (c.space ++ (c.unit ++ c.trail)))) := by
  have hpercent : EndsNumber c.percentText := by
    intro d hd
    cases hp : c.percent with
    | none => simp [CounterText.percentText, hp] at hd
    | some p =>
        simp only [CounterText.percentText, hp, Option.map_some, Option.getD_some] at hd
        cases hd
        decide
  exact (endsNumber_of_blank c.blank_gap).append (hpercent.append
    ((endsNumber_of_blank c.blank_space).append
      ((endsNumber_of_alpha c.alpha).append (endsNumber_of_blank c.blank_trail))))

/-- The percentage is found, or not looked for. -/
theorem scanPercent_rest :
    ∃ rest,
      scanPercent (skipBlanks (c.gap ++ (c.percentText ++ (c.space ++ (c.unit ++ c.trail))))) =
        some (c.captures.percent, rest) ∧ skipBlanks rest = skipBlanks (c.unit ++ c.trail) := by
  rw [skipBlanks_run c.blank_gap]
  cases hp : c.percent with
  | none =>
      have hrest : skipBlanks (c.percentText ++ (c.space ++ (c.unit ++ c.trail))) =
          skipBlanks (c.unit ++ c.trail) := by
        rw [CounterText.percentText, hp]
        exact skipBlanks_run c.blank_space
      rw [hrest, scanPercent_of_head (scanUnit_text c.alpha c.blank_trail).2.2]
      exact ⟨_, by simp [CounterText.captures, hp], skipBlanks_skipBlanks _⟩
  | some p =>
      have htext : c.percentText = p.text := by simp [CounterText.percentText, hp]
      have hopen : skipBlanks (p.text ++ (c.space ++ (c.unit ++ c.trail))) =
          p.text ++ (c.space ++ (c.unit ++ c.trail)) := rfl
      rw [htext, hopen, scanPercent_text]
      exact ⟨_, by simp [CounterText.captures, hp], skipBlanks_run c.blank_space⟩

end CounterText

/-- All that stands behind the colon of a counter line. -/
def CounterText.values (c : CounterText) : List Char :=
  c.lead ++ (c.number.text ++ (c.gap ++ (c.percentText ++ (c.space ++ (c.unit ++ c.trail)))))

theorem scanValues_text (c : CounterText) :
    scanValues c.values = some (c.captures.number, c.captures.percent, c.captures.unit) := by
  have hnumber : skipBlanks c.values =
      c.number.text ++ (c.gap ++ (c.percentText ++ (c.space ++ (c.unit ++ c.trail)))) := by
    rw [CounterText.values, skipBlanks_run c.blank_lead,
      skipBlanks_of_head (c.number.head_text _)]
  obtain ⟨rest, hpercent, hrest⟩ := c.scanPercent_rest
  obtain ⟨hunit, htrail, -⟩ := scanUnit_text c.alpha c.blank_trail
  rw [scanValues, hnumber, scanNumber_text c.number c.endsNumber_rest]
  simp only [Option.bind_some, hpercent, hrest, hunit, htrail, if_true]
  rfl

theorem scanValues_eq_some {cs number percent unit : List Char} {name : List Char}
    (h : scanValues cs = some (number, percent, unit)) (hne : name ≠ []) (hcolon : ':' ∉ name) :
    ∃ c : CounterText, c.name = name ∧ cs = c.values ∧ c.captures.number = number ∧
      c.captures.percent = percent ∧ c.captures.unit = unit := by
  obtain ⟨⟨number', rest⟩, hnumber, h⟩ := Option.bind_eq_some_iff.mp h
  obtain ⟨⟨percent', rest'⟩, hpercent, h⟩ := Option.bind_eq_some_iff.mp h
  dsimp only at h hnumber hpercent
  split at h
  · next hend =>
      cases h
      obtain ⟨n, rfl, hn⟩ := scanNumber_eq_some hnumber
      obtain ⟨p, rfl, hp⟩ := scanPercent_eq_some hpercent
      obtain ⟨lead, hlead, hcs⟩ := skipBlanks_eq cs
      obtain ⟨gap, hgap, hrest⟩ := skipBlanks_eq rest
      obtain ⟨space, hspace, hrest'⟩ := skipBlanks_eq rest'
      obtain ⟨trail, htrail, hafter⟩ := skipBlanks_eq ((skipBlanks rest').dropWhile Char.isAlpha)
      have hunit : skipBlanks rest' = (skipBlanks rest').takeWhile Char.isAlpha ++ trail := by
        rw [hend, List.append_nil] at hafter
        rw [← hafter, List.takeWhile_append_dropWhile]
      refine ⟨⟨name, lead, n, gap, p, space, (skipBlanks rest').takeWhile Char.isAlpha, trail,
        hne, hcolon, ?_, fun c hc => List.mem_takeWhile_imp hc⟩, rfl, ?_, rfl, rfl, rfl⟩
      · intro c hc
        simp only [List.mem_append] at hc
        rcases hc with hc | hc | hc | hc
        · exact hlead c hc
        · exact hgap c hc
        · exact hspace c hc
        · exact htrail c hc
      · rw [CounterText.values, CounterText.percentText, ← hunit, ← hrest', ← hp, ← hrest, ← hn,
          ← hcs]
  · cases h

/-- **A counter line is matched**, and its parts are captured. -/
theorem metricLine_text (c : CounterText) : metricLine c.text = some c.captures := by
  have hname := @takeWhile_run (· ≠ ':') c.name (':' :: c.values)
    (by
      intro d hd
      have hne : d ≠ ':' := fun h => c.name_colon (h ▸ hd)
      simpa using hne)
    (by
      intro d hd
      cases hd
      rfl)
  have htext : c.text = c.name ++ ':' :: c.values := rfl
  rw [htext]
  unfold metricLine
  simp only [hname.1, hname.2, if_neg c.name_ne, scanValues_text]
  rfl

/-- **What is matched is a counter line.** -/
theorem metricLine_eq_some_iff {cs : List Char} {captures : Captures} :
    metricLine cs = some captures ↔ ∃ c : CounterText, cs = c.text ∧ captures = c.captures := by
  constructor
  · intro h
    have hsplit := List.takeWhile_append_dropWhile (p := (· ≠ ':')) (l := cs)
    have hcolon : ':' ∉ cs.takeWhile (· ≠ ':') := by
      intro hmem
      simpa using List.mem_takeWhile_imp hmem
    have hhead := List.head?_dropWhile_not (· ≠ ':') cs
    cases hafter : cs.dropWhile (· ≠ ':') with
    | nil =>
        simp only [metricLine, hafter] at h
        cases h
    | cons colon after =>
        rw [hafter] at hsplit hhead
        have hc : colon = ':' := by simpa using hhead
        subst hc
        simp only [metricLine, hafter] at h
        split at h
        · cases h
        · next hne =>
            obtain ⟨⟨number, percent, unit⟩, hvalues, rfl⟩ := Option.map_eq_some_iff.mp h
            obtain ⟨c, hname, hafter', rfl, rfl, rfl⟩ := scanValues_eq_some hvalues hne hcolon
            refine ⟨c, ?_, ?_⟩
            · rw [← hsplit, hafter', ← hname]
              rfl
            · rw [← hname]
              rfl
  · rintro ⟨c, rfl, rfl⟩
    exact metricLine_text c

/-! ## What is recorded of a line -/

theorem parseFloat_text (n : NumberText) :
    parseFloat n.text = if n.Fits then some n.value else none := by
  have hbody : (if n.text.head? = some '-' ∨ n.text.head? = some '+' then n.text.tail else n.text) =
      n.whole ++ (if n.fraction = [] then [] else '.' :: n.fraction) := by
    obtain ⟨d, ds, hwhole⟩ := List.exists_cons_of_ne_nil n.whole_ne
    have hd := isDigit_ne (n.isDigit_whole d (by simp [hwhole]))
    rw [NumberText.text]
    rcases n.sign_cases with hsign | hsign | hsign <;> rw [hsign] <;> simp [hwhole, hd]
  have hminus : (n.text.head? = some '-') = (n.sign = ['-']) := by
    obtain ⟨d, ds, hwhole⟩ := List.exists_cons_of_ne_nil n.whole_ne
    have hd := isDigit_ne (n.isDigit_whole d (by simp [hwhole]))
    rw [NumberText.text]
    rcases n.sign_cases with hsign | hsign | hsign <;> rw [hsign] <;> simp [hwhole, hd]
  have hrun := @takeWhile_run _ _ (if n.fraction = [] then [] else '.' :: n.fraction)
    n.isDigit_whole (by
      intro c hc
      split at hc
      · cases hc
      · cases hc
        decide)
  have htail : (if n.fraction = [] then [] else '.' :: n.fraction).tail = n.fraction := by
    split
    · next h => rw [h]; rfl
    · rfl
  have hshape : ¬ ((n.whole = [] ∧ n.fraction = []) ∨
      ¬ ((if n.fraction = [] then [] else '.' :: n.fraction) = [] ∨
        (if n.fraction = [] then [] else '.' :: n.fraction).head? = some '.') ∨
      n.fraction.any (!·.isDigit) = true) := by
    rintro (⟨h, -⟩ | h | h)
    · exact n.whole_ne h
    · by_cases hnil : n.fraction = [] <;> simp [hnil] at h
    · obtain ⟨c, hc, hnot⟩ := List.any_eq_true.mp h
      simp [n.isDigit_fraction c hc] at hnot
  unfold parseFloat
  simp only [hbody, hrun.1, hrun.2, htail, if_neg hshape]
  simp only [hminus]
  rfl

/-- What a report says of a counter, with the titles it stands under. -/
structure Entry where
  name : String
  value : ℚ
  module_ : String
  section_ : String
  deriving DecidableEq

def ProfilerMetric.entry (m : ProfilerMetric) : Entry :=
  { name := m.metric, value := m.value, module_ := m.module_, section_ := m.section_ }

def CounterText.entry (c : CounterText) (section_ module_ : String) : Entry :=
  { name := trimSpace (String.ofList c.name), value := c.number.value, module_, section_ }

theorem dropWhile_isSpace_skipBlanks (cs : List Char) :
    (skipBlanks cs).dropWhile isSpace = cs.dropWhile isSpace := by
  obtain ⟨run, hrun, hcs⟩ := skipBlanks_eq cs
  conv => rhs; rw [hcs]
  rw [List.dropWhile_append_of_pos fun c hc => isSpace_of_reSpace (hrun c hc)]

theorem trimSpace_captureName (name : List Char) :
    trimSpace (String.ofList (captureName name)) = trimSpace (String.ofList name) := by
  have hsame : (captureName name).dropWhile isSpace = name.dropWhile isSpace := by
    unfold captureName
    split
    · next hnil =>
        have hspace : name.dropWhile isSpace = [] := by
          rw [← dropWhile_isSpace_skipBlanks, hnil]
          rfl
        rw [hspace]
        rw [List.dropWhile_eq_nil_iff] at hspace ⊢
        exact fun c hc => hspace c (List.mem_of_mem_drop hc)
    · exact dropWhile_isSpace_skipBlanks name
  rw [trimSpace, String.toList_ofList, hsame, trimSpace, String.toList_ofList]

/-- **A counter line is recorded** with its name and its value, under the titles given, if a double
holds its number. -/
theorem parseMetricLine_of_text {raw : String} {c : CounterText} (h : raw.toList = c.text)
    (runID : Int) (sourceFile section_ module_ : String) :
    (parseMetricLine raw runID sourceFile section_ module_).map ProfilerMetric.entry =
      if c.number.Fits then some (c.entry (trimSpace section_) (trimSpace module_)) else none := by
  rw [parseMetricLine, h, metricLine_text, Option.bind_some, CounterText.captures, parseFloat_text]
  by_cases hfits : c.number.Fits
  · rw [if_pos hfits, if_pos hfits]
    simp only [Option.map_some, ProfilerMetric.entry, CounterText.entry, trimSpace_captureName]
  · rw [if_neg hfits, if_neg hfits]
    rfl

/-- Other lines are not. -/
theorem parseMetricLine_eq_none {raw : String} (h : ¬ ∃ c : CounterText, raw.toList = c.text)
    (runID : Int) (sourceFile section_ module_ : String) :
    parseMetricLine raw runID sourceFile section_ module_ = none := by
  have hnone : metricLine raw.toList = none := by
    cases hm : metricLine raw.toList with
    | none => rfl
    | some captures =>
        obtain ⟨c, hc, -⟩ := metricLine_eq_some_iff.mp hm
        exact absurd ⟨c, hc⟩ h
  rw [parseMetricLine, hnone]
  rfl

end SnortOptimizer.Profiler
