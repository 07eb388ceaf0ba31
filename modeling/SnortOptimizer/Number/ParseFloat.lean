import SnortOptimizer.Number.Binary64
import SnortOptimizer.Text.Basic
import Mathlib.Data.List.TakeWhile

/-!
# Numbers from text (`strconv.ParseFloat`)

The syntax is that of the language: an optional sign, decimal or hexadecimal digits with an optional
point, an exponent (which a hexadecimal number must have), and underscores between the digits. The
result is the nearest number with 64 bits, in the middle of two the even one. A number that is too
large is an error, one that is too small is zero.

A number is written down without zeros at its end here, as far as it has a fraction. So a whole
number is found with the exponent zero, like the conversion of an integer gives it
(`parseFloat_of_atoi`).
-/

namespace SnortOptimizer.Number

open Text

/-! ## The nearest number -/

/-- The nearest whole number to a quotient; in the middle of two, the even one. -/
def roundQuotient (n d : Nat) : Nat :=
  let q := n / d
  let r := n % d
  if 2 * r < d ∨ (2 * r = d ∧ q % 2 = 0) then q else q + 1

/-- The place of the first binary digit of `num / den`. -/
def firstPlace (num den : Nat) : Int :=
  if den ≤ num then (num / den).log2 else -(((den - 1) / num).log2 : Int) - 1

/-- The place of the last of 53 binary digits, or the last one there is. -/
def lastPlace (num den : Nat) : Int := max (firstPlace num den - 52) (-1074)

/-- The nearest number to `num / den`, unless it is too large. -/
def nearest64 (negative : Bool) (num den : Nat) : Option Binary64 :=
  match lastPlace num den with
  | .ofNat e =>
      let mant := roundQuotient num (den * 2 ^ e) * 2 ^ e
      if mant.log2 < 1024 then some (.finite negative mant 0) else none
  | .negSucc e =>
      let mant := roundQuotient (num * 2 ^ (e + 1)) den
      let zeros := Nat.gcd mant (2 ^ (e + 1))
      some (.finite negative (mant / zeros) (zeros.log2 - (e + 1 : Nat)))

/-! ## Whole numbers -/

theorem roundQuotient_unit (m : Nat) :
    roundQuotient m (2 ^ (m.log2 + 1 - 53)) * 2 ^ (m.log2 + 1 - 53) = roundMant m := by
  unfold roundQuotient roundMant
  dsimp only
  split <;> rfl

theorem roundQuotient_one (n : Nat) : roundQuotient n 1 = n := by
  rw [roundQuotient, Nat.mod_one, Nat.div_one, if_pos (.inl (by decide))]

theorem lastPlace_one {n : Nat} (h : 0 < n) : lastPlace n 1 = (n.log2 : Int) - 52 := by
  have hone : 1 ≤ n := h
  rw [lastPlace, firstPlace, if_pos hone, Nat.div_one]
  omega

/-- A whole number that does not need more than 64 digits is far from too large. -/
theorem nearest64_one (negative : Bool) {n : Nat} (h : n < 2 ^ 64) :
    nearest64 negative n 1 = some (.finite negative (roundMant n) 0) := by
  rcases Nat.eq_zero_or_pos n with rfl | hn
  · cases negative <;> decide +kernel
  rw [nearest64, lastPlace_one hn]
  rcases Nat.lt_or_ge n.log2 52 with hlog | hlog
  · -- all digits are there, and zeros that are taken off again
    obtain ⟨k, hk⟩ : ∃ k, 52 - n.log2 = k + 1 := ⟨51 - n.log2, by omega⟩
    have hplace : (n.log2 : Int) - 52 = Int.negSucc k := by omega
    have hshort : Short n := by
      refine ⟨n, 0, ?_, (Nat.mul_one n).symm⟩
      calc n < 2 ^ (n.log2 + 1) := Nat.lt_log2_self
        _ ≤ 2 ^ 53 := Nat.pow_le_pow_right (by decide) (by omega)
    rw [hplace]
    simp only [roundQuotient_one, Nat.gcd_mul_left_left]
    rw [Nat.mul_div_cancel _ (Nat.pow_pos (by decide)), Nat.log2_two_pow,
      (roundMant_eq_self_iff n).mpr hshort, Int.sub_self]
  · have hplace : (n.log2 : Int) - 52 = Int.ofNat (n.log2 + 1 - 53) := by
      rw [Int.ofNat_eq_natCast]
      omega
    have hsmall : (roundMant n).log2 < 1024 := by
      obtain ⟨hlower, hupper⟩ := roundMant_bounds n
      have hlt : (roundMant n).log2 < 65 := (Nat.log2_lt (by omega)).mpr (by omega)
      omega
    rw [hplace]
    simp only [Nat.one_mul, roundQuotient_unit]
    rw [if_pos hsmall]

/-! ## Numbers that are too large -/

theorem roundQuotient_lt_iff {n d k : Nat} (hd : 0 < d) (hk : k % 2 = 0) :
    roundQuotient n d < k ↔ 2 * n + d < 2 * (k * d) := by
  have hsplit := Nat.div_add_mod n d
  have hr := Nat.mod_lt n hd
  unfold roundQuotient
  dsimp only
  generalize n / d = q at *
  generalize n % d = r at *
  -- against the whole number before `k`, which is odd
  rcases Nat.lt_trichotomy (q + 1) k with hlt | heq | hgt
  · have hle : d * (q + 2) ≤ k * d := by
      rw [Nat.mul_comm k]
      exact Nat.mul_le_mul_left d hlt
    rw [Nat.mul_add] at hle
    constructor
    · intro _
      omega
    · intro _
      split <;> omega
  · subst heq
    have hprod : (q + 1) * d = d * q + d := by rw [Nat.succ_mul, Nat.mul_comm]
    rw [hprod]
    split <;> omega
  · have hle : k * d ≤ d * q := by
      rw [Nat.mul_comm d]
      exact Nat.mul_le_mul_right d (by omega)
    constructor
    · intro h
      split at h <;> omega
    · intro h
      omega

theorem roundQuotient_bounds (n d : Nat) :
    n / d ≤ roundQuotient n d ∧ roundQuotient n d ≤ n / d + 1 := by
  unfold roundQuotient
  dsimp only
  split <;> omega

/-- The quotient has 53 binary digits in front of the last place. -/
theorem quotient_bounds {num den e : Nat} (he : firstPlace num den = e + 52) :
    2 ^ 52 ≤ num / (den * 2 ^ e) ∧ num / (den * 2 ^ e) < 2 ^ 53 := by
  have hlog : (num / den).log2 = e + 52 := by
    unfold firstPlace at he
    split at he <;> omega
  have hpos : num / den ≠ 0 := by
    intro hzero
    rw [hzero, Nat.log2_zero] at hlog
    omega
  have hlo := Nat.log2_self_le hpos
  have hhi : num / den < 2 ^ ((num / den).log2 + 1) := Nat.lt_log2_self
  rw [hlog] at hlo hhi
  rw [← Nat.div_div_eq_div_mul]
  constructor
  · rw [Nat.le_div_iff_mul_le (Nat.two_pow_pos e), Nat.mul_comm, ← Nat.pow_add]
    exact hlo
  · rw [Nat.div_lt_iff_lt_mul (Nat.two_pow_pos e), Nat.mul_comm, ← Nat.pow_add]
    exact hhi

/-- The last place is below the one of the largest number, is that one, or is beyond it. -/
theorem rounded_lt_iff {num den q unit limit : Nat} (hden : 0 < den) (hlimit : 0 < limit)
    (hlo : 2 ^ 52 * (den * unit) ≤ num) (hhi : num < 2 ^ 53 * (den * unit))
    (hq : 2 ^ 52 ≤ q ∧ q ≤ 2 ^ 53)
    (htie : q < 2 ^ 53 ↔ 2 * num + den * unit < 2 * (2 ^ 53 * (den * unit)))
    (hunit : unit ≤ limit ∨ unit = 2 * limit ∨ 4 * limit ≤ unit) :
    q * unit < 2 ^ 54 * limit ↔ num < (2 ^ 54 - 1) * (den * limit) := by
  have hpos : 0 < den * limit := Nat.mul_pos hden hlimit
  rcases hunit with hunit | rfl | hunit
  · -- not even 53 ones are too large
    have hmant := Nat.mul_le_mul hq.2 hunit
    have hden' := Nat.mul_le_mul_left den hunit
    constructor <;> intro _ <;> omega
  · -- the last place of the largest number: it depends on the rounding
    have hdouble : den * (2 * limit) = 2 * (den * limit) := Nat.mul_left_comm _ _ _
    have hmant : q * (2 * limit) < 2 ^ 54 * limit ↔ q < 2 ^ 53 := by
      rw [← Nat.mul_assoc, Nat.mul_lt_mul_right hlimit]
      omega
    rw [hmant, htie, hdouble]
    omega
  · -- a one in the first place is too large already
    have hmant := Nat.mul_le_mul hq.1 hunit
    have hden' := Nat.mul_le_mul_left den hunit
    have hfour : den * (4 * limit) = 4 * (den * limit) := Nat.mul_left_comm _ _ _
    constructor <;> intro _ <;> omega

/-- A number with digits behind the point among its 53. -/
theorem lt_of_lastPlace_negSucc {num den e : Nat} (hden : 0 < den)
    (h : lastPlace num den = .negSucc e) : num < den * 2 ^ 52 := by
  have hfirst : firstPlace num den < 52 := by
    unfold lastPlace at h
    omega
  unfold firstPlace at hfirst
  split at hfirst
  · have hlog : num / den < 2 ^ 52 := by
      by_cases hzero : num / den = 0
      · omega
      · exact (Nat.log2_lt hzero).mp (by omega)
    rwa [Nat.div_lt_iff_lt_mul hden, Nat.mul_comm] at hlog
  · have hle : den * 1 ≤ den * 2 ^ 52 := Nat.mul_le_mul_left den (by decide)
    omega

/-- Half a unit in the last place above the largest number is too much. -/
theorem nearest64_isSome_iff (negative : Bool) (num : Nat) {den : Nat} (hden : 0 < den) :
    (nearest64 negative num den).isSome = true ↔ num < den * ((2 ^ 54 - 1) * 2 ^ 970) := by
  -- the powers stay as they are
  generalize hlast : 970 = last
  have hsum : 1024 = 54 + last := by omega
  unfold nearest64
  rw [hsum]
  cases hplace : lastPlace num den with
  | negSucc e =>
      have hlt := lt_of_lastPlace_negSucc hden hplace
      refine ⟨fun _ => Nat.lt_of_lt_of_le hlt (Nat.mul_le_mul_left den ?_), fun _ => rfl⟩
      have hdigits : 2 ^ 52 ≤ 2 ^ 54 - 1 := by decide
      exact Nat.le_trans hdigits (Nat.le_mul_of_pos_right _ (Nat.two_pow_pos _))
  | ofNat e =>
      have hfirst : firstPlace num den = e + 52 := by
        rw [lastPlace, Int.ofNat_eq_natCast] at hplace
        omega
      obtain ⟨hlo, hhi⟩ := quotient_bounds hfirst
      have hunit := Nat.two_pow_pos e
      have hquotient : 2 ^ 52 ≤ roundQuotient num (den * 2 ^ e) ∧
          roundQuotient num (den * 2 ^ e) ≤ 2 ^ 53 := by
        have hbounds := roundQuotient_bounds num (den * 2 ^ e)
        omega
      have hne : roundQuotient num (den * 2 ^ e) * 2 ^ e ≠ 0 :=
        Nat.mul_ne_zero (by omega) hunit.ne'
      have hsome : ((if (roundQuotient num (den * 2 ^ e) * 2 ^ e).log2 < 54 + last then
          some (Binary64.finite negative (roundQuotient num (den * 2 ^ e) * 2 ^ e) 0)
          else none).isSome = true) ↔
          roundQuotient num (den * 2 ^ e) * 2 ^ e < 2 ^ 54 * 2 ^ last := by
        rw [← Nat.pow_add, ← Nat.log2_lt hne]
        split <;> simp_all
      refine hsome.trans ?_
      rw [Nat.div_lt_iff_lt_mul (Nat.mul_pos hden hunit)] at hhi
      rw [Nat.le_div_iff_mul_le (Nat.mul_pos hden hunit)] at hlo
      have hlimit : den * ((2 ^ 54 - 1) * 2 ^ last) = (2 ^ 54 - 1) * (den * 2 ^ last) :=
        Nat.mul_left_comm _ _ _
      have htie :=
        roundQuotient_lt_iff (n := num) (k := 2 ^ 53) (Nat.mul_pos hden hunit) (by decide)
      rw [hlimit]
      refine rounded_lt_iff hden (Nat.two_pow_pos _) hlo hhi hquotient htie ?_
      rcases Nat.lt_trichotomy e (last + 1) with hlt | rfl | hgt
      · exact .inl (Nat.pow_le_pow_right (by decide) (by omega))
      · exact .inr (.inl Nat.pow_succ')
      · refine .inr (.inr ?_)
        rw [show 4 = 2 ^ 2 from rfl, ← Nat.pow_add]
        exact Nat.pow_le_pow_right (by decide) (by omega)

/-! ## The syntax -/

def takeSign : List Char → Bool × List Char
  | '-' :: cs => (true, cs)
  | '+' :: cs => (false, cs)
  | cs => (false, cs)

/-- `special`: what is no finite number. Case does not matter, and the infinity may have a sign. -/
def special (s : List Char) : Option Binary64 :=
  let word := (takeSign s).2.map Char.toLower
  if word = "inf".toList ∨ word = "infinity".toList then some (.inf (takeSign s).1)
  else if s.map Char.toLower = "nan".toList then some .nan
  else none

/-- Only a hexadecimal number has letters among its digits. -/
def digitValue (hex : Bool) (c : Char) : Option Nat :=
  if c.isDigit then some (c.toNat - '0'.toNat)
  else if hex ∧ 'a' ≤ c.toLower ∧ c.toLower ≤ 'f' then some (c.toLower.toNat - 'a'.toNat + 10)
  else none

/-- The digits of a number so far, as one whole number, and how many are behind the point. -/
structure Mantissa where
  digits : Nat
  scale : Nat
  sawDot : Bool
  sawDigits : Bool
  deriving DecidableEq, Repr

def Mantissa.empty : Mantissa := { digits := 0, scale := 0, sawDot := false, sawDigits := false }

def Mantissa.push (m : Mantissa) (base d : Nat) : Mantissa :=
  { m with
    digits := base * m.digits + d
    scale := if m.sawDot then m.scale + 1 else m.scale
    sawDigits := true }

/-- The first loop of `readFloat`. The rest begins with what is no digit, or with a second point. -/
def readMantissa (hex : Bool) (m : Mantissa) : List Char → Mantissa × List Char
  | [] => (m, [])
  | c :: cs =>
      if c = '_' then readMantissa hex m cs
      else if c = '.' then
        if m.sawDot then (m, c :: cs) else readMantissa hex { m with sawDot := true } cs
      else
        match digitValue hex c with
        | some d => readMantissa hex (m.push (if hex then 16 else 10) d) cs
        | none => (m, c :: cs)

/-- The digits of an exponent. It does not grow any more when it is huge. -/
def readExponent (e : Nat) : List Char → Option Nat
  | [] => some e
  | c :: cs =>
      if c = '_' then readExponent e cs
      else if c.isDigit then
        readExponent (if e < 10000 then 10 * e + (c.toNat - '0'.toNat) else e) cs
      else none

/-- The exponent, from its sign to the end of the text. It begins with a digit. -/
def signedExponent (s : List Char) : Option Int :=
  match takeSign s with
  | (_, []) => none
  | (negative, c :: cs) =>
      if c.isDigit then
        (readExponent 0 (c :: cs)).map fun (e : Nat) => if negative then -(e : Int) else e
      else none

/-- What `underscoreOK` has seen last. -/
inductive Saw where
  | start
  | digit          -- or what stands before the digits
  | underscore
  | other
  deriving DecidableEq, Repr

def underscoresFrom (hex : Bool) (saw : Saw) : List Char → Bool
  | [] => saw ≠ .underscore
  | c :: cs =>
      if (digitValue hex c).isSome then underscoresFrom hex .digit cs
      else if c = '_' then saw = .digit && underscoresFrom hex .underscore cs
      else saw ≠ .underscore && underscoresFrom hex .other cs

/-- `underscoreOK`: an underscore stands between digits only. -/
def underscoreOK (s : List Char) : Bool :=
  match (takeSign s).2 with
  | '0' :: c :: cs =>
      if ['b', 'o', 'x'].contains c.toLower then underscoresFrom (c.toLower = 'x') .digit cs
      else underscoresFrom false .start ('0' :: c :: cs)
  | cs => underscoresFrom false .start cs

/-- What is behind `0x`, if there is anything. -/
def takeHex : List Char → Bool × List Char
  | '0' :: x :: c :: cs => if x.toLower = 'x' then (true, c :: cs) else (false, '0' :: x :: c :: cs)
  | cs => (false, cs)

/-- A number as it is written: `± digits * 10 ^ exp`, or `± digits * 2 ^ exp`. -/
structure Numeral where
  negative : Bool
  hex : Bool
  digits : Nat
  exp : Int
  deriving DecidableEq, Repr

/-- `readFloat`, of a text that it reads to its end. -/
def readFloat (s : List Char) : Option Numeral :=
  let prefixed := takeHex (takeSign s).2
  let hex := prefixed.1
  let read := readMantissa hex .empty prefixed.2
  let m := read.1
  let numeral (e : Int) : Numeral :=
    { negative := (takeSign s).1, hex, digits := m.digits
      exp := e - (if hex then 4 * m.scale else m.scale : Nat) }
  if m.sawDigits = false ∨ underscoreOK s = false then none
  else
    match read.2 with
    | [] => if hex then none else some (numeral 0)
    | c :: cs =>
        if c.toLower = (if hex then 'p' else 'e') then (signedExponent cs).map numeral else none

def Numeral.value (n : Numeral) : Option Binary64 :=
  let base := if n.hex then 2 else 10
  match n.exp with
  | .ofNat e => nearest64 n.negative (n.digits * base ^ e) 1
  | .negSucc e => nearest64 n.negative n.digits (base ^ (e + 1))

/-- `strconv.ParseFloat(s, 64)`, and `none` where it returns an error. -/
def parseFloat (s : String) : Option Binary64 :=
  match special s.toList with
  | some f => some f
  | none => (readFloat s.toList).bind Numeral.value

/-! ## Decimals -/

theorem toLower_of_isDigit {c : Char} (h : c.isDigit = true) : c.toLower = c := by
  rw [Char.isDigit, Bool.and_eq_true, decide_eq_true_eq, decide_eq_true_eq] at h
  exact dif_neg fun hupper => absurd (Nat.le_trans hupper.1 h.2) (by decide)

theorem underscoresFrom_of_notMem {hex : Bool} {saw : Saw} {cs : List Char} (h : '_' ∉ cs)
    (hsaw : saw ≠ .underscore) : underscoresFrom hex saw cs = true := by
  induction cs generalizing saw with
  | nil => simp [underscoresFrom, hsaw]
  | cons c cs ih =>
      rw [List.mem_cons, not_or] at h
      rw [underscoresFrom, if_neg (Ne.symm h.1)]
      split
      · exact ih h.2 nofun
      · simp [hsaw, ih h.2]

theorem underscoreOK_of_notMem {s : List Char} (h : '_' ∉ (takeSign s).2) :
    underscoreOK s = true := by
  unfold underscoreOK
  split
  · next c cs heq =>
      rw [heq] at h
      split
      · exact underscoresFrom_of_notMem (fun hc => h (by simp [hc])) nofun
      · exact underscoresFrom_of_notMem h nofun
  · exact underscoresFrom_of_notMem h nofun

/-- A digit or the point. -/
def IsDecimal (c : Char) : Prop := c.isDigit = true ∨ c = '.'

/-- The digits, one after the other. -/
def Mantissa.pushDigits (m : Mantissa) (cs : List Char) : Mantissa :=
  cs.foldl (fun m c => m.push 10 (c.toNat - '0'.toNat)) m

@[simp] theorem pushDigits_digits (m : Mantissa) (cs : List Char) :
    (m.pushDigits cs).digits = Nat.ofDigitChars 10 cs m.digits := by
  induction cs generalizing m with
  | nil => rfl
  | cons c cs ih => exact ih _

@[simp] theorem pushDigits_sawDot (m : Mantissa) (cs : List Char) :
    (m.pushDigits cs).sawDot = m.sawDot := by
  induction cs generalizing m with
  | nil => rfl
  | cons c cs ih => exact ih _

@[simp] theorem pushDigits_sawDigits (m : Mantissa) (cs : List Char) :
    (m.pushDigits cs).sawDigits = (m.sawDigits || !cs.isEmpty) := by
  induction cs generalizing m with
  | nil => exact (Bool.or_false _).symm
  | cons c cs ih => exact (ih _).trans (by simp [Mantissa.push])

@[simp] theorem pushDigits_scale (m : Mantissa) (cs : List Char) :
    (m.pushDigits cs).scale = if m.sawDot then m.scale + cs.length else m.scale := by
  induction cs generalizing m with
  | nil => simp [Mantissa.pushDigits]
  | cons c cs ih =>
      rw [show m.pushDigits (c :: cs) = (m.push 10 _).pushDigits cs from rfl, ih]
      cases hdot : m.sawDot <;> simp [Mantissa.push, hdot, Nat.add_assoc, Nat.add_comm 1]

theorem readMantissa_point (m : Mantissa) (rest : List Char) :
    readMantissa false m ('.' :: rest) =
      if m.sawDot then (m, '.' :: rest) else readMantissa false { m with sawDot := true } rest := by
  rw [readMantissa, if_neg (by decide), if_pos rfl]

theorem readMantissa_append_digits {cs : List Char} (h : ∀ c ∈ cs, c.isDigit = true) (m : Mantissa)
    (rest : List Char) :
    readMantissa false m (cs ++ rest) = readMantissa false (m.pushDigits cs) rest := by
  induction cs generalizing m with
  | nil => rfl
  | cons c cs ih =>
      rw [List.forall_mem_cons] at h
      have hunderscore : c ≠ '_' := by
        rintro rfl
        cases h.1
      have hpoint : c ≠ '.' := by
        rintro rfl
        cases h.1
      have hvalue : digitValue false c = some (c.toNat - '0'.toNat) := by
        rw [digitValue, if_pos h.1]
      rw [List.cons_append, readMantissa, if_neg hunderscore, if_neg hpoint, hvalue]
      exact ih h.2 _

theorem IsDecimal.toLower {c : Char} (h : IsDecimal c) : c.toLower = c := by
  rcases h with h | rfl
  · exact toLower_of_isDigit h
  · rfl

theorem not_isDecimal {c : Char} (h : (c.isDigit || c == '.') = false) : ¬ IsDecimal c := by
  intro hc
  rw [Bool.or_eq_false_iff] at h
  rcases hc with hc | rfl
  · rw [hc] at h
    cases h.1
  · cases h.2

/-- The digits end at a point. -/
theorem head_dropWhile_decimal {cs : List Char} (h : ∀ c ∈ cs, IsDecimal c) :
    ∀ c ∈ (cs.dropWhile Char.isDigit).head?, c = '.' := by
  intro c hc
  have hmem := (List.dropWhile_sublist _).subset (List.mem_of_head? hc)
  have hnot := List.head?_dropWhile_not Char.isDigit cs
  rw [hc] at hnot
  exact (h c hmem).resolve_left (by simpa using hnot)

theorem map_toLower_decimal {cs : List Char} (h : ∀ c ∈ cs, IsDecimal c) :
    cs.map Char.toLower = cs := by
  rw [List.map_congr_left fun c hc => (h c hc).toLower, List.map_id']

theorem takeHex_decimal {cs : List Char} (h : ∀ c ∈ cs, IsDecimal c) :
    takeHex cs = (false, cs) := by
  unfold takeHex
  split
  · next x c cs =>
      have hx : IsDecimal x := h x (by simp)
      have hne : x.toLower ≠ 'x' := by
        rw [hx.toLower]
        rintro rfl
        exact not_isDecimal (by decide) hx
      rw [if_neg hne]
  · rfl

theorem special_decimal {s : List Char} (h : ∀ c ∈ (takeSign s).2, IsDecimal c) :
    special s = none := by
  have hword : ∀ word : List Char, word.head?.any (fun c => c.isDigit || c == '.') = false →
      word ≠ [] → (takeSign s).2 ≠ word := by
    rintro (_ | ⟨c, word⟩) hc hne heq
    · exact hne rfl
    · exact not_isDecimal hc (h c (heq ▸ List.mem_cons_self))
  rw [special, if_neg, if_neg]
  · -- a sign does not go with it
    intro hnan
    have hsign : takeSign s = (false, s) := by
      unfold takeSign
      split
      · cases hnan
      · cases hnan
      · rfl
    rw [← map_toLower_decimal h, hsign] at hword
    exact hword _ (by decide) (by decide) hnan
  · rw [map_toLower_decimal h, not_or]
    exact ⟨hword _ (by decide) (by decide), hword _ (by decide) (by decide)⟩

/-- What the loop leaves decides: nothing, or a second point. -/
theorem readFloat_of_readMantissa {s : List Char} (h : ∀ c ∈ (takeSign s).2, IsDecimal c)
    {m : Mantissa} {rest : List Char}
    (hread : readMantissa false .empty (takeSign s).2 = (m, rest)) :
    (rest = [] → readFloat s =
      if m.sawDigits then some
        { negative := (takeSign s).1, hex := false, digits := m.digits, exp := -(m.scale : Int) }
      else none) ∧
    (rest.head? = some '.' → readFloat s = none) := by
  have hunderscore : underscoreOK s = true :=
    underscoreOK_of_notMem fun hmem => not_isDecimal (by decide) (h _ hmem)
  rw [readFloat, takeHex_decimal h, hunderscore]
  simp only [hread]
  constructor
  · rintro rfl
    cases m.sawDigits <;> simp
  · intro hpoint
    obtain ⟨more, rfl⟩ := List.head?_eq_some_iff.mp hpoint
    simp

/-- The text of a number is read to its end, or to its second point. -/
theorem readFloat_decimal {s : List Char} (h : ∀ c ∈ (takeSign s).2, IsDecimal c) :
    let whole := (takeSign s).2.takeWhile Char.isDigit
    let fraction := ((takeSign s).2.dropWhile Char.isDigit).tail
    readFloat s =
      if (whole = [] ∧ fraction = []) ∨ fraction.any (!·.isDigit) = true then none
      else some
        { negative := (takeSign s).1, hex := false
          digits := Nat.ofDigitChars 10 (whole ++ fraction) 0
          exp := -(fraction.length : Int) } := by
  intro whole fraction
  have hdigits : ∀ cs : List Char, ∀ c ∈ cs.takeWhile Char.isDigit, c.isDigit = true :=
    fun cs c hc => List.mem_takeWhile_imp hc
  have hread := readMantissa_append_digits (hdigits (takeSign s).2) .empty
    ((takeSign s).2.dropWhile Char.isDigit)
  rw [List.takeWhile_append_dropWhile] at hread
  cases hrest : (takeSign s).2.dropWhile Char.isDigit with
  | nil =>
      -- no point at all
      have hfraction : fraction = [] := congrArg List.tail hrest
      rw [hrest, readMantissa] at hread
      rw [(readFloat_of_readMantissa h hread).1 rfl, hfraction]
      by_cases hnil : whole = [] <;> simp [whole, hnil, Mantissa.empty]
  | cons c rest =>
      have hfraction : fraction = rest := congrArg List.tail hrest
      have hc : c = '.' := head_dropWhile_decimal h c (by rw [hrest]; rfl)
      have hdecimal : ∀ c ∈ fraction, IsDecimal c := by
        intro d hd
        have hmem : d ∈ (takeSign s).2.dropWhile Char.isDigit := List.mem_of_mem_tail hd
        exact h d ((List.dropWhile_sublist _).subset hmem)
      have hsplit : fraction.takeWhile Char.isDigit ++ fraction.dropWhile Char.isDigit = rest := by
        rw [List.takeWhile_append_dropWhile, hfraction]
      -- the first point, and the digits behind it
      rw [hrest, hc, readMantissa_point, pushDigits_sawDot,
        if_neg (show ¬ Mantissa.empty.sawDot = true from Bool.false_ne_true), ← hsplit,
        readMantissa_append_digits (hdigits fraction)] at hread
      cases hmore : fraction.dropWhile Char.isDigit with
      | nil =>
          have hall : ∀ c ∈ fraction, c.isDigit = true := List.dropWhile_eq_nil_iff.mp hmore
          rw [hmore, List.takeWhile_eq_self_iff.mpr hall, readMantissa] at hread
          have hnone : fraction.any (!·.isDigit) = false := by simpa using hall
          rw [(readFloat_of_readMantissa h hread).1 rfl, hnone]
          by_cases hnil : whole = []
          · by_cases hnil' : fraction = [] <;>
              simp [whole, hnil, hnil', Mantissa.empty]
          · simp [whole, hnil, Mantissa.empty, Nat.ofDigitChars_append]
      | cons d more =>
          -- the loop stops at the second point, and `readFloat` with it
          have hd : d = '.' := head_dropWhile_decimal hdecimal d (by rw [hmore]; rfl)
          rw [hmore, hd, readMantissa_point, pushDigits_sawDot, if_pos rfl] at hread
          have hmem : '.' ∈ fraction :=
            (List.dropWhile_sublist _).subset (by rw [hmore, hd]; exact List.mem_cons_self)
          rw [(readFloat_of_readMantissa h hread).2 rfl, if_pos]
          exact .inr (List.any_eq_true.mpr ⟨'.', hmem, by decide⟩)

theorem Numeral.value_neg (negative : Bool) (digits places : Nat) :
    Numeral.value { negative, hex := false, digits, exp := -(places : Int) } =
      nearest64 negative digits (10 ^ places) := by
  cases places with
  | zero =>
      show nearest64 negative (digits * 10 ^ 0) 1 = _
      rw [Nat.pow_zero, Nat.mul_one]
  | succ n => rfl

/-- **What is written with digits and points only** is a number if it has a digit and not a second
point, and not too large. -/
theorem parseFloat_decimal {s : String} (h : ∀ c ∈ (takeSign s.toList).2, IsDecimal c) :
    let whole := (takeSign s.toList).2.takeWhile Char.isDigit
    let fraction := ((takeSign s.toList).2.dropWhile Char.isDigit).tail
    parseFloat s =
      if (whole = [] ∧ fraction = []) ∨ fraction.any (!·.isDigit) = true then none
      else
        nearest64 (takeSign s.toList).1 (Nat.ofDigitChars 10 (whole ++ fraction) 0)
          (10 ^ fraction.length) := by
  intro whole fraction
  rw [parseFloat, special_decimal h, readFloat_decimal h]
  dsimp only
  split
  · rfl
  · exact Numeral.value_neg _ _ _

/-! ## Integers -/

theorem takeSign_fst (s : List Char) : (takeSign s).1 = decide (s.head? = some '-') := by
  unfold takeSign
  split
  · rfl
  · rfl
  · next hminus _ =>
      symm
      rw [decide_eq_false_iff_not]
      intro hhead
      obtain ⟨cs, rfl⟩ := List.head?_eq_some_iff.mp hhead
      exact hminus cs rfl

theorem foldl_natCast (cs : List Char) (n : Nat) :
    cs.foldl (fun (n : Int) c => 10 * n + (c.toNat - '0'.toNat : Nat)) n =
      (Nat.ofDigitChars 10 cs n : Nat) := by
  induction cs generalizing n with
  | nil => rfl
  | cons c cs ih =>
      rw [List.foldl_cons, Nat.ofDigitChars_cons, ← ih]
      rfl

theorem atoi_eq (s : List Char) :
    atoi s =
      let digits := (takeSign s).2
      if digits = [] ∨ digits.any (!·.isDigit) then none
      else
        let n : Int := Nat.ofDigitChars 10 digits 0
        let v := if s.head? = some '-' then -n else n
        if -2 ^ 63 ≤ v ∧ v < 2 ^ 63 then some v else none := by
  have hcast : ∀ cs : List Char,
      cs.foldl (fun (n : Int) c => 10 * n + (c.toNat - '0'.toNat : Nat)) 0 =
        Nat.ofDigitChars 10 cs 0 :=
    fun cs => foldl_natCast cs 0
  unfold atoi
  simp only [hcast]
  split
  · rfl
  · rfl
  · next hminus hplus => rw [takeSign.eq_3 s hminus hplus]

/-- What is behind the sign of an integer, and the integer. -/
theorem atoi_eq_some {s : List Char} {n : Int} (h : atoi s = some n) :
    ((takeSign s).2 ≠ [] ∧ ∀ c ∈ (takeSign s).2, c.isDigit = true) ∧
      n = (if s.head? = some '-' then -(Nat.ofDigitChars 10 (takeSign s).2 0 : Int)
        else Nat.ofDigitChars 10 (takeSign s).2 0) ∧
      -2 ^ 63 ≤ n ∧ n < 2 ^ 63 := by
  rw [atoi_eq] at h
  dsimp only at h
  rw [Option.ite_none_left_eq_some, Option.ite_none_right_eq_some, not_or] at h
  obtain ⟨⟨hne, hdigits⟩, hfits, hn⟩ := h
  cases hn
  exact ⟨⟨hne, by simpa using hdigits⟩, rfl, hfits⟩

/-- **An integer is read as a number too**, as the nearest one. It keeps its sign, even if it is
zero. -/
theorem parseFloat_of_atoi {s : String} {n : Int} (h : atoi s.toList = some n) :
    parseFloat s = some (.finite (decide (s.toList.head? = some '-')) (roundMant n.natAbs) 0) := by
  obtain ⟨⟨hne, hdigits⟩, hn, hlo, hhi⟩ := atoi_eq_some h
  have hwhole : (takeSign s.toList).2.takeWhile Char.isDigit = (takeSign s.toList).2 :=
    List.takeWhile_eq_self_iff.mpr hdigits
  have hrest : (takeSign s.toList).2.dropWhile Char.isDigit = [] :=
    List.dropWhile_eq_nil_iff.mpr hdigits
  have hnumber : Nat.ofDigitChars 10 (takeSign s.toList).2 0 = n.natAbs := by
    split at hn <;> omega
  rw [parseFloat_decimal fun c hc => .inl (hdigits c hc), hwhole, hrest, if_neg (by simp [hne])]
  rw [List.tail_nil, List.append_nil, List.length_nil, Nat.pow_zero, hnumber, takeSign_fst]
  exact nearest64_one _ (by omega)

/-- A whole number that needs no rounding is read as it is. -/
theorem parseFloat_toString {n : Nat} (h : n < 2 ^ 53) :
    parseFloat (toString n) = some (.finite false n 0) := by
  have hatoi : atoi (toString n).toList = some (n : Int) := atoi_toString_nat (by omega)
  have hsign : ¬ (toString n).toList.head? = some '-' := fun hhead => (head_toString hhead).1 rfl
  have hshort : Short n := ⟨n, 0, h, (Nat.mul_one n).symm⟩
  rw [parseFloat_of_atoi hatoi, decide_eq_false hsign, Int.natAbs_natCast,
    (roundMant_eq_self_iff n).mpr hshort]

example : parseFloat "-0" = some (.finite true 0 0) := by decide +kernel
example : parseFloat "1_0.25" = some (.finite false 41 (-2)) := by decide +kernel
example : parseFloat "0.1" = some (.finite false 3602879701896397 (-55)) := by decide +kernel

/-! ## What is no number -/

/-- A text without a blank, and with so many points at most. -/
def Compact (points : Nat) (cs : List Char) : Prop := ' ' ∉ cs ∧ cs.count '.' ≤ points

theorem Compact.append {j k : Nat} {cs ds : List Char} (h : Compact j cs) (h' : Compact k ds) :
    Compact (j + k) (cs ++ ds) := by
  refine ⟨fun hmem => ?_, ?_⟩
  · rcases List.mem_append.mp hmem with hmem | hmem
    · exact h.1 hmem
    · exact h'.1 hmem
  · rw [List.count_append]
    exact Nat.add_le_add h.2 h'.2

theorem compact_zero {cs : List Char} (h : ∀ c ∈ cs, c ≠ ' ' ∧ c ≠ '.') : Compact 0 cs := by
  refine ⟨fun hmem => (h _ hmem).1 rfl, Nat.le_of_eq ?_⟩
  exact List.count_eq_zero.mpr fun hmem => (h _ hmem).2 rfl

theorem digitValue_ne {hex : Bool} {c : Char} {d : Nat} (h : digitValue hex c = some d) :
    c ≠ ' ' ∧ c ≠ '.' := by
  constructor
  · rintro rfl
    cases hex <;> cases h
  · rintro rfl
    cases hex <;> cases h

theorem takeSign_append (s : List Char) : ∃ sign, s = sign ++ (takeSign s).2 ∧ Compact 0 sign := by
  unfold takeSign
  split
  · exact ⟨['-'], rfl, by decide, by decide⟩
  · exact ⟨['+'], rfl, by decide, by decide⟩
  · exact ⟨[], rfl, by decide, by decide⟩

theorem takeHex_append (cs : List Char) :
    ∃ start, cs = start ++ (takeHex cs).2 ∧ Compact 0 start := by
  unfold takeHex
  split
  · next x c cs =>
      split
      · next hx =>
          refine ⟨['0', x], rfl, compact_zero ?_⟩
          have hne : x ≠ ' ' ∧ x ≠ '.' :=
            ⟨fun h => absurd (h ▸ hx) (by decide), fun h => absurd (h ▸ hx) (by decide)⟩
          simp [hne]
      · exact ⟨[], rfl, by decide, by decide⟩
  · exact ⟨[], rfl, by decide, by decide⟩

/-- The loop does not go over a second point. -/
theorem readMantissa_append (hex : Bool) (m : Mantissa) (cs : List Char) :
    ∃ read, cs = read ++ (readMantissa hex m cs).2 ∧ Compact (if m.sawDot then 0 else 1) read := by
  induction cs generalizing m with
  | nil => exact ⟨[], rfl, by simp, by simp⟩
  | cons c cs ih =>
      rw [readMantissa]
      split
      · next hunderscore =>
          obtain ⟨read, hread, hcompact⟩ := ih m
          have hc : Compact 0 [c] := compact_zero (by simp [hunderscore])
          refine ⟨c :: read, congrArg (c :: ·) hread, ?_⟩
          simpa using hc.append hcompact
      · split
        · next hpoint =>
            split
            · exact ⟨[], rfl, by simp, by simp⟩
            · obtain ⟨read, hread, hcompact⟩ := ih { m with sawDot := true }
              have hc : Compact 1 [c] := by
                subst hpoint
                exact ⟨by decide, by decide⟩
              exact ⟨c :: read, congrArg (c :: ·) hread, hc.append hcompact⟩
        · cases hvalue : digitValue hex c with
          | none => exact ⟨[], rfl, by simp, by simp⟩
          | some d =>
              obtain ⟨read, hread, hcompact⟩ := ih (m.push (if hex then 16 else 10) d)
              have hc : Compact 0 [c] := compact_zero (by simp [digitValue_ne hvalue])
              refine ⟨c :: read, congrArg (c :: ·) hread, ?_⟩
              have hboth := hc.append hcompact
              rw [Nat.zero_add] at hboth
              exact hboth

theorem readExponent_compact {e e' : Nat} {cs : List Char} (h : readExponent e cs = some e') :
    Compact 0 cs := by
  induction cs generalizing e with
  | nil => exact ⟨by simp, by simp⟩
  | cons c cs ih =>
      rw [readExponent] at h
      have hc : c ≠ ' ' ∧ c ≠ '.' := by
        constructor
        · rintro rfl
          cases h
        · rintro rfl
          cases h
      have hcs : Compact 0 cs := by
        split at h
        · exact ih h
        · split at h
          · exact ih h
          · cases h
      exact (compact_zero (by simpa using hc) : Compact 0 [c]).append hcs

theorem signedExponent_compact {cs : List Char} {e : Int} (h : signedExponent cs = some e) :
    Compact 0 cs := by
  obtain ⟨sign, hsign, hcompact⟩ := takeSign_append cs
  rw [hsign]
  unfold signedExponent at h
  split at h
  · cases h
  · next negative c cs hcs =>
      rw [hcs]
      split at h
      · obtain ⟨e, he, -⟩ := Option.map_eq_some_iff.mp h
        exact hcompact.append (readExponent_compact he)
      · cases h

theorem compact_of_map_toLower {s word : List Char} (h : s.map Char.toLower = word)
    (hword : word.all (fun c => c ≠ ' ' ∧ c ≠ '.') = true) : Compact 0 s := by
  apply compact_zero
  intro c hc
  have hlower : c.toLower ∈ word := h ▸ List.mem_map_of_mem hc
  have hne : c.toLower ≠ ' ' ∧ c.toLower ≠ '.' := by
    simpa using List.all_eq_true.mp hword _ hlower
  constructor
  · rintro rfl
    exact hne.1 (by decide)
  · rintro rfl
    exact hne.2 (by decide)

theorem special_compact {s : List Char} {f : Binary64} (h : special s = some f) : Compact 0 s := by
  unfold special at h
  dsimp only at h
  split at h
  · next hword =>
      obtain ⟨sign, hsign, hcompact⟩ := takeSign_append s
      have hunsigned : Compact 0 (takeSign s).2 := by
        rcases hword with hword | hword
        · exact compact_of_map_toLower hword (by decide)
        · exact compact_of_map_toLower hword (by decide)
      rw [hsign]
      exact hcompact.append hunsigned
  · split at h
    · next hword => exact compact_of_map_toLower hword (by decide)
    · cases h

theorem readFloat_compact {s : List Char} {n : Numeral} (h : readFloat s = some n) :
    Compact 1 s := by
  obtain ⟨sign, hsign, hcompact⟩ := takeSign_append s
  obtain ⟨start, hstart, hcompact'⟩ := takeHex_append (takeSign s).2
  obtain ⟨read, hread, hdigits⟩ :=
    readMantissa_append (takeHex (takeSign s).2).1 .empty (takeHex (takeSign s).2).2
  have hrest : Compact 0 (readMantissa (takeHex (takeSign s).2).1 .empty
      (takeHex (takeSign s).2).2).2 := by
    rw [readFloat] at h
    dsimp only at h
    rw [Option.ite_none_left_eq_some] at h
    have hmatch := h.2
    split at hmatch
    · next hnil =>
        rw [hnil]
        exact ⟨by simp, by simp⟩
    · next c cs hcons =>
        rw [Option.ite_none_right_eq_some] at hmatch
        obtain ⟨hc, hexp⟩ := hmatch
        obtain ⟨e, he, -⟩ := Option.map_eq_some_iff.mp hexp
        have hne : c ≠ ' ' ∧ c ≠ '.' := by
          constructor
          · rintro rfl
            split at hc <;> exact absurd hc (by decide)
          · rintro rfl
            split at hc <;> exact absurd hc (by decide)
        rw [hcons]
        exact (compact_zero (by simpa using hne) : Compact 0 [c]).append (signedExponent_compact he)
  rw [hsign, hstart, hread]
  exact hcompact.append (hcompact'.append (hdigits.append hrest))

/-- **A number is some text**, without a blank and with one point at most. -/
theorem parseFloat_compact {s : String} {f : Binary64} (h : parseFloat s = some f) :
    s ≠ "" ∧ Compact 1 s.toList := by
  constructor
  · rintro rfl
    cases h
  · unfold parseFloat at h
    split at h
    · next hspecial =>
        obtain ⟨hblank, hpoints⟩ := special_compact hspecial
        exact ⟨hblank, by omega⟩
    · obtain ⟨n, hn, -⟩ := Option.bind_eq_some_iff.mp h
      exact readFloat_compact hn

end SnortOptimizer.Number
