import SnortOptimizer.Time.Calendar
import SnortOptimizer.Text.Basic
import Mathlib.Data.List.TakeWhile
import Mathlib.Tactic.Ring

/-!
# Writing time stamps

Time stamps with all their digits, and what the reader makes of them: `parse_stamp` says that a time
that is written out is read back, `parse_valid` that whatever is read is a time of the calendar, and
`parse_year` that the year is the one that was read.
-/

namespace SnortOptimizer.Time

open Text

/-! ## Numerals of a fixed width -/

/-- `%0*d`: at least `width` characters, filled up with zeros after the sign. -/
def zeroPad (width : Nat) (n : Int) : List Char :=
  let digits := (toString n.natAbs).toList
  if n < 0 then '-' :: (List.replicate (width - 1 - digits.length) '0' ++ digits)
  else List.replicate (width - digits.length) '0' ++ digits

/-- `cs` are `width` digits that say `n`. -/
structure Numeral (cs : List Char) (width n : Nat) : Prop where
  length : cs.length = width
  digits : ∀ c ∈ cs, c.isDigit = true
  value : number cs = n

theorem number_zeros (k : Nat) (cs : List Char) :
    number (List.replicate k '0' ++ cs) = number cs := by
  induction k with
  | zero => rfl
  | succ k ih =>
      rw [List.replicate_succ, List.cons_append, ← ih]
      rfl

theorem number_toString (n : Nat) : number (toString n).toList = n := by
  have hdigits : number (toString n).toList = Nat.ofDigitChars 10 (Nat.toDigits 10 n) 0 := by
    rw [Nat.toString_eq_ofList_toDigits, String.toList_ofList]
    rfl
  rw [hdigits, Nat.ofDigitChars_ten_toDigits]

theorem mem_zeroPad {width : Nat} {n : Int} {c : Char} (h : c ∈ zeroPad width n) :
    c.isDigit = true ∨ (c = '-' ∧ n < 0) := by
  have hdigits : ∀ k, c ∈ List.replicate k '0' ++ (toString n.natAbs).toList →
      c.isDigit = true := by
    intro k hc
    rcases List.mem_append.mp hc with hc | hc
    · rw [List.eq_of_mem_replicate hc]
      decide
    · exact isDigit_of_mem_toString hc
  unfold zeroPad at h
  dsimp only at h
  split at h
  · next hneg =>
      rcases List.mem_cons.mp h with rfl | h
      · exact .inr ⟨rfl, hneg⟩
      · exact .inl (hdigits _ h)
  · exact .inl (hdigits _ h)

theorem zeroPad_cons (width : Nat) (n : Int) : ∃ c cs, zeroPad width n = c :: cs ∧ c ≠ ' ' := by
  cases hpad : zeroPad width n with
  | nil =>
      unfold zeroPad at hpad
      dsimp only at hpad
      split at hpad
      · cases hpad
      · exact absurd (List.append_eq_nil_iff.mp hpad).2 (toString_nat_ne_nil _)
  | cons c cs =>
      refine ⟨c, cs, rfl, ?_⟩
      rintro rfl
      have hmem : ' ' ∈ zeroPad width n := hpad ▸ List.mem_cons_self
      rcases mem_zeroPad hmem with hdigit | ⟨hminus, _⟩
      · cases hdigit
      · exact absurd hminus (by decide)

theorem numeral_zeroPad {width n : Nat} (hwidth : 0 < width) (hn : n < 10 ^ width) :
    Numeral (zeroPad width n) width n := by
  have hlength : (toString n).toList.length ≤ width := by
    rw [Nat.toString_eq_ofList_toDigits, String.toList_ofList]
    exact (Nat.length_toDigits_le_iff (by decide) hwidth).mpr hn
  have heq : zeroPad width n =
      List.replicate (width - (toString n).toList.length) '0' ++ (toString n).toList := by
    have hpos : ¬ (n : Int) < 0 := by omega
    rw [zeroPad, if_neg hpos]
    rfl
  rw [heq]
  refine ⟨?_, ?_, ?_⟩
  · rw [List.length_append, List.length_replicate]
    omega
  · intro c hc
    rw [← heq] at hc
    exact (mem_zeroPad hc).resolve_right fun h => by omega
  · rw [number_zeros, number_toString]

/-- A numeral that fills its width is not padded. -/
theorem numeral_toString {width n : Nat} (hn : 10 ^ width ≤ n) (hlt : n < 10 ^ (width + 1)) :
    Numeral (toString n).toList (width + 1) n := by
  have hle : (toString n).toList.length ≤ width + 1 := by
    rw [Nat.toString_eq_ofList_toDigits, String.toList_ofList]
    exact (Nat.length_toDigits_le_iff (by decide) (by omega)).mpr hlt
  have hge : ¬ (toString n).toList.length ≤ width := by
    intro h
    cases width with
    | zero => exact toString_nat_ne_nil n (List.eq_nil_of_length_eq_zero (Nat.le_zero.mp h))
    | succ k =>
        rw [Nat.toString_eq_ofList_toDigits, String.toList_ofList,
          Nat.length_toDigits_le_iff (by decide) (by omega)] at h
        omega
  exact ⟨by omega, fun c hc => isDigit_of_mem_toString hc, number_toString n⟩

theorem Numeral.exists_digit {cs : List Char} {width n : Nat} (h : Numeral cs (width + 1) n) :
    ∃ c rest, cs = c :: rest ∧ c.isDigit = true := by
  cases cs with
  | nil => cases h.length
  | cons c rest => exact ⟨c, rest, rfl, h.digits c List.mem_cons_self⟩

/-! ## Reading numerals -/

theorem Numeral.exists_pair {cs : List Char} {n : Nat} (h : Numeral cs 2 n) :
    ∃ c d, cs = [c, d] ∧ c.isDigit = true ∧ d.isDigit = true ∧ n = 10 * digit c + digit d := by
  obtain ⟨hlength, hdigits, hnumber⟩ := h
  obtain ⟨c, d, rfl⟩ := List.length_eq_two.mp hlength
  refine ⟨c, d, rfl, hdigits c (by simp), hdigits d (by simp), ?_⟩
  rw [← hnumber]
  simp [number]

theorem getnum_numeral {cs : List Char} {n : Nat} (h : Numeral cs 2 n) (fixed : Bool)
    (rest : List Char) : getnum fixed (cs ++ rest) = some (n, rest) := by
  obtain ⟨c, d, rfl, hc, hd, rfl⟩ := h.exists_pair
  simp [getnum, hc, hd]

theorem getnumIn_numeral {cs : List Char} {n lo hi : Nat} (h : Numeral cs 2 n) (fixed : Bool)
    (rest : List Char) (hlo : lo ≤ n) (hhi : n ≤ hi) :
    getnumIn fixed lo hi (cs ++ rest) = some (n, rest) := by
  simp [getnumIn, getnum_numeral h, hlo, hhi]

theorem readFraction_numeral {cs : List Char} {n : Nat} (h : Numeral cs 6 n) :
    readFraction ('.' :: cs) = some (n * 1000, []) := by
  obtain ⟨hlength, hdigits, hnumber⟩ := h
  cases cs with
  | nil => cases hlength
  | cons d rest =>
      have hall : (d :: rest).takeWhile Char.isDigit = d :: rest :=
        List.takeWhile_eq_self_iff.mpr hdigits
      have htake : (d :: rest).take 9 = d :: rest := List.take_of_length_le (by omega)
      have hd := hdigits d List.mem_cons_self
      have hscale : 10 ^ (9 - (d :: rest).length) = 1000 :=
        congrArg (fun k => 10 ^ (9 - k)) hlength
      rw [readFraction, if_pos ⟨.inl rfl, hd⟩]
      simp only [hall, htake, hnumber, hscale, List.drop_length]

/-! ## Reading chunk by chunk -/

variable {layout : List Chunk} {t t' : Reading} {value value' : List Char} {chunk : Chunk}

theorem readLayout_cons_some (h : readChunk layout t value chunk = some (t', value')) :
    readLayout (chunk :: layout) t value = readLayout layout t' value' := by
  rw [readLayout, h]
  rfl

theorem readLayout_cons_none (h : readChunk layout t value chunk = none) :
    readLayout (chunk :: layout) t value = none := by
  rw [readLayout, h]
  rfl

theorem readLayout_cons_eq_some {r : Reading} (h : readLayout (chunk :: layout) t value = some r) :
    ∃ t' value', readChunk layout t value chunk = some (t', value') ∧
      readLayout layout t' value' = some r := by
  rw [readLayout] at h
  obtain ⟨⟨t', value'⟩, hchunk, hrest⟩ := Option.bind_eq_some_iff.mp h
  exact ⟨t', value', hchunk, hrest⟩

theorem readChunk_literal {c : Char} (hc : c ≠ ' ') (rest : List Char) :
    readChunk layout t (c :: rest) (.literal c) = some (t, rest) := by
  simp [readChunk, hc]

theorem readChunk_space {c : Char} (hc : c ≠ ' ') (rest : List Char) :
    readChunk layout t (' ' :: c :: rest) (.literal ' ') = some (t, c :: rest) := by
  simp [readChunk, hc]

/-- Another character than the one of the layout. -/
theorem readChunk_literal_none {c d : Char} (h : d ≠ c) (rest : List Char) :
    readChunk layout t (d :: rest) (.literal c) = none := by
  by_cases hc : c = ' '
  · subst hc
    simp [readChunk, h]
  · simp [readChunk, hc, h]

theorem readChunk_longYear {cs : List Char} {y : Nat} (h : Numeral cs 4 y) (rest : List Char) :
    readChunk layout t (cs ++ rest) .longYear = some ({ t with year := y }, rest) := by
  have htake : (cs ++ rest).take 4 = cs := List.take_left' h.length
  have hdrop : (cs ++ rest).drop 4 = rest := List.drop_left' h.length
  have hall : cs.all Char.isDigit = true := List.all_eq_true.mpr h.digits
  simp only [readChunk, htake, hdrop, h.value]
  exact if_pos ⟨h.length, hall⟩

/-- A year has four digits. -/
theorem readChunk_longYear_none {c : Char} (hmem : c ∈ value.take 4) (hc : c.isDigit = false) :
    readChunk layout t value .longYear = none := by
  have hall : ¬ ((value.take 4).length = 4 ∧ (value.take 4).all Char.isDigit = true) := by
    rintro ⟨_, hall⟩
    rw [List.all_eq_true.mp hall c hmem] at hc
    cases hc
  exact if_neg hall

/-! ## Dates -/

/-- The chunks of a date, with or without leading zeros. -/
def dateChunks (sep : Char) (padded : Bool) : List Chunk :=
  [.longYear, .literal sep, if padded then .zeroMonth else .numMonth, .literal sep,
    if padded then .zeroDay else .day]

def dateText (sep : Char) (month day : Nat) : List Char :=
  zeroPad 2 month ++ sep :: zeroPad 2 day

theorem readChunk_month (padded : Bool) {cs : List Char} {m : Nat} (h : Numeral cs 2 m)
    (hm : 1 ≤ m) (hm' : m ≤ 12) (rest : List Char) :
    readChunk layout t (cs ++ rest) (if padded then .zeroMonth else .numMonth) =
      some ({ t with month := m }, rest) := by
  cases padded <;> simp [readChunk, getnumIn_numeral h _ _ hm hm']

theorem readChunk_day (padded : Bool) {cs : List Char} {d : Nat} (h : Numeral cs 2 d)
    (rest : List Char) :
    readChunk layout t (cs ++ rest) (if padded then .zeroDay else .day) =
      some ({ t with day := d }, rest) := by
  cases padded <;> simp [readChunk, getnum_numeral h]

theorem readLayout_date {sep : Char} (hsep : sep ≠ ' ') (padded : Bool) {year : List Char}
    {y m d : Nat} (hy : Numeral year 4 y) (hm : 1 ≤ m) (hm' : m ≤ 12) (hd : d < 100)
    (rest : List Char) :
    readLayout (dateChunks sep padded ++ layout) t (year ++ sep :: (dateText sep m d ++ rest)) =
      readLayout layout { t with year := y, month := m, day := d } rest := by
  have hmonth : Numeral (zeroPad 2 m) 2 m := numeral_zeroPad (by decide) (by omega)
  have hday : Numeral (zeroPad 2 d) 2 d := numeral_zeroPad (by decide) (by omega)
  have hchunks : dateChunks sep padded ++ layout = .longYear :: .literal sep ::
      (if padded then .zeroMonth else .numMonth) :: .literal sep ::
      (if padded then .zeroDay else .day) :: layout := rfl
  rw [hchunks, dateText, List.append_assoc, List.cons_append,
    readLayout_cons_some (readChunk_longYear hy _),
    readLayout_cons_some (readChunk_literal hsep _),
    readLayout_cons_some (readChunk_month padded hmonth hm hm' _),
    readLayout_cons_some (readChunk_literal hsep _),
    readLayout_cons_some (readChunk_day padded hday _)]

/-! ## Clocks -/

/-- `%02d:%02d:%02d.%06u`. -/
def clockText (hour minute second : Int) (micro : Nat) : List Char :=
  zeroPad 2 hour ++ ':' :: (zeroPad 2 minute ++ ':' :: (zeroPad 2 second ++ '.' :: zeroPad 6 micro))

/-- `15:04:05`, and what follows it. -/
def clockChunks (layout : List Chunk) : List Chunk :=
  .hour :: .literal ':' :: .zeroMinute :: .literal ':' :: .zeroSecond :: layout

theorem readChunk_hour {cs : List Char} {h : Nat} (hcs : Numeral cs 2 h) (hh : h ≤ 23)
    (rest : List Char) :
    readChunk layout t (cs ++ rest) .hour = some ({ t with hour := h }, rest) := by
  simp [readChunk, getnumIn_numeral hcs _ _ (Nat.zero_le h) hh]

theorem readChunk_minute {cs : List Char} {m : Nat} (hcs : Numeral cs 2 m) (hm : m ≤ 59)
    (rest : List Char) :
    readChunk layout t (cs ++ rest) .zeroMinute = some ({ t with minute := m }, rest) := by
  simp [readChunk, getnumIn_numeral hcs _ _ (Nat.zero_le m) hm]

/-- The fraction is left to the next chunk. -/
theorem readChunk_second {cs : List Char} {s : Nat} (hcs : Numeral cs 2 s) (hs : s ≤ 59)
    (rest : List Char) :
    readChunk [.fracSecond9] t (cs ++ rest) .zeroSecond = some ({ t with second := s }, rest) := by
  have hfollows : fractionFollows [.fracSecond9] = true := rfl
  simp [readChunk, getnumIn_numeral hcs _ _ (Nat.zero_le s) hs, hfollows]

theorem readLayout_clock {h m s u : Nat} (hh : h ≤ 23) (hm : m ≤ 59) (hs : s ≤ 59)
    (hu : u < 1000000) :
    readLayout (clockChunks [.fracSecond9]) t (clockText h m s u) =
      some { t with hour := h, minute := m, second := s, nano := u * 1000 } := by
  have hhour : Numeral (zeroPad 2 h) 2 h := numeral_zeroPad (by decide) (by omega)
  have hminute : Numeral (zeroPad 2 m) 2 m := numeral_zeroPad (by decide) (by omega)
  have hsecond : Numeral (zeroPad 2 s) 2 s := numeral_zeroPad (by decide) (by omega)
  have hmicro : Numeral (zeroPad 6 u) 6 u := numeral_zeroPad (by decide) (by omega)
  have hcolon : ':' ≠ ' ' := by decide
  rw [clockChunks, clockText, readLayout_cons_some (readChunk_hour hhour hh _),
    readLayout_cons_some (readChunk_literal hcolon _),
    readLayout_cons_some (readChunk_minute hminute hm _),
    readLayout_cons_some (readChunk_literal hcolon _),
    readLayout_cons_some (readChunk_second hsecond hs _), readLayout, readChunk,
    readFraction_numeral hmicro]
  rfl

theorem zeroPad_neg (width : Nat) {n : Int} (h : n < 0) : ∃ cs, zeroPad width n = '-' :: cs :=
  ⟨_, if_pos h⟩

/-- A sign where a number is to come. -/
theorem getnum_minus (fixed : Bool) (cs : List Char) : getnum fixed ('-' :: cs) = none := rfl

/-- A clock with negative parts is not read. -/
theorem readLayout_clock_neg {h m s : Int} {u : Nat}
    (hneg : h < 0 ∨ (h = 0 ∧ (m < 0 ∨ (m = 0 ∧ s < 0)))) :
    readLayout (clockChunks layout) t (clockText h m s u) = none := by
  have hzero : Numeral (zeroPad 2 0) 2 0 := numeral_zeroPad (n := 0) (by decide) (by decide)
  have hcolon : ':' ≠ ' ' := by decide
  rw [clockChunks, clockText]
  rcases hneg with hh | ⟨rfl, hm | ⟨rfl, hs⟩⟩
  · obtain ⟨cs, hcs⟩ := zeroPad_neg 2 hh
    apply readLayout_cons_none
    simp [readChunk, getnumIn, hcs, getnum_minus]
  · obtain ⟨cs, hcs⟩ := zeroPad_neg 2 hm
    rw [readLayout_cons_some (readChunk_hour hzero (by decide) _),
      readLayout_cons_some (readChunk_literal hcolon _)]
    apply readLayout_cons_none
    simp [readChunk, getnumIn, hcs, getnum_minus]
  · obtain ⟨cs, hcs⟩ := zeroPad_neg 2 hs
    rw [readLayout_cons_some (readChunk_hour hzero (by decide) _),
      readLayout_cons_some (readChunk_literal hcolon _),
      readLayout_cons_some (readChunk_minute hzero (by decide) _),
      readLayout_cons_some (readChunk_literal hcolon _)]
    apply readLayout_cons_none
    simp [readChunk, getnumIn, hcs, getnum_minus]

/-! ## Whole stamps -/

/-- `2006-01-02 15:04:05.999999`, with any separator in the date. -/
def stampLayout (sep : Char) : List Chunk :=
  dateChunks sep true ++ .literal ' ' :: clockChunks [.fracSecond9]

def stamp (sep : Char) (c : Civil) : List Char :=
  zeroPad 4 c.year ++ sep :: (dateText sep c.month c.day ++
    ' ' :: clockText c.hour c.minute c.second (c.nano / 1000))

/-- What follows the space at once is read next. -/
theorem readLayout_space_zeroPad (n : Int) (rest : List Char) :
    readLayout (.literal ' ' :: layout) t (' ' :: (zeroPad 2 n ++ rest)) =
      readLayout layout t (zeroPad 2 n ++ rest) := by
  obtain ⟨c, cs, hpad, hc⟩ := zeroPad_cons 2 n
  rw [hpad]
  exact readLayout_cons_some (readChunk_space hc _)

theorem readLayout_space (h m s : Int) (u : Nat) :
    readLayout (.literal ' ' :: layout) t (' ' :: clockText h m s u) =
      readLayout layout t (clockText h m s u) :=
  readLayout_space_zeroPad h _

theorem daysIn_le (month year : Nat) : daysIn month year ≤ 31 := by
  unfold daysIn
  split
  · split <;> omega
  all_goals omega

/-- The text of a time with a year in front that has four digits, and with any text of its clock. -/
theorem parse_clocked {sep : Char} (hsep : sep ≠ ' ') {c : Civil} (hc : c.Valid)
    {year clock : List Char} (hyear : Numeral year 4 c.year)
    (hclock : ∀ t : Reading, t.nano = 0 →
      readLayout (.literal ' ' :: clockChunks [.fracSecond9]) t (' ' :: clock) =
        some { t with hour := c.hour, minute := c.minute, second := c.second, nano := c.nano }) :
    parse (stampLayout sep) (String.ofList (year ++ sep :: (dateText sep c.month c.day ++
      ' ' :: clock))) = some c := by
  have hmonth : 1 ≤ c.month := hc.date.month_pos
  have hmonth' : c.month ≤ 12 := hc.date.month_le
  have hday : c.day ≤ daysIn c.month c.year := hc.date.day_le
  have hdays := daysIn_le c.month c.year
  rw [parse, String.toList_ofList, stampLayout,
    readLayout_date hsep true hyear hmonth hmonth' (by omega), hclock _ rfl]
  simp only [Option.bind_eq_bind, Option.bind_some, Bool.false_and]
  exact if_pos ⟨hc.date.day_pos, hday⟩

theorem parse_text {sep : Char} (hsep : sep ≠ ' ') {c : Civil} (hc : c.Valid)
    (hmicro : c.nano % 1000 = 0) {year : List Char} (hyear : Numeral year 4 c.year) :
    parse (stampLayout sep) (String.ofList (year ++ sep :: (dateText sep c.month c.day ++
      ' ' :: clockText c.hour c.minute c.second (c.nano / 1000)))) = some c := by
  apply parse_clocked hsep hc hyear
  intro t _
  have hnano := hc.nano_lt
  have hcut : c.nano / 1000 * 1000 = c.nano := by omega
  rw [readLayout_space, readLayout_clock hc.hour_le hc.minute_le hc.second_le (by omega), hcut]

/-- A time that is written out is read back. -/
theorem parse_stamp {sep : Char} (hsep : sep ≠ ' ') {c : Civil} (hc : c.Valid)
    (hyear : c.year ≤ 9999) (hmicro : c.nano % 1000 = 0) :
    parse (stampLayout sep) (String.ofList (stamp sep c)) = some c :=
  parse_text hsep hc hmicro (numeral_zeroPad (by decide) (by omega))

/-- `%02d:%02d:%02d`. -/
def secondsText (hour minute second : Int) : List Char :=
  zeroPad 2 hour ++ ':' :: (zeroPad 2 minute ++ ':' :: zeroPad 2 second)

/-- The text without a fraction. -/
def stampSeconds (sep : Char) (c : Civil) : List Char :=
  zeroPad 4 c.year ++ sep :: (dateText sep c.month c.day ++
    ' ' :: secondsText c.hour c.minute c.second)

theorem readLayout_secondsText {h m s : Nat} (hh : h ≤ 23) (hm : m ≤ 59) (hs : s ≤ 59) :
    readLayout (clockChunks [.fracSecond9]) t (secondsText h m s) =
      some { t with hour := h, minute := m, second := s } := by
  have hhour : Numeral (zeroPad 2 h) 2 h := numeral_zeroPad (by decide) (by omega)
  have hminute : Numeral (zeroPad 2 m) 2 m := numeral_zeroPad (by decide) (by omega)
  have hsecond : Numeral (zeroPad 2 s) 2 s := numeral_zeroPad (by decide) (by omega)
  have hcolon : ':' ≠ ' ' := by decide
  have hread := readChunk_second (t := { t with hour := h, minute := m }) hsecond hs []
  rw [List.append_nil] at hread
  rw [clockChunks, secondsText, readLayout_cons_some (readChunk_hour hhour hh _),
    readLayout_cons_some (readChunk_literal hcolon _),
    readLayout_cons_some (readChunk_minute hminute hm _),
    readLayout_cons_some (readChunk_literal hcolon _), readLayout_cons_some hread]
  rfl

/-- A time of whole seconds is read back without a fraction. -/
theorem parse_stampSeconds {sep : Char} (hsep : sep ≠ ' ') {c : Civil} (hc : c.Valid)
    (hyear : c.year ≤ 9999) (hnano : c.nano = 0) :
    parse (stampLayout sep) (String.ofList (stampSeconds sep c)) = some c := by
  apply parse_clocked hsep hc (numeral_zeroPad (by decide) (by omega))
  intro t ht
  rw [secondsText, readLayout_space_zeroPad]
  show readLayout _ t (secondsText c.hour c.minute c.second) = _
  rw [readLayout_secondsText hc.hour_le hc.minute_le hc.second_le, hnano, ← ht]

/-- A text that begins and ends with a numeral has no space to trim. -/
theorem trimSpace_numerals {first last : List Char} {k l m n : Nat}
    (hfirst : Numeral first (k + 1) m) (hlast : Numeral last (l + 1) n) (middle : List Char) :
    trimSpace (String.ofList (first ++ (middle ++ last))) =
      String.ofList (first ++ (middle ++ last)) := by
  obtain ⟨d, cs, hcs, hd⟩ := hfirst.exists_digit
  obtain ⟨e, es, hes, _⟩ := hlast.exists_digit
  have hne : last ≠ [] := hes ▸ List.cons_ne_nil e es
  apply trimSpace_of_ends
  · intro x hx
    rw [hcs] at hx
    cases hx
    exact isSpace_of_isDigit hd
  · intro x hx
    rw [← List.append_assoc, List.getLast?_append_of_ne_nil _ hne] at hx
    exact isSpace_of_isDigit (hlast.digits x (List.mem_of_getLast? hx))

theorem trimSpace_stamp {sep : Char} {c : Civil} (hyear : c.year ≤ 9999)
    (hnano : c.nano < 1000000000) :
    trimSpace (String.ofList (stamp sep c)) = String.ofList (stamp sep c) := by
  have hfirst : Numeral (zeroPad 4 c.year) (3 + 1) c.year := numeral_zeroPad (by decide) (by omega)
  have hlast : Numeral (zeroPad 6 (c.nano / 1000 : Nat)) (5 + 1) (c.nano / 1000) :=
    numeral_zeroPad (by decide) (by omega)
  have htrim := trimSpace_numerals hfirst hlast (sep :: (dateText sep c.month c.day ++ ' ' ::
    (zeroPad 2 c.hour ++ ':' :: (zeroPad 2 c.minute ++ ':' :: (zeroPad 2 c.second ++ ['.'])))))
  simpa [stamp, clockText] using htrim

theorem trimSpace_stampSeconds {sep : Char} {c : Civil} (hyear : c.year ≤ 9999)
    (hsecond : c.second ≤ 59) :
    trimSpace (String.ofList (stampSeconds sep c)) = String.ofList (stampSeconds sep c) := by
  have hfirst : Numeral (zeroPad 4 c.year) (3 + 1) c.year := numeral_zeroPad (by decide) (by omega)
  have hlast : Numeral (zeroPad 2 c.second) (1 + 1) c.second :=
    numeral_zeroPad (by decide) (by omega)
  have htrim := trimSpace_numerals hfirst hlast (sep :: (dateText sep c.month c.day ++ ' ' ::
    (zeroPad 2 c.hour ++ ':' :: (zeroPad 2 c.minute ++ [':']))))
  simpa [stampSeconds, secondsText] using htrim

/-! ## What can be read -/

/-- The numbers read so far are in range. -/
structure Reading.InRange (t : Reading) : Prop where
  year_le : t.year ≤ 9999
  month_pos : 1 ≤ t.month
  month_le : t.month ≤ 12
  hour_le : t.hour ≤ 23
  minute_le : t.minute ≤ 59
  second_le : t.second ≤ 59
  nano_lt : t.nano < 1000000000

theorem getnumIn_eq_some {fixed : Bool} {lo hi n : Nat} {rest : List Char}
    (h : getnumIn fixed lo hi value = some (n, rest)) : lo ≤ n ∧ n ≤ hi := by
  have hrange := (Option.filter_eq_some_iff.mp h).2
  simpa using hrange

theorem digit_le {c : Char} (h : c.isDigit = true) : digit c ≤ 9 := by
  have hrange := Char.isDigit_iff_toNat.mp h
  have hnine : '9'.toNat = 57 := rfl
  have hzero : '0'.toNat = 48 := rfl
  unfold digit
  omega

theorem number_lt {cs : List Char} (h : ∀ c ∈ cs, c.isDigit = true) :
    number cs < 10 ^ cs.length := by
  have hfold : ∀ (cs : List Char) (a : Nat), (∀ c ∈ cs, c.isDigit = true) →
      cs.foldl (fun n c => 10 * n + digit c) a < (a + 1) * 10 ^ cs.length := by
    intro cs
    induction cs with
    | nil =>
        intro a _
        simp
    | cons c cs ih =>
        intro a hcs
        have hc := digit_le (hcs c List.mem_cons_self)
        calc (c :: cs).foldl (fun n c => 10 * n + digit c) a
            = cs.foldl (fun n c => 10 * n + digit c) (10 * a + digit c) := rfl
          _ < (10 * a + digit c + 1) * 10 ^ cs.length :=
              ih _ fun d hd => hcs d (List.mem_cons_of_mem _ hd)
          _ ≤ (10 * (a + 1)) * 10 ^ cs.length := Nat.mul_le_mul_right _ (by omega)
          _ = (a + 1) * 10 ^ (c :: cs).length := by
              rw [List.length_cons, Nat.pow_succ]
              ring
  simpa [number] using hfold cs 0 h

theorem readFraction_lt {nano : Nat} {rest : List Char}
    (h : readFraction value = some (nano, rest)) : nano < 1000000000 := by
  unfold readFraction at h
  split at h
  · next c d cs =>
      split at h
      · cases h
        -- at most nine digits, moved up to nine places
        have hdigits : ∀ x ∈ ((d :: cs).takeWhile Char.isDigit).take 9, x.isDigit = true :=
          fun x hx => List.mem_takeWhile_imp (List.mem_of_mem_take hx)
        have hlength := List.length_take_le 9 ((d :: cs).takeWhile Char.isDigit)
        generalize ((d :: cs).takeWhile Char.isDigit).take 9 = kept at hdigits hlength
        calc number kept * 10 ^ (9 - kept.length)
            < 10 ^ kept.length * 10 ^ (9 - kept.length) :=
              Nat.mul_lt_mul_of_pos_right (number_lt hdigits) (Nat.pow_pos (by decide))
          _ = 10 ^ (kept.length + (9 - kept.length)) := (Nat.pow_add _ _ _).symm
          _ = 1000000000 := by
              rw [Nat.add_sub_cancel' hlength]
              rfl
      · cases h
  · cases h

/-- **What a chunk can do**: the numbers stay in range, and the year changes in its own chunk
only. -/
theorem readChunk_spec (ht : t.InRange)
    (h : readChunk layout t value chunk = some (t', value')) :
    t'.InRange ∧ (chunk ≠ .longYear → t'.year = t.year) := by
  cases chunk with
  | longYear =>
      simp only [readChunk] at h
      split at h
      · next hyear =>
          cases h
          have hlt := number_lt (List.all_eq_true.mp hyear.2)
          rw [hyear.1] at hlt
          exact ⟨{ ht with year_le := Nat.le_of_lt_succ hlt }, fun hne => absurd rfl hne⟩
      · cases h
  | zeroMonth | numMonth =>
      obtain ⟨⟨n, rest⟩, hn, hr⟩ := Option.map_eq_some_iff.mp h
      cases hr
      obtain ⟨hlo, hhi⟩ := getnumIn_eq_some hn
      exact ⟨{ ht with month_pos := hlo, month_le := hhi }, fun _ => rfl⟩
  | zeroDay | day =>
      obtain ⟨⟨n, rest⟩, hn, hr⟩ := Option.map_eq_some_iff.mp h
      cases hr
      exact ⟨{ ht with }, fun _ => rfl⟩
  | hour =>
      obtain ⟨⟨n, rest⟩, hn, hr⟩ := Option.map_eq_some_iff.mp h
      cases hr
      exact ⟨{ ht with hour_le := (getnumIn_eq_some hn).2 }, fun _ => rfl⟩
  | hour12 =>
      obtain ⟨⟨n, rest⟩, hn, hr⟩ := Option.map_eq_some_iff.mp h
      cases hr
      have hle := (getnumIn_eq_some hn).2
      exact ⟨{ ht with hour_le := hle.trans (by decide) }, fun _ => rfl⟩
  | zeroMinute =>
      obtain ⟨⟨n, rest⟩, hn, hr⟩ := Option.map_eq_some_iff.mp h
      cases hr
      exact ⟨{ ht with minute_le := (getnumIn_eq_some hn).2 }, fun _ => rfl⟩
  | zeroSecond =>
      obtain ⟨⟨n, rest⟩, hn, hr⟩ := Option.map_eq_some_iff.mp h
      have hle := (getnumIn_eq_some hn).2
      dsimp only at hr
      split at hr
      · next nano rest' hfraction =>
          cases hr
          split at hfraction
          · cases hfraction
          · have hnano := readFraction_lt hfraction
            exact ⟨{ ht with second_le := hle, nano_lt := hnano }, fun _ => rfl⟩
      · cases hr
        exact ⟨{ ht with second_le := hle }, fun _ => rfl⟩
  | fracSecond9 =>
      simp only [readChunk] at h
      split at h
      · next nano rest hfraction =>
          cases h
          exact ⟨{ ht with nano_lt := readFraction_lt hfraction }, fun _ => rfl⟩
      · cases h
        exact ⟨ht, fun _ => rfl⟩
  | pm =>
      simp only [readChunk] at h
      split at h
      · cases h
        exact ⟨{ ht with }, fun _ => rfl⟩
      · split at h
        · cases h
          exact ⟨{ ht with }, fun _ => rfl⟩
        · cases h
  | literal c =>
      simp only [readChunk] at h
      split at h
      · split at h
        · cases h
        · cases h
          exact ⟨ht, fun _ => rfl⟩
      · split at h
        · cases h
          exact ⟨ht, fun _ => rfl⟩
        · cases h

theorem readLayout_spec {r : Reading} (ht : t.InRange) (h : readLayout layout t value = some r) :
    r.InRange ∧ (.longYear ∉ layout → r.year = t.year) := by
  induction layout generalizing t value with
  | nil =>
      unfold readLayout at h
      split at h
      · cases h
        exact ⟨ht, fun _ => rfl⟩
      · cases h
  | cons chunk layout ih =>
      obtain ⟨t', value', hchunk, hrest⟩ := readLayout_cons_eq_some h
      obtain ⟨ht', hyear⟩ := readChunk_spec ht hchunk
      obtain ⟨hr, hyear'⟩ := ih ht' hrest
      refine ⟨hr, fun hnot => ?_⟩
      rw [List.mem_cons, not_or] at hnot
      exact (hyear' hnot.2).trans (hyear fun heq => hnot.1 heq.symm)

/-- What nothing has been read of. -/
def Reading.blank : Reading :=
  { year := 0, month := 1, day := 1, hour := 0, minute := 0, second := 0, nano := 0
    pmSet := false, amSet := false }

theorem Reading.blank_inRange : Reading.blank.InRange := by
  constructor <;> decide

theorem parse_eq_some {text : String} {c : Civil} (h : parse layout text = some c) :
    ∃ t, readLayout layout .blank text.toList = some t ∧ t.year = c.year := by
  unfold parse at h
  obtain ⟨t, ht, h⟩ := Option.bind_eq_some_iff.mp h
  refine ⟨t, ht, ?_⟩
  dsimp only at h
  split at h
  · cases h
    rfl
  · cases h

/-- What is read is a time of the calendar. -/
theorem parse_valid {text : String} {c : Civil} (h : parse layout text = some c) :
    c.Valid ∧ c.year ≤ 9999 := by
  unfold parse at h
  obtain ⟨t, ht, h⟩ := Option.bind_eq_some_iff.mp h
  have hrange : t.InRange := (readLayout_spec Reading.blank_inRange ht).1
  dsimp only at h
  split at h
  · next hday =>
      cases h
      refine ⟨⟨⟨hrange.month_pos, hrange.month_le, hday.1, hday.2⟩, ?_, hrange.minute_le,
        hrange.second_le, hrange.nano_lt⟩, hrange.year_le⟩
      dsimp only
      have hhour := hrange.hour_le
      split
      · next hpm =>
          simp only [Bool.and_eq_true, decide_eq_true_eq] at hpm
          omega
      · split <;> omega
  · cases h

/-- The year is the one that was read. -/
theorem parse_year {cs rest : List Char} {y : Nat} {c : Civil} (hcs : Numeral cs 4 y)
    (hlayout : .longYear ∉ layout)
    (h : parse (.longYear :: layout) (String.ofList (cs ++ rest)) = some c) : c.year = y := by
  obtain ⟨t, ht, hyear⟩ := parse_eq_some h
  have hfirst : readChunk layout .blank (cs ++ rest) .longYear = some (_, rest) :=
    readChunk_longYear hcs rest
  rw [String.toList_ofList, readLayout_cons_some hfirst] at ht
  have hrange := (readChunk_spec Reading.blank_inRange hfirst).1
  rw [← hyear]
  exact (readLayout_spec hrange ht).2 hlayout

theorem parse_eq_none {text : String} (h : readLayout layout .blank text.toList = none) :
    parse layout text = none := by
  cases hparse : parse layout text with
  | none => rfl
  | some c =>
      obtain ⟨t, ht, _⟩ := parse_eq_some hparse
      rw [h] at ht
      cases ht

end SnortOptimizer.Time
