import SnortOptimizer.Time.Stamp
import Mathlib.Data.List.DropRight
import Mathlib.Data.String.Basic

/-!
# Time stamps in the order of their texts

Texts are compared character by character. For numerals of one width that is the order of the
numbers, and so a time stamp whose parts have fixed widths is in the order of time. RFC 3339 with
nanoseconds drops the zeros at the end of the fraction: the digits of one fraction may then go on
where those of another end, and a digit comes before the `Z` that ends the text.
`Instant.text_lt_iff` says when the two orders agree.
-/

namespace SnortOptimizer.Time

/-! ## Texts of one length -/

theorem append_lt_append {a a' : List Char} (h : a < a') (hlength : a.length = a'.length)
    (b b' : List Char) : a ++ b < a' ++ b' := by
  induction a generalizing a' with
  | nil =>
      rw [List.length_nil, eq_comm, List.length_eq_zero_iff] at hlength
      rw [hlength] at h
      exact absurd h (List.lt_irrefl _)
  | cons c a ih =>
      cases a' with
      | nil => cases hlength
      | cons c' a' =>
          rw [List.cons_append, List.cons_append, List.cons_lt_cons_iff]
          rw [List.cons_lt_cons_iff] at h
          rcases h with h | ⟨rfl, h⟩
          · exact .inl h
          · exact .inr ⟨rfl, ih h (Nat.succ.inj hlength)⟩

theorem number_append (u v : List Char) :
    number (u ++ v) = number u * 10 ^ v.length + number v := by
  have hfold : ∀ (v : List Char) (a : Nat), v.foldl (fun n c => 10 * n + digit c) a =
      a * 10 ^ v.length + number v := by
    intro v
    induction v with
    | nil =>
        intro a
        simp [number]
    | cons c v ih =>
        intro a
        have hcons : number (c :: v) = (10 * 0 + digit c) * 10 ^ v.length + number v := ih _
        rw [List.foldl_cons, ih, hcons, List.length_cons, Nat.pow_succ]
        ring
  rw [number, List.foldl_append, hfold]
  rfl

theorem number_cons (c : Char) (cs : List Char) :
    number (c :: cs) = digit c * 10 ^ cs.length + number cs := by
  rw [← List.singleton_append, number_append]
  simp [number]

theorem digit_lt_iff {c d : Char} (hc : c.isDigit = true) (hd : d.isDigit = true) :
    digit c < digit d ↔ c < d := by
  have hc' := Char.isDigit_iff_toNat.mp hc
  have hd' := Char.isDigit_iff_toNat.mp hd
  have hzero : '0'.toNat = 48 := rfl
  rw [Char.lt_def, UInt32.lt_iff_toNat_lt, digit, digit, hzero]
  show _ ↔ c.toNat < d.toNat
  omega

/-- Numerals of one width are in the order of their values. -/
theorem number_lt_number {cs cs' : List Char} (h : cs < cs') (hlength : cs.length = cs'.length)
    (hcs : ∀ c ∈ cs, c.isDigit = true) (hcs' : ∀ c ∈ cs', c.isDigit = true) :
    number cs < number cs' := by
  induction cs generalizing cs' with
  | nil =>
      rw [List.length_nil, eq_comm, List.length_eq_zero_iff] at hlength
      rw [hlength] at h
      exact absurd h (List.lt_irrefl _)
  | cons c cs ih =>
      cases cs' with
      | nil => cases hlength
      | cons c' cs' =>
          have hlength' : cs.length = cs'.length := Nat.succ.inj hlength
          have hrest : ∀ d ∈ cs, d.isDigit = true := fun d hd => hcs d (List.mem_cons_of_mem _ hd)
          have hrest' : ∀ d ∈ cs', d.isDigit = true :=
            fun d hd => hcs' d (List.mem_cons_of_mem _ hd)
          rw [number_cons, number_cons, hlength']
          rw [List.cons_lt_cons_iff] at h
          rcases h with h | ⟨rfl, h⟩
          · have hdigit : digit c + 1 ≤ digit c' :=
              (digit_lt_iff (hcs c List.mem_cons_self) (hcs' c' List.mem_cons_self)).mpr h
            have hbound := number_lt hrest
            rw [hlength'] at hbound
            calc digit c * 10 ^ cs'.length + number cs
                < digit c * 10 ^ cs'.length + 10 ^ cs'.length := Nat.add_lt_add_left hbound _
              _ = (digit c + 1) * 10 ^ cs'.length := by ring
              _ ≤ digit c' * 10 ^ cs'.length := Nat.mul_le_mul_right _ hdigit
              _ ≤ digit c' * 10 ^ cs'.length + number cs' := Nat.le_add_right _ _
          · exact Nat.add_lt_add_left (ih h hlength' hrest hrest') _

theorem Numeral.lt {cs cs' : List Char} {width m n : Nat} (hcs : Numeral cs width m)
    (hcs' : Numeral cs' width n) (h : m < n) : cs < cs' := by
  have hlength : cs.length = cs'.length := hcs.length.trans hcs'.length.symm
  rcases lt_trichotomy cs cs' with hlt | heq | hgt
  · exact hlt
  · rw [← hcs.value, ← hcs'.value, heq] at h
    exact absurd h (Nat.lt_irrefl _)
  · have hnumber := number_lt_number hgt hlength.symm hcs'.digits hcs.digits
    rw [hcs.value, hcs'.value] at hnumber
    omega

theorem Numeral.unique {cs cs' : List Char} {width n : Nat} (hcs : Numeral cs width n)
    (hcs' : Numeral cs' width n) : cs = cs' := by
  have hlength : cs.length = cs'.length := hcs.length.trans hcs'.length.symm
  rcases lt_trichotomy cs cs' with hlt | heq | hgt
  · have hnumber := number_lt_number hlt hlength hcs.digits hcs'.digits
    rw [hcs.value, hcs'.value] at hnumber
    exact absurd hnumber (Nat.lt_irrefl _)
  · exact heq
  · have hnumber := number_lt_number hgt hlength.symm hcs'.digits hcs.digits
    rw [hcs.value, hcs'.value] at hnumber
    exact absurd hnumber (Nat.lt_irrefl _)

/-! ## Dates and times -/

/-- A month ends before the next one begins. -/
theorem daysBeforeMonth_add_le {month month' : Nat} (year : Nat) (hpos : 1 ≤ month)
    (hlt : month < month') (hle : month' ≤ 12) :
    daysBeforeMonth month year + daysIn month year ≤ daysBeforeMonth month' year := by
  have hsample : ∀ y, y = 2000 ∨ y = 2001 → ∀ m m' : Fin 13, 1 ≤ m.val → m.val < m'.val →
      daysBeforeMonth m y + daysIn m y ≤ daysBeforeMonth m' y := by
    rintro y (rfl | rfl)
    · decide
    · decide
  have h := hsample _ (sampleYear_cases year) ⟨month, by omega⟩ ⟨month', by omega⟩ hpos hlt
  rwa [daysBeforeMonth_sampleYear, daysIn_sampleYear, daysBeforeMonth_sampleYear] at h

/-- The first part in which two dates differ decides. -/
theorem Date.Valid.lt_cases {d d' : Date} (hd : d.Valid) (hd' : d'.Valid) (h : d.days < d'.days) :
    d.year < d'.year ∨ (d.year = d'.year ∧
      (d.month < d'.month ∨ (d.month = d'.month ∧ d.day < d'.day))) := by
  have hrange := hd.days_range
  have hrange' := hd'.days_range
  rcases Nat.lt_trichotomy d.year d'.year with hy | hy | hy
  · exact .inl hy
  · refine .inr ⟨hy, ?_⟩
    have hpos := hd.day_pos
    have hle := hd'.day_le
    simp only [Date.days, hy] at h
    rcases Nat.lt_trichotomy d.month d'.month with hm | hm | hm
    · exact .inl hm
    · rw [hm] at h
      exact .inr ⟨hm, by omega⟩
    · have hmonth := daysBeforeMonth_add_le d'.year hd'.month_pos hm hd.month_le
      omega
  · have hyear : daysBeforeYear (d'.year + 1) ≤ daysBeforeYear d.year := daysBeforeYear_mono hy
    omega

theorem Date.Valid.days_inj {d d' : Date} (hd : d.Valid) (hd' : d'.Valid)
    (h : d.days = d'.days) : d = d' := by
  have hy : d.year = d'.year := by
    rw [← hd.yearOfDay_days, h, hd'.yearOfDay_days]
  have hpos := hd.day_pos
  have hpos' := hd'.day_pos
  have hle := hd.day_le
  have hle' := hd'.day_le
  simp only [Date.days, hy] at h
  have hm : d.month = d'.month := by
    rw [hy] at hle
    rcases Nat.lt_trichotomy d.month d'.month with hm | hm | hm
    · have hmonth := daysBeforeMonth_add_le d'.year hd.month_pos hm hd'.month_le
      omega
    · exact hm
    · have hmonth := daysBeforeMonth_add_le d'.year hd'.month_pos hm hd.month_le
      omega
  have hday : d.day = d'.day := by
    rw [hm] at h
    omega
  cases d
  cases d'
  simp_all

theorem Civil.Valid.lt_cases {c c' : Civil} (hc : c.Valid) (hc' : c'.Valid)
    (h : c.wallSeconds < c'.wallSeconds) :
    c.year < c'.year ∨ (c.year = c'.year ∧
      (c.month < c'.month ∨ (c.month = c'.month ∧
        (c.day < c'.day ∨ (c.day = c'.day ∧
          (c.hour < c'.hour ∨ (c.hour = c'.hour ∧
            (c.minute < c'.minute ∨ (c.minute = c'.minute ∧ c.second < c'.second))))))))) := by
  have hminute := hc.minute_le
  have hsecond := hc.second_le
  have hminute' := hc'.minute_le
  have hsecond' := hc'.second_le
  have hhour := hc.hour_le
  have hhour' := hc'.hour_le
  rw [Civil.wallSeconds_eq, Civil.wallSeconds_eq] at h
  rcases lt_trichotomy c.date.days c'.date.days with hdays | hdays | hdays
  · rcases hc.date.lt_cases hc'.date hdays with hy | ⟨hy, hm | ⟨hm, hd⟩⟩
    · exact .inl hy
    · exact .inr ⟨hy, .inl hm⟩
    · exact .inr ⟨hy, .inr ⟨hm, .inl hd⟩⟩
  · have hdate : c.date = c'.date := hc.date.days_inj hc'.date hdays
    have hy : c.year = c'.year := congrArg Date.year hdate
    have hm : c.month = c'.month := congrArg Date.month hdate
    have hd : c.day = c'.day := congrArg Date.day hdate
    omega
  · omega

/-- `2006-01-02T15:04:05`. -/
def secondText (c : Civil) : List Char :=
  zeroPad 4 c.year ++ '-' :: (zeroPad 2 c.month ++ '-' :: (zeroPad 2 c.day ++ 'T' ::
    (zeroPad 2 c.hour ++ ':' :: (zeroPad 2 c.minute ++ ':' :: zeroPad 2 c.second))))

/-- Two texts that begin with numerals and a separator. -/
theorem zeroPad_lt {width m n : Nat} (hwidth : 0 < width) (hm : m < 10 ^ width)
    (hn : n < 10 ^ width) (sep : Char) {b b' : List Char} (h : m < n ∨ (m = n ∧ b < b')) :
    zeroPad width m ++ sep :: b < zeroPad width n ++ sep :: b' := by
  have hcs := numeral_zeroPad hwidth hm
  have hcs' := numeral_zeroPad hwidth hn
  rcases h with h | ⟨rfl, h⟩
  · exact append_lt_append (hcs.lt hcs' h) (hcs.length.trans hcs'.length.symm) _ _
  · exact List.append_left_lt (List.cons_lt_cons_iff.mpr (.inr ⟨rfl, h⟩))

/-- The parts of a time have the widths they are written with. -/
structure Civil.Fits (c : Civil) : Prop where
  year : c.year < 10 ^ 4
  month : c.month < 10 ^ 2
  day : c.day < 10 ^ 2
  hour : c.hour < 10 ^ 2
  minute : c.minute < 10 ^ 2
  second : c.second < 10 ^ 2
  nano : c.nano < 10 ^ 9

theorem Civil.Valid.fits {c : Civil} (hc : c.Valid) (hyear : c.year ≤ 9999) : c.Fits := by
  have hmonth : c.month ≤ 12 := hc.date.month_le
  have hday : c.day ≤ daysIn c.month c.year := hc.date.day_le
  have hdays := daysIn_le c.month c.year
  have hhour := hc.hour_le
  have hminute := hc.minute_le
  have hsecond := hc.second_le
  have hnano := hc.nano_lt
  constructor <;> omega

theorem secondText_length {c : Civil} (hc : c.Fits) : (secondText c).length = 19 := by
  have hyear := (numeral_zeroPad (by decide) hc.year).length
  have hmonth := (numeral_zeroPad (by decide) hc.month).length
  have hday := (numeral_zeroPad (by decide) hc.day).length
  have hhour := (numeral_zeroPad (by decide) hc.hour).length
  have hminute := (numeral_zeroPad (by decide) hc.minute).length
  have hsecond := (numeral_zeroPad (by decide) hc.second).length
  simp only [secondText, List.length_append, List.length_cons]
  omega

theorem secondText_lt {c c' : Civil} (hc : c.Valid) (hc' : c'.Valid) (hyear : c.year ≤ 9999)
    (hyear' : c'.year ≤ 9999) (h : c.wallSeconds < c'.wallSeconds) :
    secondText c < secondText c' := by
  have hfits := hc.fits hyear
  have hfits' := hc'.fits hyear'
  refine zeroPad_lt (by decide) hfits.year hfits'.year '-' ?_
  refine (hc.lt_cases hc' h).imp_right (And.imp_right fun h => ?_)
  refine zeroPad_lt (by decide) hfits.month hfits'.month '-' ?_
  refine h.imp_right (And.imp_right fun h => ?_)
  refine zeroPad_lt (by decide) hfits.day hfits'.day 'T' ?_
  refine h.imp_right (And.imp_right fun h => ?_)
  refine zeroPad_lt (by decide) hfits.hour hfits'.hour ':' ?_
  refine h.imp_right (And.imp_right fun h => ?_)
  refine zeroPad_lt (by decide) hfits.minute hfits'.minute ':' ?_
  refine h.imp_right (And.imp_right fun h => ?_)
  exact (numeral_zeroPad (by decide) hfits.second).lt (numeral_zeroPad (by decide) hfits'.second) h

/-! ## Fractions -/

/-- The digits of a fraction of nanoseconds, without the zeros at the end. -/
def fractionDigits (nano : Nat) : List Char := (zeroPad 9 nano).rdropWhile (· = '0')

/-- `.999999999`. -/
def fractionText (nano : Nat) : List Char :=
  if fractionDigits nano = [] then [] else '.' :: fractionDigits nano

/-- What has been dropped are zeros. -/
theorem rdropWhile_zeros (cs : List Char) :
    ∃ k, cs = cs.rdropWhile (· = '0') ++ List.replicate k '0' := by
  refine ⟨(cs.rtakeWhile (· = '0')).length, ?_⟩
  have hzeros : cs.rtakeWhile (· = '0') =
      List.replicate (cs.rtakeWhile (· = '0')).length '0' := by
    rw [List.eq_replicate_iff]
    refine ⟨rfl, fun c hc => ?_⟩
    simpa using List.mem_rtakeWhile_imp hc
  rw [← hzeros]
  exact List.rdropWhile_append_rtakeWhile.symm

/-- The second goes on where the first one ends. -/
def GoesOn (u u' : List Char) : Prop := ∃ c rest, u' = u ++ c :: rest

/-- The first digit in which the two differ is smaller in the first. -/
def DiffersAt (u u' : List Char) : Prop :=
  ∃ front c rest c' rest', u = front ++ c :: rest ∧ u' = front ++ c' :: rest' ∧ c < c'

/-- Zeros are before all other digits. -/
theorem not_lt_zeros {cs : List Char} {k : Nat} (hcs : ∀ c ∈ cs, c.isDigit = true)
    (hlength : cs.length = k) : ¬ cs < List.replicate k '0' := by
  induction cs generalizing k with
  | nil =>
      rw [← hlength]
      exact List.lt_irrefl _
  | cons c cs ih =>
      obtain ⟨k, rfl⟩ : ∃ n, k = n + 1 := ⟨cs.length, hlength.symm⟩
      rw [List.replicate_succ, List.cons_lt_cons_iff]
      rintro (h | ⟨_, h⟩)
      · have hdigit := (digit_lt_iff (hcs c List.mem_cons_self) (by decide)).mpr h
        exact absurd hdigit (Nat.not_lt_zero _)
      · exact ih (fun d hd => hcs d (List.mem_cons_of_mem _ hd)) (Nat.succ.inj hlength) h

/-- Without the zeros at the end, the larger numeral either goes on where the other ends, or differs
from it in a digit. -/
theorem goesOn_or_differsAt {u u' : List Char} {k k' : Nat} (hu : ∀ c ∈ u, c.isDigit = true)
    (hlength : u.length + k = u'.length + k')
    (h : u ++ List.replicate k '0' < u' ++ List.replicate k' '0') :
    GoesOn u u' ∨ DiffersAt u u' := by
  induction u generalizing u' with
  | nil =>
      cases u' with
      | nil =>
          have hk : k = k' := by simpa using hlength
          rw [hk] at h
          exact absurd h (List.lt_irrefl _)
      | cons c' u' => exact .inl ⟨c', u', rfl⟩
  | cons c u ih =>
      cases u' with
      | nil =>
          refine absurd h (not_lt_zeros (fun d hd => ?_) ?_)
          · rcases List.mem_append.mp hd with hd | hd
            · exact hu d hd
            · rw [List.eq_of_mem_replicate hd]
              decide
          · rw [List.length_append, List.length_replicate, hlength]
            simp
      | cons c' u' =>
          rw [List.cons_append, List.cons_append, List.cons_lt_cons_iff] at h
          rcases h with h | ⟨rfl, h⟩
          · exact .inr ⟨[], c, u, c', u', rfl, rfl, h⟩
          · have hlength' : u.length + k = u'.length + k' := by
              simp only [List.length_cons] at hlength
              omega
            rcases ih (fun d hd => hu d (List.mem_cons_of_mem _ hd)) hlength' h with
              ⟨d, rest, rfl⟩ | ⟨front, d, rest, d', rest', rfl, rfl, hd⟩
            · exact .inl ⟨d, rest, rfl⟩
            · exact .inr ⟨c :: front, d, rest, d', rest', rfl, rfl, hd⟩

/-- The digits that are written, with the zeros that are not. -/
theorem exists_fractionDigits {nano : Nat} (h : nano < 10 ^ 9) : ∃ k,
    zeroPad 9 nano = fractionDigits nano ++ List.replicate k '0' ∧
      (fractionDigits nano).length + k = 9 := by
  obtain ⟨k, hk⟩ := rdropWhile_zeros (zeroPad 9 nano)
  refine ⟨k, hk, ?_⟩
  have hlength := congrArg List.length hk
  rw [(numeral_zeroPad (by decide) h).length, List.length_append, List.length_replicate] at hlength
  exact hlength.symm

theorem fractionDigits_digits {nano : Nat} (h : nano < 10 ^ 9) {c : Char}
    (hc : c ∈ fractionDigits nano) : c.isDigit = true := by
  obtain ⟨k, hk, _⟩ := exists_fractionDigits h
  apply (numeral_zeroPad (by decide) h).digits c
  rw [hk]
  exact List.mem_append_left _ hc

theorem fraction_cases {m n : Nat} (hn : n < 10 ^ 9) (h : m < n) :
    GoesOn (fractionDigits m) (fractionDigits n) ∨
      DiffersAt (fractionDigits m) (fractionDigits n) := by
  have hm : m < 10 ^ 9 := h.trans hn
  obtain ⟨k, hk, hlength⟩ := exists_fractionDigits hm
  obtain ⟨k', hk', hlength'⟩ := exists_fractionDigits hn
  have hlt := (numeral_zeroPad (by decide) hm).lt (numeral_zeroPad (by decide) hn) h
  rw [hk, hk'] at hlt
  exact goesOn_or_differsAt (fun c hc => fractionDigits_digits hm hc)
    (hlength.trans hlength'.symm) hlt

theorem fractionText_lt_of_differsAt {m n : Nat}
    (h : DiffersAt (fractionDigits m) (fractionDigits n)) :
    fractionText m ++ ['Z'] < fractionText n ++ ['Z'] := by
  obtain ⟨front, c, rest, c', rest', hm, hn, hlt⟩ := h
  have hne : fractionDigits m ≠ [] := by
    rw [hm]
    simp
  have hne' : fractionDigits n ≠ [] := by
    rw [hn]
    simp
  rw [fractionText, fractionText, if_neg hne, if_neg hne', hm, hn, List.cons_append,
    List.cons_append, List.append_assoc, List.append_assoc]
  refine List.cons_lt_cons_iff.mpr (.inr ⟨rfl, List.append_left_lt ?_⟩)
  exact List.cons_lt_cons_iff.mpr (.inl hlt)

/-- A digit comes before the `Z`. -/
theorem digit_lt_Z {c : Char} (h : c.isDigit = true) : c < 'Z' := by
  have hc := Char.isDigit_iff_toNat.mp h
  have hnine : '9'.toNat = 57 := rfl
  rw [Char.lt_def, UInt32.lt_iff_toNat_lt]
  show c.toNat < 90
  omega

theorem fractionText_lt_of_goesOn {m n : Nat} (hn : n < 10 ^ 9)
    (h : GoesOn (fractionDigits m) (fractionDigits n)) :
    fractionText n ++ ['Z'] < fractionText m ++ ['Z'] := by
  obtain ⟨c, rest, hgoes⟩ := h
  have hc : c < 'Z' := digit_lt_Z (fractionDigits_digits hn (by rw [hgoes]; simp))
  have hne : fractionDigits n ≠ [] := by
    rw [hgoes]
    simp
  rw [fractionText, if_neg hne, fractionText]
  split
  · exact List.cons_lt_cons_iff.mpr (.inl (by decide))
  · rw [hgoes, List.cons_append, List.cons_append, List.append_assoc]
    refine List.cons_lt_cons_iff.mpr (.inr ⟨rfl, List.append_left_lt ?_⟩)
    exact List.cons_lt_cons_iff.mpr (.inl hc)

/-! ### Cutting a fraction off -/

theorem rdropWhile_append (p : Char → Bool) (u v : List Char) :
    (u ++ v).rdropWhile p =
      if v.rdropWhile p = [] then u.rdropWhile p else u ++ v.rdropWhile p := by
  simp only [List.rdropWhile, List.reverse_append, List.dropWhile_append, List.isEmpty_iff,
    List.reverse_eq_nil_iff]
  split
  · rfl
  · rw [List.reverse_append, List.reverse_reverse]

theorem number_replicate_zero (k : Nat) : number (List.replicate k '0') = 0 := by
  have h := number_zeros k []
  rwa [List.append_nil] at h

/-- The number without its last digits. -/
theorem number_div (u v : List Char) (hv : ∀ c ∈ v, c.isDigit = true) :
    number (u ++ v) / 10 ^ v.length = number u := by
  rw [number_append, Nat.mul_comm, Nat.mul_add_div (Nat.pow_pos (by decide)),
    Nat.div_eq_of_lt (number_lt hv), Nat.add_zero]

theorem cut_of_goesOn {m n : Nat} (hm : m < 10 ^ 9) (hn : n < 10 ^ 9)
    (h : GoesOn (fractionDigits m) (fractionDigits n)) : ∃ k, n / 10 ^ k * 10 ^ k = m := by
  obtain ⟨c, rest, hgoes⟩ := h
  obtain ⟨k, hk, hlength⟩ := exists_fractionDigits hm
  obtain ⟨k', hk', hlength'⟩ := exists_fractionDigits hn
  have hnumeral : Numeral (zeroPad 9 n) 9 n := numeral_zeroPad (by decide) hn
  rw [hk', hgoes, List.append_assoc] at hnumeral
  generalize hv : c :: rest ++ List.replicate k' '0' = v at hnumeral
  have hvlength : v.length = k := by
    have hall := hnumeral.length
    rw [List.length_append] at hall
    omega
  refine ⟨k, ?_⟩
  have hcut : n / 10 ^ k = number (fractionDigits m) := by
    rw [← hnumeral.value, ← hvlength]
    exact number_div _ v fun c hc => hnumeral.digits c (List.mem_append_right _ hc)
  have hvalue : number (zeroPad 9 m) = m := (numeral_zeroPad (by decide) hm).value
  rw [hk, number_append, number_replicate_zero, List.length_replicate, Nat.add_zero] at hvalue
  rw [hcut, hvalue]

/-- Cutting off more digits than there are leaves nothing, as cutting off all of them does. -/
theorem exists_cut_le {m n k : Nat} (hn : n < 10 ^ 9) (h : n / 10 ^ k * 10 ^ k = m) :
    ∃ j ≤ 9, n / 10 ^ j * 10 ^ j = m := by
  by_cases hk : k ≤ 9
  · exact ⟨k, hk, h⟩
  · refine ⟨9, Nat.le_refl 9, ?_⟩
    have hlt : n < 10 ^ k := hn.trans (Nat.pow_lt_pow_right (by decide) (not_le.mp hk))
    rw [Nat.div_eq_of_lt hlt, Nat.zero_mul] at h
    rw [Nat.div_eq_of_lt hn, Nat.zero_mul, h]

theorem goesOn_of_cut {m n k : Nat} (hm : m < 10 ^ 9) (hn : n < 10 ^ 9) (hne : m ≠ n)
    (h : n / 10 ^ k * 10 ^ k = m) : GoesOn (fractionDigits m) (fractionDigits n) := by
  obtain ⟨j, hj, hcut⟩ := exists_cut_le hn h
  have hnumeral : Numeral (zeroPad 9 n) 9 n := numeral_zeroPad (by decide) hn
  generalize hu : (zeroPad 9 n).take (9 - j) = u
  generalize hv : (zeroPad 9 n).drop (9 - j) = v
  have hsplit : zeroPad 9 n = u ++ v := by rw [← hu, ← hv, List.take_append_drop]
  have hvlength : v.length = j := by
    rw [← hv, List.length_drop, hnumeral.length]
    omega
  rw [hsplit] at hnumeral
  have hdigits : ∀ c ∈ v, c.isDigit = true := fun c hc =>
    hnumeral.digits c (List.mem_append_right _ hc)
  -- the cut number is written with the first digits and zeros
  have hnumber : number u = n / 10 ^ j := by
    rw [← hnumeral.value, ← hvlength, number_div u v hdigits]
  have hcutNumeral : Numeral (u ++ List.replicate j '0') 9 m := by
    refine ⟨?_, fun c hc => ?_, ?_⟩
    · rw [List.length_append, List.length_replicate, ← hvlength, ← List.length_append]
      exact hnumeral.length
    · rcases List.mem_append.mp hc with hc | hc
      · exact hnumeral.digits c (List.mem_append_left _ hc)
      · rw [List.eq_of_mem_replicate hc]
        decide
    · rw [number_append, number_replicate_zero, List.length_replicate, hnumber, Nat.add_zero, hcut]
  have hpad : zeroPad 9 m = u ++ List.replicate j '0' :=
    (numeral_zeroPad (by decide) hm).unique hcutNumeral
  -- what is cut off is not all zeros
  have hrest : v.rdropWhile (· = '0') ≠ [] := by
    intro hnil
    apply hne
    obtain ⟨i, hi⟩ := rdropWhile_zeros v
    rw [hnil, List.nil_append] at hi
    have hij : i = j := by
      rw [← hvlength, hi, List.length_replicate]
    rw [← hcutNumeral.value, ← hnumeral.value, hi, hij]
  have hzeros : (List.replicate j '0').rdropWhile (· = '0') = [] := by
    rw [List.rdropWhile_eq_nil_iff]
    intro c hc
    simpa using List.eq_of_mem_replicate hc
  obtain ⟨i, hi⟩ := rdropWhile_zeros u
  obtain ⟨c, rest, hcons⟩ := List.exists_cons_of_ne_nil
    (List.append_ne_nil_of_right_ne_nil (List.replicate i '0') hrest)
  refine ⟨c, rest, ?_⟩
  have hm' : fractionDigits m = u.rdropWhile (· = '0') := by
    rw [fractionDigits, hpad, rdropWhile_append, if_pos hzeros]
  have hn' : fractionDigits n = u ++ v.rdropWhile (· = '0') := by
    rw [fractionDigits, hsplit, rdropWhile_append, if_neg hrest]
  rw [hm', hn', ← hcons, ← List.append_assoc, ← hi]

/-! ## Instants -/

/-- The instants of the years 0 to 9999, in nanoseconds since 1970. -/
abbrev Instant : Type :=
  {t : Int // daysBeforeYear 0 * 86400000000000 ≤ t ∧ t < daysBeforeYear 10000 * 86400000000000}

instance Instant.decidableLt (a b : Instant) : Decidable (a < b) := Int.decLt a.val b.val

def Instant.seconds (t : Instant) : Int := t.val / 1000000000

def Instant.nano (t : Instant) : Nat := (t.val % 1000000000).toNat

/-- What a UTC clock shows. -/
def Instant.civil (t : Instant) : Civil := civilOfSeconds t.seconds t.nano

/-- `Format(time.RFC3339Nano)` in UTC. -/
def Instant.text (t : Instant) : String :=
  String.ofList (secondText t.civil ++ (fractionText t.nano ++ ['Z']))

theorem Instant.civil_valid (t : Instant) :
    t.civil.Valid ∧ t.civil.wallSeconds = t.seconds ∧ t.civil.year ≤ 9999 := by
  have hzero : daysBeforeYear 0 = -719528 := rfl
  obtain ⟨hlow, hhigh⟩ := t.property
  have hday : -719528 ≤ t.seconds / 86400 := by
    unfold Instant.seconds
    omega
  have hnano : t.nano < 1000000000 := by
    unfold Instant.nano
    omega
  obtain ⟨hvalid, hseconds⟩ := civilOfSeconds_valid hday hnano
  refine ⟨hvalid, hseconds, ?_⟩
  by_contra hyear
  have hrange := hvalid.date.days_range.1
  rw [← hvalid.days_eq, hseconds] at hrange
  have hmono : daysBeforeYear 10000 ≤ daysBeforeYear t.civil.year :=
    daysBeforeYear_mono (not_le.mp hyear)
  have hend : daysBeforeYear 10000 ≤ t.seconds / 86400 := hmono.trans hrange
  unfold Instant.seconds at hend
  omega

/-- The fraction of the earlier instant is that of the later one, cut off after some digits, in the
same second. -/
def Instant.CutOff (a b : Instant) : Prop :=
  a < b ∧ a.seconds = b.seconds ∧ ∃ k, b.nano / 10 ^ k * 10 ^ k = a.nano

theorem Instant.lt_cases {a b : Instant} (h : a < b) :
    a.seconds < b.seconds ∨ (a.seconds = b.seconds ∧ a.nano < b.nano) := by
  have hval : a.val < b.val := h
  unfold Instant.seconds Instant.nano
  omega

theorem Instant.nano_lt (t : Instant) : t.nano < 10 ^ 9 := by
  unfold Instant.nano
  omega

/-- The later of two instants in the order of their texts. -/
theorem Instant.text_lt_of_lt {a b : Instant} (h : a < b) :
    (¬ a.CutOff b → a.text < b.text) ∧ (a.CutOff b → b.text < a.text) := by
  obtain ⟨ha, haseconds, hayear⟩ := a.civil_valid
  obtain ⟨hb, hbseconds, hbyear⟩ := b.civil_valid
  simp only [String.lt_iff_toList_lt, Instant.text, String.toList_ofList]
  rcases Instant.lt_cases h with hsec | ⟨hsec, hnano⟩
  · -- the seconds decide
    have hlt : secondText a.civil < secondText b.civil :=
      secondText_lt ha hb hayear hbyear (by rw [haseconds, hbseconds]; exact hsec)
    have hlength : (secondText a.civil).length = (secondText b.civil).length := by
      rw [secondText_length (ha.fits hayear), secondText_length (hb.fits hbyear)]
    refine ⟨fun _ => append_lt_append hlt hlength _ _, fun hcut => ?_⟩
    exact absurd hcut.2.1 hsec.ne
  · have hsame : secondText a.civil = secondText b.civil := by
      simp only [Instant.civil, hsec]
      rfl
    rw [hsame]
    by_cases hcut : ∃ k, b.nano / 10 ^ k * 10 ^ k = a.nano
    · obtain ⟨k, hk⟩ := hcut
      have hgoes := goesOn_of_cut a.nano_lt b.nano_lt hnano.ne hk
      refine ⟨fun hnot => absurd ⟨h, hsec, k, hk⟩ hnot, fun _ => List.append_left_lt ?_⟩
      exact fractionText_lt_of_goesOn b.nano_lt hgoes
    · refine ⟨fun _ => List.append_left_lt ?_, fun hcut' => absurd hcut'.2.2 hcut⟩
      rcases fraction_cases b.nano_lt hnano with hgoes | hdiffers
      · exact absurd (cut_of_goesOn a.nano_lt b.nano_lt hgoes) hcut
      · exact fractionText_lt_of_differsAt hdiffers

/-- **The order of the texts is the order of time, unless a fraction is cut off.** -/
theorem Instant.text_lt_iff (a b : Instant) :
    a.text < b.text ↔ (a < b ∧ ¬ a.CutOff b) ∨ b.CutOff a := by
  constructor
  · intro h
    rcases lt_trichotomy a b with hlt | heq | hgt
    · refine .inl ⟨hlt, fun hcut => ?_⟩
      exact lt_asymm h ((Instant.text_lt_of_lt hlt).2 hcut)
    · rw [heq] at h
      exact absurd h (lt_irrefl _)
    · by_contra hnot
      rw [not_or] at hnot
      exact lt_asymm h ((Instant.text_lt_of_lt hgt).1 hnot.2)
  · rintro (⟨hlt, hcut⟩ | hcut)
    · exact (Instant.text_lt_of_lt hlt).1 hcut
    · exact (Instant.text_lt_of_lt hcut.1).2 hcut

theorem Instant.text_inj {a b : Instant} (h : a.text = b.text) : a = b := by
  rcases lt_trichotomy a b with hlt | heq | hgt
  · by_cases hcut : a.CutOff b
    · exact absurd h ((Instant.text_lt_of_lt hlt).2 hcut).ne'
    · exact absurd h ((Instant.text_lt_of_lt hlt).1 hcut).ne
  · exact heq
  · by_cases hcut : b.CutOff a
    · exact absurd h ((Instant.text_lt_of_lt hgt).2 hcut).ne
    · exact absurd h ((Instant.text_lt_of_lt hgt).1 hcut).ne'

example : Instant.text ⟨951782400510000000, by decide⟩ = "2000-02-29T00:00:00.51Z" := by
  decide +kernel

end SnortOptimizer.Time
