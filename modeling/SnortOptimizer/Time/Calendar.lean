import SnortOptimizer.Time.Layout

/-!
# The calendar

The way back from a count of days to a date, and from seconds to a time. `dateOfDay` is what
`gmtime` computes, for the years from 0 on: the year is guessed from the mean length of a year and
put right, the month is the number of months that have begun.

`dateOfDay_valid` says that the days up to that date are the ones it was made from, and
`Civil.Valid.yearOfDay` that the year of a time can be told from its seconds.
-/

namespace SnortOptimizer.Time

def yearLength (year : Nat) : Nat := if isLeap year then 366 else 365

/-- The year of a day, counted from 1970; year 0 begins 719528 days before that. -/
def yearOfDay (day : Int) : Nat :=
  let y := 400 * (day + 719528).toNat / 146097
  if daysBeforeYear (y + 1) ≤ day then y + 1 else if daysBeforeYear y ≤ day then y else y - 1

/-- The days that have passed in the year of a day. -/
def dayOfYear (day : Int) : Nat := (day - daysBeforeYear (yearOfDay day)).toNat

/-- How many months of the year have begun. -/
def monthOf (year day : Nat) : Nat :=
  (List.range 12).countP fun m => daysBeforeMonth (m + 1) year ≤ day

structure Date where
  year : Nat
  month : Nat
  day : Nat
  deriving DecidableEq, Repr

def dateOfDay (day : Int) : Date :=
  let year := yearOfDay day
  let month := monthOf year (dayOfYear day)
  { year := year, month := month, day := dayOfYear day - daysBeforeMonth month year + 1 }

/-! ## Years -/

theorem isLeap_iff {year : Nat} :
    isLeap year = true ↔ year % 4 = 0 ∧ (year % 100 ≠ 0 ∨ year % 400 = 0) := by
  simp [isLeap]

theorem daysBeforeYear_eq (year : Nat) :
    daysBeforeYear year = 365 * ((year : Int) - 1) + ((year : Int) - 1) / 4
      - ((year : Int) - 1) / 100 + ((year : Int) - 1) / 400 - 719162 := rfl

theorem daysBeforeYear_succ (year : Nat) :
    daysBeforeYear (year + 1) = daysBeforeYear year + yearLength year := by
  rw [daysBeforeYear_eq, daysBeforeYear_eq, yearLength]
  split
  · next h =>
      rw [isLeap_iff] at h
      omega
  · next h =>
      rw [isLeap_iff] at h
      omega

theorem daysBeforeYear_mono {y y' : Nat} (h : y ≤ y') : daysBeforeYear y ≤ daysBeforeYear y' := by
  induction h with
  | refl => exact Int.le_refl _
  | step _ ih =>
      apply Int.le_trans ih
      rw [daysBeforeYear_succ]
      omega

/-- A day belongs to one year. -/
theorem year_unique {day : Int} {y y' : Nat} (h : daysBeforeYear y ≤ day)
    (hlt : day < daysBeforeYear (y + 1)) (h' : daysBeforeYear y' ≤ day)
    (hlt' : day < daysBeforeYear (y' + 1)) : y = y' := by
  rcases Nat.lt_trichotomy y y' with hyy | hyy | hyy
  · have hmono : daysBeforeYear (y + 1) ≤ daysBeforeYear y' := daysBeforeYear_mono hyy
    omega
  · exact hyy
  · have hmono : daysBeforeYear (y' + 1) ≤ daysBeforeYear y := daysBeforeYear_mono hyy
    omega

/-- The guess is off by at most one year. -/
theorem yearOfDay_spec {day : Int} (h : -719528 ≤ day) :
    daysBeforeYear (yearOfDay day) ≤ day ∧ day < daysBeforeYear (yearOfDay day + 1) := by
  obtain ⟨n, rfl⟩ : ∃ n : Nat, day = n - 719528 := ⟨(day + 719528).toNat, by omega⟩
  have hguess : ((n : Int) - 719528 + 719528).toNat = n := by omega
  have hhigh : (n : Int) - 719528 < daysBeforeYear (400 * n / 146097 + 2) := by
    rw [daysBeforeYear_eq]
    omega
  unfold yearOfDay
  rw [hguess]
  dsimp only
  split
  · next hnext => exact ⟨hnext, hhigh⟩
  · next hnext =>
      split
      · next hthis => exact ⟨hthis, by omega⟩
      · next hthis =>
          -- year 0 begins no later than the day, so there is a year before
          have hpos : 0 < 400 * n / 146097 := by
            rw [daysBeforeYear_eq] at hthis
            omega
          obtain ⟨y, hy⟩ : ∃ y, 400 * n / 146097 = y + 1 := ⟨_, (Nat.succ_pred_eq_of_pos hpos).symm⟩
          rw [hy] at hthis ⊢
          rw [Nat.add_sub_cancel]
          refine ⟨?_, by omega⟩
          rw [daysBeforeYear_eq]
          omega

/-! ## Months

The months depend on the year only as far as it is a leap year or not, so the facts about them are
checked in one year of each kind. -/

def sampleYear (year : Nat) : Nat := if isLeap year then 2000 else 2001

theorem isLeap_sampleYear (year : Nat) : isLeap (sampleYear year) = isLeap year := by
  unfold sampleYear
  split
  · next h =>
      rw [h]
      decide
  · next h =>
      rw [eq_false_of_ne_true h]
      decide

theorem daysIn_sampleYear (month year : Nat) :
    daysIn month (sampleYear year) = daysIn month year := by
  simp only [daysIn, isLeap_sampleYear]

theorem daysBeforeMonth_sampleYear (month year : Nat) :
    daysBeforeMonth month (sampleYear year) = daysBeforeMonth month year := by
  simp only [daysBeforeMonth, daysIn_sampleYear]

theorem yearLength_sampleYear (year : Nat) : yearLength (sampleYear year) = yearLength year := by
  simp only [yearLength, isLeap_sampleYear]

theorem sampleYear_cases (year : Nat) : sampleYear year = 2000 ∨ sampleYear year = 2001 := by
  unfold sampleYear
  split
  · exact .inl rfl
  · exact .inr rfl

/-- The last day of a month is in the year. -/
theorem daysBeforeMonth_add_daysIn_le {month : Nat} (year : Nat) (hpos : 1 ≤ month)
    (hle : month ≤ 12) : daysBeforeMonth month year + daysIn month year ≤ yearLength year := by
  have hsample : ∀ y, y = 2000 ∨ y = 2001 → ∀ m : Fin 13, 1 ≤ m.val →
      daysBeforeMonth m y + daysIn m y ≤ yearLength y := by
    rintro y (rfl | rfl)
    · decide
    · decide
  have h := hsample _ (sampleYear_cases year) ⟨month, Nat.lt_succ_of_le hle⟩ hpos
  rwa [daysBeforeMonth_sampleYear, daysIn_sampleYear, yearLength_sampleYear] at h

/-- The month of a day has begun and has not ended. -/
structure InMonth (year day month : Nat) : Prop where
  pos : 1 ≤ month
  le : month ≤ 12
  begun : daysBeforeMonth month year ≤ day
  not_ended : day < daysBeforeMonth month year + daysIn month year

instance (year day month : Nat) : Decidable (InMonth year day month) :=
  decidable_of_iff (1 ≤ month ∧ month ≤ 12 ∧ daysBeforeMonth month year ≤ day ∧
      day < daysBeforeMonth month year + daysIn month year)
    ⟨fun h => ⟨h.1, h.2.1, h.2.2.1, h.2.2.2⟩, fun h => ⟨h.pos, h.le, h.begun, h.not_ended⟩⟩

theorem monthOf_inMonth {year day : Nat} (h : day < yearLength year) :
    InMonth year day (monthOf year day) := by
  have hsample : ∀ y, y = 2000 ∨ y = 2001 → ∀ d : Fin (yearLength y),
      InMonth y d (monthOf y d) := by
    rintro y (rfl | rfl)
    · decide +kernel
    · decide +kernel
  rw [← yearLength_sampleYear] at h
  obtain ⟨hpos, hle, hbegun, hended⟩ := hsample _ (sampleYear_cases year) ⟨day, h⟩
  have hmonth : monthOf (sampleYear year) day = monthOf year day := by
    simp only [monthOf, daysBeforeMonth_sampleYear]
  rw [hmonth] at hpos hle hbegun hended
  rw [daysBeforeMonth_sampleYear] at hbegun hended
  rw [daysIn_sampleYear] at hended
  exact ⟨hpos, hle, hbegun, hended⟩

/-! ## Dates -/

/-- The days up to a date. -/
def Date.days (d : Date) : Int :=
  daysBeforeYear d.year + daysBeforeMonth d.month d.year + (d.day - 1)

/-- A date of the calendar. -/
structure Date.Valid (d : Date) : Prop where
  month_pos : 1 ≤ d.month
  month_le : d.month ≤ 12
  day_pos : 1 ≤ d.day
  day_le : d.day ≤ daysIn d.month d.year

/-- A date lies in its year. -/
theorem Date.Valid.days_range {d : Date} (h : d.Valid) :
    daysBeforeYear d.year ≤ d.days ∧ d.days < daysBeforeYear (d.year + 1) := by
  have hmonth := daysBeforeMonth_add_daysIn_le d.year h.month_pos h.month_le
  have hpos := h.day_pos
  have hle := h.day_le
  rw [daysBeforeYear_succ, Date.days]
  omega

theorem dateOfDay_valid {day : Int} (h : -719528 ≤ day) :
    (dateOfDay day).Valid ∧ (dateOfDay day).days = day := by
  obtain ⟨hlow, hhigh⟩ := yearOfDay_spec h
  rw [daysBeforeYear_succ] at hhigh
  have hday : dayOfYear day < yearLength (yearOfDay day) := by
    unfold dayOfYear
    omega
  have hdoy : (dayOfYear day : Int) = day - daysBeforeYear (yearOfDay day) := by
    unfold dayOfYear
    omega
  have hdate : dateOfDay day =
      { year := yearOfDay day, month := monthOf (yearOfDay day) (dayOfYear day)
        day := dayOfYear day -
          daysBeforeMonth (monthOf (yearOfDay day) (dayOfYear day)) (yearOfDay day) + 1 } := rfl
  have hmonth := monthOf_inMonth hday
  rw [hdate]
  generalize monthOf (yearOfDay day) (dayOfYear day) = month at hmonth
  obtain ⟨hpos, hle, hbegun, hended⟩ := hmonth
  refine ⟨⟨hpos, hle, Nat.le_add_left 1 _, ?_⟩, ?_⟩
  · dsimp only
    omega
  · simp only [Date.days]
    omega

/-- The year of a date is the year of its day. -/
theorem Date.Valid.yearOfDay_days {d : Date} (h : d.Valid) : yearOfDay d.days = d.year := by
  have hrange := h.days_range
  have hzero : -719528 ≤ d.days := by
    have hmono : daysBeforeYear 0 ≤ daysBeforeYear d.year := daysBeforeYear_mono (Nat.zero_le _)
    have h0 : daysBeforeYear 0 = -719528 := rfl
    omega
  have hspec := yearOfDay_spec hzero
  exact year_unique hspec.1 hspec.2 hrange.1 hrange.2

/-- Days before year 0 are taken for days of that year. -/
theorem le_of_yearOfDay_pos {day : Int} (h : 0 < yearOfDay day) : -719528 ≤ day := by
  by_contra hlt
  have hzero : (day + 719528).toNat = 0 := by omega
  have h0 : daysBeforeYear 0 = -719528 := rfl
  have h1 : daysBeforeYear 1 = -719162 := rfl
  unfold yearOfDay at h
  rw [hzero] at h
  simp only [Nat.mul_zero, Nat.zero_div, Nat.zero_add] at h
  rw [if_neg (by omega), if_neg (by omega)] at h
  omega

/-! ## Times -/

def Civil.date (c : Civil) : Date := { year := c.year, month := c.month, day := c.day }

/-- A time of the calendar. -/
structure Civil.Valid (c : Civil) : Prop where
  date : c.date.Valid
  hour_le : c.hour ≤ 23
  minute_le : c.minute ≤ 59
  second_le : c.second ≤ 59
  nano_lt : c.nano < 1000000000

/-- The time a UTC clock shows after the given seconds since 1970. -/
def civilOfSeconds (seconds : Int) (nano : Nat) : Civil :=
  let date := dateOfDay (seconds / 86400)
  let s := (seconds % 86400).toNat
  { year := date.year, month := date.month, day := date.day, hour := s / 3600
    minute := s % 3600 / 60, second := s % 60, nano := nano }

theorem Civil.wallSeconds_eq (c : Civil) :
    c.wallSeconds = c.date.days * 86400 + c.hour * 3600 + c.minute * 60 + c.second := rfl

theorem Civil.Valid.days_eq {c : Civil} (h : c.Valid) : c.wallSeconds / 86400 = c.date.days := by
  have hhour := h.hour_le
  have hminute := h.minute_le
  have hsecond := h.second_le
  rw [Civil.wallSeconds_eq]
  omega

/-- The year of a time is the year of its day. -/
theorem Civil.Valid.yearOfDay {c : Civil} (h : c.Valid) :
    Time.yearOfDay (c.wallSeconds / 86400) = c.year := by
  rw [h.days_eq]
  exact h.date.yearOfDay_days

theorem civilOfSeconds_valid {seconds : Int} {nano : Nat} (h : -719528 ≤ seconds / 86400)
    (hnano : nano < 1000000000) :
    (civilOfSeconds seconds nano).Valid ∧ (civilOfSeconds seconds nano).wallSeconds = seconds := by
  obtain ⟨hdate, hdays⟩ := dateOfDay_valid h
  refine ⟨⟨hdate, ?_, ?_, ?_, hnano⟩, ?_⟩
  · show (seconds % 86400).toNat / 3600 ≤ 23
    omega
  · show (seconds % 86400).toNat % 3600 / 60 ≤ 59
    omega
  · show (seconds % 86400).toNat % 60 ≤ 59
    omega
  · show (dateOfDay (seconds / 86400)).days * 86400 +
      ((seconds % 86400).toNat / 3600 : Nat) * 3600 +
      ((seconds % 86400).toNat % 3600 / 60 : Nat) * 60 + ((seconds % 86400).toNat % 60 : Nat) =
        seconds
    rw [hdays]
    omega

end SnortOptimizer.Time
