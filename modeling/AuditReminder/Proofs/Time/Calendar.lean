/-
Dates and their day numbers.

`Date.dayNumber` numbers the dates of the calendar in their order, and `Date.ofDayNumber` finds the
date of a number.

    dayNumber_ofDayNumber     the date found has the number
    isValid_ofDayNumber       and is a date of the calendar
    dayNumber_lt_iff          of two such dates the earlier has the smaller number

For the order one month is enough: it ends where the next one starts (`monthStart_next`).  Finding a
date divides within an era of four centuries.  The quotient is right on the first and on the last
day of each of the 400 years, which is a table, and it does not fall in between (`yearOfEra_mono`).
-/
import AuditReminder.Time.Calendar
import Mathlib.Order.Monotone.Basic
import Mathlib.Algebra.Order.Group.Int
import Mathlib.Tactic.IntervalCases

namespace AuditReminder.Date

/-! ## Months in their order -/

theorem isLeapYear_iff (year : Int) :
    isLeapYear year = true ↔ year % 4 = 0 ∧ (year % 100 ≠ 0 ∨ year % 400 = 0) := by
  simp [isLeapYear]

/-- The days of February. -/
theorem daysInMonth_two (year : Int) :
    (daysInMonth year 2 : Int)
      = 28 + year / 4 - (year - 1) / 4 - (year / 100 - (year - 1) / 100)
          + (year / 400 - (year - 1) / 400) := by
  have hleap := isLeapYear_iff year
  simp only [daysInMonth]
  split
  · next h =>
    have hyear := hleap.mp h
    omega
  · next h =>
    have hyear := mt hleap.mpr h
    omega

theorem daysInMonth_le (year : Int) (month : Nat) : daysInMonth year month ≤ 31 := by
  have hfebruary : (if isLeapYear year then 29 else 28) ≤ 31 := by split <;> omega
  unfold daysInMonth
  split <;> first | exact hfebruary | omega

/-- The day before the first day of a month. -/
def monthStart (year : Int) (month : Nat) : Int := dayNumber ⟨year, month, 0⟩

theorem dayNumber_eq (d : Date) : d.dayNumber = monthStart d.year d.month + d.day := by
  simp only [monthStart, dayNumber]
  omega

/-- A month ends where the next one starts. -/
theorem monthStart_next (year : Int) (month : Nat) (h : 1 ≤ month ∧ month ≤ 12) :
    monthStart year month + daysInMonth year month
      = if month = 12 then monthStart (year + 1) 1 else monthStart year (month + 1) := by
  obtain ⟨hlow, hhigh⟩ := h
  simp only [monthStart, dayNumber]
  interval_cases month
  case «2» =>
    rw [daysInMonth_two]
    simp
    omega
  all_goals simp [daysInMonth]; omega

/-- A later month of the year starts after the month has ended. -/
theorem monthStart_later (year : Int) {a b : Nat} (ha : 1 ≤ a) (hab : a < b) (hb : b ≤ 12) :
    monthStart year a + daysInMonth year a ≤ monthStart year b := by
  induction b, hab using Nat.le_induction with
  | base =>
      have hnext := monthStart_next year a ⟨ha, by omega⟩
      rw [if_neg (by omega)] at hnext
      exact Int.le_of_eq hnext
  | succ b hab ih =>
      have hnext := monthStart_next year b ⟨by omega, by omega⟩
      rw [if_neg (by omega)] at hnext
      have hbefore := ih (by omega)
      omega

/-- The next year starts after the month has ended. -/
theorem monthStart_nextYear (year : Int) {month : Nat} (h : 1 ≤ month ∧ month ≤ 12) :
    monthStart year month + daysInMonth year month ≤ monthStart (year + 1) 1 := by
  have hlast := monthStart_next year 12 ⟨by omega, by omega⟩
  rw [if_pos rfl] at hlast
  by_cases hmonth : month = 12
  · rw [hmonth]
    exact Int.le_of_eq hlast
  · have hlater := monthStart_later year h.1 (b := 12) (by omega) (by omega)
    omega

theorem monthStart_mono {a b : Int} (h : a ≤ b) : monthStart a 1 ≤ monthStart b 1 := by
  simp only [monthStart, dayNumber]
  simp
  omega

theorem monthStart_one_le (year : Int) {month : Nat} (h : 1 ≤ month ∧ month ≤ 12) :
    monthStart year 1 ≤ monthStart year month := by
  by_cases hmonth : month = 1
  · rw [hmonth]
  · have hlater := monthStart_later year (a := 1) (by omega) (b := month) (by omega) h.2
    omega

/-- One date comes before another. -/
def Before (a b : Date) : Prop :=
  a.year < b.year ∨ a.year = b.year ∧ (a.month < b.month ∨ a.month = b.month ∧ a.day < b.day)

theorem isValid_iff {d : Date} :
    d.isValid = true ↔
      (1 ≤ d.month ∧ d.month ≤ 12) ∧ 1 ≤ d.day ∧ d.day ≤ daysInMonth d.year d.month := by
  simp [isValid, and_assoc]

theorem dayNumber_lt {a b : Date} (ha : a.isValid = true) (hb : b.isValid = true)
    (h : a.Before b) : a.dayNumber < b.dayNumber := by
  obtain ⟨hamonth, -, haday⟩ := isValid_iff.mp ha
  obtain ⟨hbmonth, hbday, -⟩ := isValid_iff.mp hb
  rw [dayNumber_eq, dayNumber_eq]
  rcases h with hyear | ⟨hyear, hmonth | ⟨hmonth, hday⟩⟩
  · have hend := monthStart_nextYear a.year hamonth
    have hyears := monthStart_mono (a := a.year + 1) (b := b.year) hyear
    have hstart := monthStart_one_le b.year hbmonth
    omega
  · have hmonths := monthStart_later a.year hamonth.1 hmonth hbmonth.2
    rw [← hyear]
    omega
  · rw [← hyear, ← hmonth]
    omega

/-- The numbers of dates are in the order of the dates. -/
theorem dayNumber_lt_iff {a b : Date} (ha : a.isValid = true) (hb : b.isValid = true) :
    a.dayNumber < b.dayNumber ↔ a.Before b := by
  constructor
  · intro h
    have hba : ¬ b.Before a := fun hba => by
      have hlt := dayNumber_lt hb ha hba
      omega
    by_cases heq : a = b
    · subst heq
      omega
    · have hne : a.year ≠ b.year ∨ a.month ≠ b.month ∨ a.day ≠ b.day := by
        by_contra hall
        obtain ⟨hyear, hmonth, hday⟩ : a.year = b.year ∧ a.month = b.month ∧ a.day = b.day := by
          omega
        cases a
        cases b
        cases hyear
        cases hmonth
        cases hday
        exact heq rfl
      unfold Before at hba ⊢
      omega
  · exact dayNumber_lt ha hb

/-! ## The date of a number -/

/-- The days before a year of an era, years counted from March. -/
def eraDays (year : Int) : Int := 365 * year + year / 4 - year / 100

/-- The year of an era that a day of it lies in. -/
def yearOfEra (day : Int) : Int := (day - day / 1460 + day / 36524 - day / 146096) / 365

theorem yearOfEra_succ (day : Int) : yearOfEra day ≤ yearOfEra (day + 1) := by
  -- the days after four centuries are among those after one
  have hcenturies (n : Int) : n / 146096 = n / 36524 / 4 := by omega
  unfold yearOfEra
  rw [hcenturies, hcenturies]
  omega

theorem yearOfEra_mono {a b : Int} (h : a ≤ b) : yearOfEra a ≤ yearOfEra b :=
  monotone_int_of_le_succ yearOfEra_succ h

/-- The first and the last day of each year. -/
theorem yearOfEra_table : ∀ year : Fin 400,
    yearOfEra (eraDays year.val) = year.val ∧
      yearOfEra (eraDays (year.val + 1) - 1) = year.val := by
  decide +kernel

theorem yearOfEra_bounds {day : Int} (h : 0 ≤ day ∧ day ≤ 146096) :
    0 ≤ yearOfEra day ∧ yearOfEra day ≤ 399 :=
  ⟨yearOfEra_mono h.1, yearOfEra_mono h.2⟩

/-- A day lies in its year; the last year of an era is cut off by the era alone. -/
theorem eraDays_yearOfEra {day : Int} (h : 0 ≤ day ∧ day ≤ 146096) :
    eraDays (yearOfEra day) ≤ day ∧
      (yearOfEra day < 399 → day < eraDays (yearOfEra day + 1)) := by
  obtain ⟨hlow, hhigh⟩ := yearOfEra_bounds h
  obtain ⟨year, hyear⟩ := Int.eq_ofNat_of_zero_le hlow
  constructor
  · by_contra hbefore
    have hpos : year ≠ 0 := by
      rintro rfl
      rw [hyear] at hbefore
      exact hbefore h.1
    obtain ⟨previous, rfl⟩ := Nat.exists_eq_succ_of_ne_zero hpos
    have hlast := (yearOfEra_table ⟨previous, by omega⟩).2
    have hday : yearOfEra day ≤ yearOfEra (eraDays (previous + 1) - 1) := by
      refine yearOfEra_mono ?_
      rw [hyear] at hbefore
      push_cast at hbefore
      omega
    simp only at hlast
    omega
  · intro hlt
    by_contra hafter
    have hfirst := (yearOfEra_table ⟨year + 1, by omega⟩).1
    have hday : yearOfEra (eraDays (year + 1)) ≤ yearOfEra day := by
      refine yearOfEra_mono ?_
      rw [hyear] at hafter
      omega
    push_cast at hfirst
    omega

/-- The date of a day of a year, both counted from March and from zero. -/
def ofYearDay (year day : Int) : Date :=
  let month := (5 * day + 2) / 153
  { year := if month < 10 then year else year + 1
    month := (if month < 10 then month + 3 else month - 9).toNat
    day := (day - (153 * month + 2) / 5 + 1).toNat }

/-- A year has 365 days, and one more if its last February belongs to a leap year. -/
def IsYearDay (year day : Int) : Prop :=
  0 ≤ day ∧ day ≤ 364 + (daysInMonth (year + 1) 2 - 28)

theorem ofYearDay_spec {year day : Int} (h : IsYearDay year day) :
    (ofYearDay year day).isValid = true ∧
      (ofYearDay year day).dayNumber
        = 365 * year + year / 4 - year / 100 + year / 400 + day - 719468 := by
  obtain ⟨hlow, hhigh⟩ := h
  have hleap : (daysInMonth (year + 1) 2 : Int) ≤ 29 := by
    rw [daysInMonth_two]
    omega
  rw [isValid_iff]
  unfold ofYearDay dayNumber
  -- a month is one of twelve, and its days are those that the division leaves
  have hmonth : 0 ≤ (5 * day + 2) / 153 ∧ (5 * day + 2) / 153 ≤ 11 := by omega
  obtain ⟨hm, hm'⟩ := hmonth
  have hdays : 153 * ((5 * day + 2) / 153) ≤ 5 * day + 2 ∧
      5 * day + 2 < 153 * ((5 * day + 2) / 153) + 153 := by omega
  generalize (5 * day + 2) / 153 = month at *
  interval_cases month
  case «11» =>
    simp
    omega
  all_goals
    simp [daysInMonth]
    omega

/-- How many days a year of an era has. -/
theorem daysInMonth_era (era : Int) {year : Int} (h : 0 ≤ year ∧ year ≤ 399) :
    (daysInMonth (year + era * 400 + 1) 2 : Int) - 28
      = if year < 399 then eraDays (year + 1) - eraDays year - 365 else 1 := by
  have hfour : (year + era * 400 + 1) / 4 = (year + 1) / 4 + era * 100 ∧
      (year + era * 400 + 1 - 1) / 4 = year / 4 + era * 100 := by omega
  have hhundred : (year + era * 400 + 1) / 100 = (year + 1) / 100 + era * 4 ∧
      (year + era * 400 + 1 - 1) / 100 = year / 100 + era * 4 := by omega
  have heras : (year + era * 400 + 1) / 400 = (if year < 399 then 0 else 1) + era ∧
      (year + era * 400 + 1 - 1) / 400 = era := by omega
  rw [daysInMonth_two, hfour.1, hfour.2, hhundred.1, hhundred.2, heras.1, heras.2]
  unfold eraDays
  split
  · omega
  · obtain rfl : year = 399 := by omega
    omega

theorem ofDayNumber_eq (n : Int) :
    ofDayNumber n =
      ofYearDay (yearOfEra ((n + 719468) % 146097) + (n + 719468) / 146097 * 400)
        ((n + 719468) % 146097 - eraDays (yearOfEra ((n + 719468) % 146097))) := rfl

/-- The date of a day has its number and is in the calendar. -/
theorem ofDayNumber_spec (n : Int) :
    (ofDayNumber n).isValid = true ∧ (ofDayNumber n).dayNumber = n := by
  rw [ofDayNumber_eq]
  have hday : 0 ≤ (n + 719468) % 146097 ∧ (n + 719468) % 146097 ≤ 146096 := by omega
  have hn : n + 719468 = 146097 * ((n + 719468) / 146097) + (n + 719468) % 146097 := by omega
  generalize (n + 719468) / 146097 = era at *
  generalize (n + 719468) % 146097 = day at *
  obtain ⟨hlow, hhigh⟩ := yearOfEra_bounds hday
  obtain ⟨hfirst, hlast⟩ := eraDays_yearOfEra hday
  generalize yearOfEra day = year at *
  have hyearDay : IsYearDay (year + era * 400) (day - eraDays year) := by
    constructor
    · omega
    · rw [daysInMonth_era era ⟨hlow, hhigh⟩]
      split
      · next hnext =>
        have hend := hlast hnext
        omega
      · obtain rfl : year = 399 := by omega
        unfold eraDays
        omega
  obtain ⟨hvalid, hnumber⟩ := ofYearDay_spec hyearDay
  refine ⟨hvalid, hnumber.trans ?_⟩
  unfold eraDays
  omega

theorem isValid_ofDayNumber (n : Int) : (ofDayNumber n).isValid = true := (ofDayNumber_spec n).1

theorem dayNumber_ofDayNumber (n : Int) : (ofDayNumber n).dayNumber = n := (ofDayNumber_spec n).2

end AuditReminder.Date
