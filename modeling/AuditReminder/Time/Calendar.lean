/-
The proleptic Gregorian calendar.

Days are numbered from 1970-01-01, which is day 0; years are counted astronomically, so year 0
comes before year 1 and is a leap year.  `dayNumber` numbers a date and `Date.ofDayNumber` finds
the date of a day.  Weeks start on Monday in the ISO reckoning, where the first week of a year
is the one that holds its first Thursday.
-/

namespace AuditReminder

/-- A year, a month from 1 to 12 and a day from 1. -/
structure Date where
  year : Int
  month : Nat
  day : Nat
deriving DecidableEq

namespace Date

/-- Every fourth year is a leap year, except three of four full centuries. -/
def isLeapYear (year : Int) : Bool :=
  year % 4 == 0 && (year % 100 != 0 || year % 400 == 0)

/-- The number of days in a month; there is no day in a month past the twelfth. -/
def daysInMonth (year : Int) : Nat → Nat
  | 1 | 3 | 5 | 7 | 8 | 10 | 12 => 31
  | 4 | 6 | 9 | 11 => 30
  | 2 => if isLeapYear year then 29 else 28
  | _ => 0

/-- The dates that the calendar has. -/
def isValid (d : Date) : Bool :=
  1 ≤ d.month && d.month ≤ 12 && 1 ≤ d.day && d.day ≤ daysInMonth d.year d.month

/-- The number of a date.  Years are counted from March here, which puts the leap day last. -/
def dayNumber (d : Date) : Int :=
  let year : Int := if d.month ≤ 2 then d.year - 1 else d.year
  let month : Int := (d.month + 9) % 12
  365 * year + year / 4 - year / 100 + year / 400 + (153 * month + 2) / 5 + d.day - 719469

/-- The date of a day.  Four centuries hold 146097 days, whatever year they start with. -/
def ofDayNumber (n : Int) : Date :=
  let shifted := n + 719468
  let era := shifted / 146097
  let dayOfEra := shifted % 146097
  let yearOfEra :=
    (dayOfEra - dayOfEra / 1460 + dayOfEra / 36524 - dayOfEra / 146096) / 365
  let dayOfYear := dayOfEra - (365 * yearOfEra + yearOfEra / 4 - yearOfEra / 100)
  let month := (5 * dayOfYear + 2) / 153
  let year := yearOfEra + era * 400
  { year := if month < 10 then year else year + 1
    month := (if month < 10 then month + 3 else month - 9).toNat
    day := (dayOfYear - (153 * month + 2) / 5 + 1).toNat }

/-- The day of the year, counted from 1. -/
def ordinal (d : Date) : Nat := (d.dayNumber - dayNumber ⟨d.year, 1, 1⟩ + 1).toNat

/-- The day of the week, counted from Sunday as 0. -/
def daysFromSunday (d : Date) : Nat := ((d.dayNumber + 4) % 7).toNat

/-- The day of the week, counted from Monday as 0. -/
def daysFromMonday (d : Date) : Nat := ((d.dayNumber + 3) % 7).toNat

/-- The Thursday of the week that a date lies in; its year owns the week. -/
def thursday (d : Date) : Date := ofDayNumber (d.dayNumber + 3 - d.daysFromMonday)

/-- The year that owns the week of a date. -/
def isoYear (d : Date) : Int := d.thursday.year

/-- The number of the week of a date within the year that owns it. -/
def isoWeek (d : Date) : Nat := (d.thursday.ordinal - 1) / 7 + 1

/-- The number of the week when weeks start on Sunday and days before the first are in week 0. -/
def weekFromSunday (d : Date) : Nat := (d.ordinal + 6 - d.daysFromSunday) / 7

/-- The number of the week when weeks start on Monday and days before the first are in week 0. -/
def weekFromMonday (d : Date) : Nat := (d.ordinal + 6 - d.daysFromMonday) / 7

def quarter (d : Date) : Nat := (d.month - 1) / 3 + 1

example : dayNumber ⟨1970, 1, 1⟩ = 0 := by decide
example : dayNumber ⟨2024, 2, 29⟩ = 19782 := by decide
example : ofDayNumber 19782 = ⟨2024, 2, 29⟩ := by decide
example : ofDayNumber (-719528) = ⟨0, 1, 1⟩ := by decide

end Date

end AuditReminder
