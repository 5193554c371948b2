/-
Times as text.

A time is written as its date, the letter T, its time of day with a fraction of 0, 3, 6 or 9
digits and the letter Z; the year has four digits, or a sign and at least four where it lies
outside 0 to 9999.  Three readers take times back: `readStrict` takes RFC 3339 as it stands,
`readRelaxed` takes what people write in its place, and `readDate` takes a bare date.
`parseTime?` is what the command line accepts.
-/
import AuditReminder.Time.Reader

namespace AuditReminder

namespace Time

/-- A year: four digits, or a sign and at least four. -/
def yearText (year : Int) : List Char :=
  if 0 ≤ year ∧ year ≤ 9999 then Decimal.padded 4 year.natAbs
  else (if year < 0 then '-' else '+') :: Decimal.padded 4 year.natAbs

/-- How many digits of a fraction are written. -/
inductive FractionStyle where
  /-- As few as 0, 3, 6 or 9 digits. -/
  | asNeeded
  /-- Three digits, cut off. -/
  | milliseconds
deriving DecidableEq

/-- A fraction of a second, with its point. -/
def fractionText : FractionStyle → Nat → List Char
  | .milliseconds, nano => '.' :: Decimal.padded 3 (nano / 1_000_000)
  | .asNeeded, nano =>
      if nano = 0 then []
      else if nano % 1_000_000 = 0 then '.' :: Decimal.padded 3 (nano / 1_000_000)
      else if nano % 1_000 = 0 then '.' :: Decimal.padded 6 (nano / 1_000)
      else '.' :: Decimal.padded 9 nano

/-- A date: year, month and day joined by hyphens. -/
def dateText (d : Date) : List Char :=
  yearText d.year ++ '-' :: Decimal.padded 2 d.month ++ '-' :: Decimal.padded 2 d.day

/-- A time of day without its fraction. -/
def clockText (c : Instant.Civil) : List Char :=
  Decimal.padded 2 c.hour ++ ':' :: Decimal.padded 2 c.minute ++ ':' :: Decimal.padded 2 c.second

/-- A time in UTC, with `zone` for the offset at its end. -/
def isoText (style : FractionStyle) (zone : List Char) (t : Instant) : List Char :=
  let c := t.civil
  dateText c.date ++ 'T' :: clockText c ++ fractionText style c.nano ++ zone

end Time

namespace Instant

/-- The exchanged form: `2024-01-15T00:00:00Z`. -/
def toText (t : Instant) : String := String.ofList (Time.isoText .asNeeded ['Z'] t)

/-- The stored form, with exactly three digits of fraction: `2024-01-15T00:00:00.000Z`. -/
def toStoredText (t : Instant) : String := String.ofList (Time.isoText .milliseconds ['Z'] t)

/-- The form with a numeric offset: `2024-01-15T00:00:00+00:00`. -/
def toOffsetText (t : Instant) : String :=
  String.ofList (Time.isoText .asNeeded ['+', '0', '0', ':', '0', '0'] t)

/-- The form shown to people: `2024-01-15 00:00:00 UTC`. -/
def toDisplayText (t : Instant) : String :=
  let c := t.civil
  String.ofList (Time.dateText c.date ++ ' ' :: Time.clockText c ++
    Time.fractionText .asNeeded c.nano ++ [' ', 'U', 'T', 'C'])

end Instant

namespace Time

/-- The bytes of a date and a time of day in RFC 3339, up to the whole seconds. -/
def wholeSecondsLength : Nat := 19

/-- Reads a time of RFC 3339 and nothing after it: its length is judged first, the date once it
is read, and the time of day with its fraction. -/
def readStrict (cs : List Char) : Except TimeFault Instant := do
  if Text.byteLength cs < wholeSecondsLength then .error .tooShort
  let (year, cs) ← number 4 (some 4) cs
  let ((), cs) ← mark '-' cs
  let (month, cs) ← number 2 (some 2) cs
  let ((), cs) ← mark '-' cs
  let (day, cs) ← number 2 (some 2) cs
  let date : Date := ⟨year, month, day⟩
  if !date.isValid then .error .outOfRange
  let ((), cs) ← dateTimeMark cs
  let (hour, cs) ← number 2 (some 2) cs
  let ((), cs) ← mark ':' cs
  let (minute, cs) ← number 2 (some 2) cs
  let ((), cs) ← mark ':' cs
  let (second, cs) ← number 2 (some 2) cs
  let (nano, cs) ← fraction? cs
  if 23 < hour ∨ 59 < minute ∨ 60 < second then .error .outOfRange
  let (offset, cs) ← offset (mark ':') cs
  if offset < -86340 ∨ 86340 < offset then .error .outOfRange
  else if cs ≠ [] then .error .tooLong
  else assemble ⟨date, hour, minute, second, nano⟩ offset

/-- Reads a number after any blanks before it. -/
def spacedNumber (most : Nat) : Reader Nat := fun cs => number 1 (some most) (Text.dropBlanks cs)

/-- Reads a year after any blanks: up to four digits, or a sign and any number of digits. -/
def spacedYear : Reader Int := fun cs =>
  match Text.dropBlanks cs with
  | '-' :: cs => do
      let (n, rest) ← number 1 none cs
      checked (-(n : Int)) rest
  | '+' :: cs => do
      let (n, rest) ← number 1 none cs
      checked n rest
  | cs => do
      let (n, rest) ← number 1 (some 4) cs
      checked n rest
where
  /-- A year is a number of 32 bits. -/
  checked (year : Int) (rest : List Char) : Except TimeFault (Int × List Char) :=
    if -2_147_483_648 ≤ year ∧ year ≤ 2_147_483_647 then .ok (year, rest) else .error .outOfRange

/-- Blanks, then a character. -/
def spacedMark (expected : Char) : Reader Unit := fun cs => mark expected (Text.dropBlanks cs)

/-- Any run of blanks and colons, also an empty one. -/
def looseColon : Reader Unit := fun cs =>
  .ok ((), cs.dropWhile fun c => c == ':' || Text.isBlank c)

/-- Whether a text starts with the letters UTC, in either case. -/
def startsWithUtc : List Char → Bool
  | a :: b :: c :: _ => a.toUpper == 'U' && b.toUpper == 'T' && c.toUpper == 'C'
  | _ => false

/-- Reads an offset with loose separators, or the letters UTC. -/
def looseOffset : Reader Int := fun cs =>
  let cs := Text.dropBlanks cs
  if startsWithUtc cs then .ok (0, cs.drop 3) else offset looseColon cs

/-- Reads a time in the layout of RFC 3339 with single digits, blanks and signed years let
through. -/
def readRelaxed (cs : List Char) : Except TimeFault Instant := do
  let (year, cs) ← spacedYear cs
  let ((), cs) ← spacedMark '-' cs
  let (month, cs) ← within 1 12 (spacedNumber 2) cs
  let ((), cs) ← spacedMark '-' cs
  let (day, cs) ← within 1 31 (spacedNumber 2) cs
  let ((), cs) ← dateTimeMark cs
  let (hour, cs) ← within 0 23 (spacedNumber 2) cs
  let ((), cs) ← spacedMark ':' cs
  let (minute, cs) ← within 0 59 (spacedNumber 2) cs
  let ((), cs) ← spacedMark ':' cs
  let (second, cs) ← within 0 60 (spacedNumber 2) cs
  let (nano, cs) ← fraction? cs
  let (offset, cs) ← looseOffset cs
  if Text.dropBlanks cs ≠ [] then .error .tooLong
  else assemble ⟨⟨year, month, day⟩, hour, minute, second, nano⟩ offset

/-- Reads a bare date as midnight in UTC. -/
def readDate (cs : List Char) : Except TimeFault Instant := do
  let (year, cs) ← spacedYear cs
  let ((), cs) ← mark '-' cs
  let (month, cs) ← within 1 12 (spacedNumber 2) cs
  let ((), cs) ← mark '-' cs
  let (day, cs) ← within 1 31 (spacedNumber 2) cs
  if cs ≠ [] then .error .tooLong
  else assemble ⟨⟨year, month, day⟩, 0, 0, 0, 0⟩ 0

/-- The instant that a text of the command line names: a time of RFC 3339 or a bare date. -/
def parseTime? (s : String) : Option Instant :=
  match readStrict s.toList with
  | .ok t => some t
  | .error _ => (readDate s.toList).toOption

/-- What is said of a text that `parseTime?` refuses. -/
def refusal (s : String) : String :=
  "invalid time '" ++ s ++ "': expected RFC 3339 or YYYY-MM-DD"

end Time

end AuditReminder
