/-
Instants and spans.

An instant is a second since 1970-01-01T00:00:00Z and a count of nanoseconds within it.  Any
second may be stretched to two: counts from a thousand million on lie in the leap second that
follows it.  A text tells such an instant only where the leap second ends a minute
(`Instant.LeapEndsMinute`), as all that are read off a text or a timestamp do; after another second
it looks like the next one.

The distance of two instants counts leap seconds as far as their times of day show them, so it is
not the difference of two numbers on one line; `since` and `shift?` state the rule.  Main
definitions: `Instant`, `Instant.since`, `Instant.shift?`, `Span`.
-/
import AuditReminder.Time.Calendar

namespace AuditReminder

/-- Nanoseconds in a second. -/
def nanosPerSecond : Nat := 1_000_000_000

/-- Seconds in a day; leap seconds are not counted. -/
def secondsPerDay : Int := 86_400

/-- The first second of the year −262143. -/
def earliestSecond : Int := -8_334_601_228_800

/-- The last second of the year 262142. -/
def latestSecond : Int := 8_210_266_876_799

/-- A point in time: a second since 1970 and the nanoseconds within it. -/
structure Instant where
  second : Int
  nano : Nat
  inRange : earliestSecond ≤ second ∧ second ≤ latestSecond
  belowTwoSeconds : nano < 2_000_000_000
deriving DecidableEq

/-- A length of time in nanoseconds. -/
structure Span where
  nanos : Int
deriving DecidableEq

namespace Span

/-- The longest span, in whole seconds. -/
def maxSeconds : Int := 9_223_372_036_854_775

/-- A number of days, unless it is longer than the longest span. -/
def days? (n : Int) : Option Span :=
  if -maxSeconds ≤ n * secondsPerDay ∧ n * secondsPerDay ≤ maxSeconds then
    some ⟨n * secondsPerDay * nanosPerSecond⟩
  else none

/-- A number of milliseconds that fits in 64 bits, of which the least is not a span. -/
def milliseconds? (n : Int) : Option Span :=
  if -9_223_372_036_854_775_807 ≤ n ∧ n ≤ 9_223_372_036_854_775_807 then
    some ⟨n * 1_000_000⟩
  else none

/-- The whole seconds of a span, towards zero. -/
def seconds (s : Span) : Int := s.nanos.tdiv nanosPerSecond

/-- The whole milliseconds of a span, towards zero. -/
def milliseconds (s : Span) : Int := s.nanos.tdiv 1_000_000

def neg (s : Span) : Span := ⟨-s.nanos⟩

end Span

namespace Instant

/-- The instant of a second and a count of nanoseconds, when there is one. -/
def ofParts? (second : Int) (nano : Nat) : Option Instant :=
  if h : (earliestSecond ≤ second ∧ second ≤ latestSecond) ∧ nano < 2_000_000_000 then
    some ⟨second, nano, h.1, h.2⟩
  else none

theorem ofParts?_eq_some_iff {second : Int} {nano : Nat} {t : Instant} :
    ofParts? second nano = some t ↔ t.second = second ∧ t.nano = nano := by
  unfold ofParts?
  split
  · rw [Option.some.injEq]
    constructor
    · rintro rfl
      exact ⟨rfl, rfl⟩
    · rintro ⟨rfl, rfl⟩
      rfl
  · next h =>
    refine ⟨nofun, ?_⟩
    rintro ⟨rfl, rfl⟩
    exact (h ⟨t.inRange, t.belowTwoSeconds⟩).elim

/-- An instant in a leap second. -/
def IsLeap (t : Instant) : Prop := nanosPerSecond ≤ t.nano

instance (t : Instant) : Decidable t.IsLeap := inferInstanceAs (Decidable (_ ≤ _))

/-- If the instant lies in a leap second, this ends a minute. -/
def LeapEndsMinute (t : Instant) : Prop := t.IsLeap → t.second % 60 = 59

instance (t : Instant) : Decidable t.LeapEndsMinute := inferInstanceAs (Decidable (_ → _))

/-- The instant of a timestamp, which has leap seconds at the end of a minute only. -/
def of? (second : Int) (nano : Nat) : Option Instant :=
  (ofParts? second nano).filter fun t => t.LeapEndsMinute

/-- 1970-01-01T00:00:00Z. -/
def epoch : Instant := ⟨0, 0, by decide, by decide⟩

/-- The first instant. -/
def earliest : Instant := ⟨earliestSecond, 0, by decide, by decide⟩

/-- The last instant outside a leap second. -/
def latest : Instant := ⟨latestSecond, 999_999_999, by decide, by decide⟩

/-- The instant a number of milliseconds after 1970. -/
def ofMilliseconds? (n : Int) : Option Instant :=
  of? (n / 1000) ((n % 1000).toNat * 1_000_000)

/-- The second of the day. -/
def timeOfDay (t : Instant) : Int := t.second % secondsPerDay

/-- Earlier: an earlier second, or the same second and fewer nanoseconds. -/
instance : LT Instant := ⟨fun a b => a.second < b.second ∨ a.second = b.second ∧ a.nano < b.nano⟩

instance : LE Instant := ⟨fun a b => a.second < b.second ∨ a.second = b.second ∧ a.nano ≤ b.nano⟩

instance (a b : Instant) : Decidable (a < b) := inferInstanceAs (Decidable (_ ∨ _))

instance (a b : Instant) : Decidable (a ≤ b) := inferInstanceAs (Decidable (_ ∨ _))

theorem lt_iff {a b : Instant} :
    a < b ↔ a.second < b.second ∨ a.second = b.second ∧ a.nano < b.nano := Iff.rfl

theorem le_iff {a b : Instant} :
    a ≤ b ↔ a.second < b.second ∨ a.second = b.second ∧ a.nano ≤ b.nano := Iff.rfl

theorem not_le_iff {a b : Instant} : ¬ a ≤ b ↔ b < a := by
  rw [lt_iff, le_iff]; omega

theorem eq_of_second_nano {a b : Instant} (hs : a.second = b.second) (hn : a.nano = b.nano) :
    a = b := by
  cases a; cases b; simp_all

/-- The leap second counted between two instants: one that the times of day put between them. -/
def leapBetween (a b : Instant) : Int :=
  if b.timeOfDay < a.timeOfDay then if b.IsLeap then 1 else 0
  else if a.timeOfDay < b.timeOfDay then if a.IsLeap then -1 else 0
  else 0

/-- The span from `b` to `a`. -/
def since (a b : Instant) : Span :=
  ⟨(a.second - b.second + leapBetween a b) * nanosPerSecond + (a.nano - b.nano : Int)⟩

/-- The instant of a second and any whole number of nanoseconds, carried into the second. -/
def carry? (second nanos : Int) : Option Instant :=
  ofParts? (second + nanos / nanosPerSecond) (nanos % nanosPerSecond).toNat

/-- The instant a span later, when there is one.  From within a leap second a step of less than
a second stays in its two-second stretch; a longer step leaves it, and the leap second is not
counted on the way. -/
def shift? (t : Instant) (span : Span) : Option Instant :=
  let seconds := span.seconds
  let rest := span.nanos.tmod nanosPerSecond
  if t.IsLeap then
    if seconds > 0 ∨ (rest > 0 ∧ (t.nano : Int) + rest ≥ 2 * nanosPerSecond) then
      carry? (t.second + seconds) (t.nano - nanosPerSecond + rest)
    else if seconds < 0 then
      carry? (t.second + 1 + seconds) (t.nano - nanosPerSecond + rest)
    else ofParts? t.second ((t.nano : Int) + rest).toNat
  else carry? (t.second + seconds) (t.nano + rest)

/-- The instant a span earlier, when there is one. -/
def shiftBack? (t : Instant) (span : Span) : Option Instant := t.shift? span.neg

/-- A date and a time of day; second 60 is a leap second at the end of a minute. -/
structure Civil where
  date : Date
  hour : Nat
  minute : Nat
  second : Nat
  nano : Nat
deriving DecidableEq

/-- The calendar reading of an instant; a leap second is read as the second after the one it
stretches. -/
def civil (t : Instant) : Civil :=
  let time := t.timeOfDay.toNat
  { date := Date.ofDayNumber (t.second / secondsPerDay)
    hour := time / 3600
    minute := time / 60 % 60
    second := time % 60 + if t.IsLeap then 1 else 0
    nano := t.nano % nanosPerSecond }

/-- The instant of a calendar reading `offset` seconds ahead of 1970's meridian, when there is
one. -/
def ofCivil? (c : Civil) (offset : Int) : Option Instant :=
  let second := min c.second 59
  let leap := if c.second = 60 then nanosPerSecond else 0
  ofParts? (c.date.dayNumber * secondsPerDay + c.hour * 3600 + c.minute * 60 + second - offset)
    (c.nano + leap)

end Instant

end AuditReminder
