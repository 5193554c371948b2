/-
Which tiers are due.

The days left before a deadline are whole days, rounded up: a millisecond before the deadline
one day is left, at the deadline none.  A tier is due once it is reached and not yet sent; the
upcoming tier is the first one, in schedule order, that is neither.  Everything here is a
function of an instant, a deadline and the set of tiers already sent.
-/
import AuditReminder.NameSet
import AuditReminder.Tier
import AuditReminder.Time.Instant

namespace AuditReminder

/-- Milliseconds in a day. -/
def millisecondsPerDay : Int := 86_400_000

/-- Whole days from `now` until `endsAt`, rounded up. -/
def daysLeft (now endsAt : Instant) : Int :=
  let milliseconds := (endsAt.since now).milliseconds
  let whole := milliseconds / millisecondsPerDay
  if milliseconds % millisecondsPerDay > 0 then whole + 1 else whole

/-- A tier that has not been reached, and the instant at which it will be. -/
structure Upcoming where
  tier : Tier
  dueAt : Instant
deriving DecidableEq

namespace Schedule

/-- The tiers reached and not yet sent, the largest threshold first. -/
def due (schedule : Schedule) (now endsAt : Instant) (sent : NameSet) : List Tier :=
  schedule.tiers.filter fun tier =>
    tier.isReached (daysLeft now endsAt) && !decide (tier.name ∈ sent)

/-- The instant at which a tier is reached, when it can be written. -/
def dueAt? (tier : Tier) (endsAt : Instant) : Option Instant :=
  (Span.days? tier.offsetDays).bind endsAt.shiftBack?

/-- The first tier neither reached nor sent, unless its instant cannot be written. -/
def next? (schedule : Schedule) (now endsAt : Instant) (sent : NameSet) : Option Upcoming := do
  let tier ← schedule.tiers.find? fun tier =>
    !tier.isReached (daysLeft now endsAt) && !decide (tier.name ∈ sent)
  let dueAt ← dueAt? tier endsAt
  return ⟨tier, dueAt⟩

end Schedule

end AuditReminder
