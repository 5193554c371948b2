/-
Previews.

A preview shows what an audit with a deadline would bring at an instant if nothing had been sent for
it yet: the days left, the tiers due, and the tier that comes next.
-/
import AuditReminder.Exchange.Encode

namespace AuditReminder

/-- What a fresh audit with a deadline would bring at an instant. -/
structure Preview where
  now : Instant
  endsAt : Instant
  daysLeft : Int
  due : List Tier
  next? : Option Upcoming
deriving DecidableEq

namespace Preview

def of (schedule : Schedule) (now endsAt : Instant) : Preview :=
  ⟨now, endsAt, AuditReminder.daysLeft now endsAt, schedule.due now endsAt .empty,
    schedule.next? now endsAt .empty⟩

def toJson (p : Preview) : Json :=
  .object
    [("now", p.now.toJson), ("ends_at", p.endsAt.toJson), ("days_left", .integer p.daysLeft),
      ("due", .list (p.due.map Tier.toJson)), ("next", (p.next?.map Upcoming.toJson).getD .null)]

/-- A preview in three lines. -/
def text (p : Preview) : String :=
  let due := if p.due = [] then "none" else String.intercalate ", " (p.due.map Tier.name)
  let next := match p.next? with
    | some upcoming => upcoming.tier.name ++ " at " ++ upcoming.dueAt.toOffsetText
    | none => "none"
  "Days left: " ++ Decimal.text p.daysLeft ++ "\nDue tiers: " ++ due ++ "\nNext tier: " ++ next ++
    "\n"

end Preview

end AuditReminder
