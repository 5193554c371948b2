/-
Tiers and schedules.

A tier is a named threshold in whole days before a deadline; it is reached once so few days are
left.  A schedule holds tiers whose names and thresholds tell them apart, the largest threshold
first: the order in which their reminders fall due.  Main definitions: `Tier`, `Schedule` and
`Schedule.ofTiers`, which says what is wrong with the first offending tier.
-/
import AuditReminder.Text.Blank
import AuditReminder.Text.Decimal

namespace AuditReminder

/-- Which of the two notices a tier is announced with. -/
inductive Kind where
  | standard
  | reminder
deriving DecidableEq

namespace Kind

def text : Kind → String
  | standard => "standard"
  | reminder => "reminder"

def all : List Kind := [standard, reminder]

end Kind

/-- A named threshold in days before a deadline; below zero it lies after the deadline. -/
structure Tier where
  name : String
  offsetDays : Int
  kind : Kind
deriving DecidableEq

/-- The largest threshold either side of a deadline, and the longest horizon, in days. -/
def maxOffsetDays : Int := 36_500

namespace Tier

/-- A tier is reached once no more days are left than its threshold. -/
def isReached (tier : Tier) (daysLeft : Int) : Bool := daysLeft ≤ tier.offsetDays

end Tier

/-- Why a list of tiers is no schedule. -/
inductive ScheduleFault where
  | noTiers
  | blankName
  | repeatedName (name : String)
  | offsetOutside (name : String) (offsetDays : Int)
  | repeatedOffset (offsetDays : Int)
deriving DecidableEq

namespace ScheduleFault

def message : ScheduleFault → String
  | noTiers => "Empty collection: tiers"
  | blankName => "Invalid value for 'tiers.name': tier name must not be blank"
  | repeatedName name => "Duplicate tier name: " ++ name
  | offsetOutside name offsetDays =>
      "Invalid value for 'tiers.offset_days': tier '" ++ name ++ "' offset " ++
        Decimal.text offsetDays ++ " is outside ±" ++ Decimal.text maxOffsetDays ++ " days"
  | repeatedOffset offsetDays => "Duplicate tier offset: " ++ Decimal.text offsetDays

end ScheduleFault

/-- What keeps a tier out of a schedule that holds the tiers before it. -/
def Tier.fault? (before : List Tier) (tier : Tier) : Option ScheduleFault :=
  if Text.allBlank tier.name then some .blankName
  else if before.any (·.name == tier.name) then some (.repeatedName tier.name)
  else if tier.offsetDays < -maxOffsetDays ∨ maxOffsetDays < tier.offsetDays then
    some (.offsetOutside tier.name tier.offsetDays)
  else if before.any (·.offsetDays == tier.offsetDays) then
    some (.repeatedOffset tier.offsetDays)
  else none

/-- The fault of the first tier at fault, each judged by the tiers before it. -/
def firstFault? (before : List Tier) : List Tier → Option ScheduleFault
  | [] => none
  | tier :: rest =>
      match tier.fault? before with
      | some fault => some fault
      | none => firstFault? (tier :: before) rest

/-- Puts a tier before the first one with a smaller threshold. -/
def placeTier (tier : Tier) : List Tier → List Tier
  | [] => [tier]
  | head :: rest =>
      if head.offsetDays < tier.offsetDays then tier :: head :: rest
      else head :: placeTier tier rest

/-- Tiers with the largest threshold first. -/
def sortTiers : List Tier → List Tier
  | [] => []
  | tier :: rest => placeTier tier (sortTiers rest)

/-- Tiers in the order in which they fall due. -/
structure Schedule where
  tiers : List Tier
deriving DecidableEq

namespace Schedule

/-- The schedule of a list of tiers in any order. -/
def ofTiers (tiers : List Tier) : Except ScheduleFault Schedule :=
  if tiers = [] then .error .noTiers
  else match firstFault? [] tiers with
    | some fault => .error fault
    | none => .ok ⟨sortTiers tiers⟩

/-- Two weeks before the deadline, three days before it, and from the deadline on. -/
def defaultTiers : List Tier :=
  [⟨"14d", 14, .standard⟩, ⟨"3d", 3, .reminder⟩, ⟨"overdue", 0, .reminder⟩]

/-- The schedule of those three tiers. -/
def default : Schedule := ⟨defaultTiers⟩

end Schedule

end AuditReminder
