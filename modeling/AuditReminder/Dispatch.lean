/-
Dispatches.

A dispatch carries one reminder: for one audit and one tier.  `Request` is what a renderer and a
sender need for it, `State` is where the pair stands, `Status` is how handling it ended, and
`Outcome` names the pair with its status.  A status leaves the pair in one state, and a pair
moves between states only along `State.canMoveTo`.
-/
import AuditReminder.Audit
import AuditReminder.Tier

namespace AuditReminder

/-- One reminder to render and send. -/
structure Request where
  auditId : AuditId
  group : String
  owners : NameSet
  endsAt : Instant
  daysLeft : Int
  tier : String
  kind : Kind
deriving DecidableEq

namespace Request

/-- The reminder of a tier for an audit with so many days left. -/
def of (audit : Audit) (tier : Tier) (daysLeft : Int) : Request :=
  ⟨audit.id, audit.group, audit.owners, audit.endsAt, daysLeft, tier.name, tier.kind⟩

end Request

/-- Where a pair of an audit and a tier stands. -/
inductive State where
  | pending
  | due
  | dispatching
  | sent
  | failed
deriving DecidableEq

namespace State

def text : State → String
  | pending => "PENDING"
  | due => "DUE"
  | dispatching => "DISPATCHING"
  | sent => "SENT"
  | failed => "FAILED"

def all : List State := [pending, due, dispatching, sent, failed]

/-- A pair falls due, is dispatched, and ends sent or failed; what failed falls due again. -/
def canMoveTo : State → State → Bool
  | pending, due => true
  | due, dispatching => true
  | dispatching, sent => true
  | dispatching, failed => true
  | failed, due => true
  | _, _ => false

end State

/-- How the handling of a due tier ended. -/
inductive Status where
  | sent
  /-- The pair had been claimed before. -/
  | skippedDuplicate
  /-- Rendering or delivery failed and the claim was released. -/
  | failedRolledBack (reason : String)
  /-- Rendering or delivery failed and the claim could not be released. -/
  | failedClaimRetained (reason : String)
deriving DecidableEq

namespace Status

def label : Status → String
  | sent => "SENT"
  | skippedDuplicate => "SKIPPED_DUPLICATE"
  | failedRolledBack _ => "FAILED_ROLLED_BACK"
  | failedClaimRetained _ => "FAILED_CLAIM_RETAINED"

/-- The state a pair is left in; a lost claim counts as sent, as whoever holds it sends. -/
def state : Status → State
  | sent => .sent
  | skippedDuplicate => .sent
  | failedRolledBack _ => .due
  | failedClaimRetained _ => .failed

def isSent : Status → Bool
  | sent => true
  | _ => false

def isSkipped : Status → Bool
  | skippedDuplicate => true
  | _ => false

def isFailed : Status → Bool
  | failedRolledBack _ => true
  | failedClaimRetained _ => true
  | _ => false

end Status

/-- The status of one pair in a pass. -/
structure Outcome where
  auditId : AuditId
  tier : String
  status : Status
deriving DecidableEq

/-- A pair claimed for dispatch, and when. -/
structure Record where
  auditId : AuditId
  tier : String
  sentAt : Instant
deriving DecidableEq

namespace Record

/-- Records of an audit are listed by the instant of their claim, then by tier. -/
def listedBefore (a b : Record) : Bool :=
  a.sentAt < b.sentAt || (a.sentAt = b.sentAt && a.tier ≤ b.tier)

end Record

end AuditReminder
