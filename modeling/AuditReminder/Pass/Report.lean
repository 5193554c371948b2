/-
Reports.

A report tells when a pass ran, how many open audits it looked at and how many it left aside as
long past, and how each due tier ended, in the order in which they were handled.
-/
import AuditReminder.Exchange.Encode

namespace AuditReminder

/-- What a finished pass tells. -/
structure Report where
  ranAt : Instant
  scanned : Nat
  expired : Nat
  outcomes : List Outcome
deriving DecidableEq

namespace Report

/-- The report of a pass that has done nothing yet. -/
def start (ranAt : Instant) : Report := ⟨ranAt, 0, 0, []⟩

def sent (r : Report) : Nat := r.outcomes.countP fun o => o.status.isSent

def skipped (r : Report) : Nat := r.outcomes.countP fun o => o.status.isSkipped

def failed (r : Report) : Nat := r.outcomes.countP fun o => o.status.isFailed

def toJson (r : Report) : Json :=
  .object [("ran_at", r.ranAt.toJson), ("audits_scanned", .integer r.scanned),
    ("audits_expired", .integer r.expired), ("outcomes", .list (r.outcomes.map Outcome.toJson))]

end Report

end AuditReminder
