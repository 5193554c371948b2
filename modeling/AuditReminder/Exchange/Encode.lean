/-
Values given to other programs.

Audits, tiers, requests, records and outcomes are exchanged as JSON objects whose fields stand in
a fixed order.  The status of an outcome is laid out among the fields of the outcome itself: its
word under `status`, and a reason where there is one.
-/
import AuditReminder.Json.Printer
import AuditReminder.Notice
import AuditReminder.Policy

namespace AuditReminder

namespace NameSet

def toJson (s : NameSet) : Json := .list (s.toList.map .text)

end NameSet

namespace Instant

def toJson (t : Instant) : Json := .text t.toText

end Instant

namespace Kind

def toJson (kind : Kind) : Json := .text kind.text

end Kind

namespace Tier

def toJson (tier : Tier) : Json :=
  .object [("name", .text tier.name), ("offset_days", .integer tier.offsetDays),
    ("kind", tier.kind.toJson)]

end Tier

namespace Upcoming

def toJson (upcoming : Upcoming) : Json :=
  .object [("tier", upcoming.tier.toJson), ("due_at", upcoming.dueAt.toJson)]

end Upcoming

namespace AuditStatus

def toJson (status : AuditStatus) : Json := .text status.text

end AuditStatus

namespace Audit

def toJson (audit : Audit) : Json :=
  .object [("id", .text audit.id), ("group", .text audit.group), ("owners", audit.owners.toJson),
    ("starts_at", audit.startsAt.toJson), ("ends_at", audit.endsAt.toJson),
    ("status", audit.status.toJson)]

end Audit

namespace Request

def toJson (request : Request) : Json :=
  .object [("audit_id", .text request.auditId), ("group", .text request.group),
    ("owners", request.owners.toJson), ("ends_at", request.endsAt.toJson),
    ("days_left", .integer request.daysLeft), ("tier", .text request.tier),
    ("kind", request.kind.toJson)]

end Request

namespace State

def toJson (state : State) : Json := .text state.text

end State

namespace Status

/-- The word of a status, and its reason where it has one. -/
def fields : Status → List (String × Json)
  | sent => [("status", .text "sent")]
  | skippedDuplicate => [("status", .text "skipped_duplicate")]
  | failedRolledBack reason =>
      [("status", .text "failed_rolled_back"), ("reason", .text reason)]
  | failedClaimRetained reason =>
      [("status", .text "failed_claim_retained"), ("reason", .text reason)]

def toJson (status : Status) : Json := .object status.fields

end Status

namespace Outcome

def toJson (outcome : Outcome) : Json :=
  .object ([("audit_id", .text outcome.auditId), ("tier", .text outcome.tier)] ++
    outcome.status.fields)

end Outcome

namespace Record

def toJson (record : Record) : Json :=
  .object [("audit_id", .text record.auditId), ("tier", .text record.tier),
    ("sent_at", record.sentAt.toJson)]

end Record

namespace TemplatePair

def toJson (pair : TemplatePair) : Json :=
  .object [("subject", .text pair.subject), ("body", .text pair.body)]

end TemplatePair

namespace Notice

def toJson (notice : Notice) : Json :=
  .object [("subject", .text notice.subject), ("body", .text notice.body)]

end Notice

end AuditReminder
