/-
Rows of the database.

The database keeps texts.  Owners are a JSON list, instants have exactly three digits of fraction
so that their texts sort as they do, and a status is its word.  A row written by another program
may not be readable; `AuditRow.decode` then says which of its texts is at fault.
-/
import AuditReminder.Exchange.Decode
import AuditReminder.Exchange.Encode
import AuditReminder.Store.Fault

namespace AuditReminder

/-- A row of the table of audits. -/
structure AuditRow where
  id : String
  group : String
  owners : String
  startsAt : String
  endsAt : String
  status : String
deriving DecidableEq

/-- A row of the table of dispatch records. -/
structure RecordRow where
  auditId : String
  tier : String
  sentAt : String
deriving DecidableEq

/-- The table of audits. -/
def auditsTable : String := "audits"

/-- The table of dispatch records. -/
def recordsTable : String := "dispatch_records"

/-- The table of the schema version. -/
def versionTable : String := "schema_version"

/-- The index of audits by status and deadline. -/
def auditsIndex : String := "idx_audits_status_ends_at"

/-- An instant read from a column. -/
def decodeInstant (table raw : String) : Except StoreFault Instant :=
  match Time.readStrict raw.toList with
  | .ok t => .ok t
  | .error fault =>
      .error (.corrupt table ("bad timestamp '" ++ raw ++ "': " ++ fault.message))

namespace AuditRow

/-- The row of an audit. -/
def ofAudit (audit : Audit) : AuditRow :=
  ⟨audit.id, audit.group, audit.owners.toJson.compact, audit.startsAt.toStoredText,
    audit.endsAt.toStoredText, audit.status.text⟩

/-- The owners of a row. -/
def decodeOwners (raw : String) : Except StoreFault NameSet :=
  match Document.Decode.source Exchange.nameSet raw with
  | .ok owners => .ok owners
  | .error fault => .error (.corrupt auditsTable ("bad owners '" ++ raw ++ "': " ++ fault.message))

/-- The audit of a row: its status is read first, then its owners and its window. -/
def decode (row : AuditRow) : Except StoreFault Audit := do
  let some status := AuditStatus.ofText? row.status
    | .error (.corrupt auditsTable ("bad status '" ++ row.status ++ "'"))
  let owners ← decodeOwners row.owners
  let startsAt ← decodeInstant auditsTable row.startsAt
  let endsAt ← decodeInstant auditsTable row.endsAt
  return ⟨row.id, row.group, owners, startsAt, endsAt, status⟩

/-- Rows are listed by the text of their deadline, then by id. -/
def listedBefore (a b : AuditRow) : Bool :=
  a.endsAt < b.endsAt || (a.endsAt == b.endsAt && a.id ≤ b.id)

end AuditRow

namespace RecordRow

/-- The row of a claim. -/
def ofClaim (id : AuditId) (tier : String) (now : Instant) : RecordRow :=
  ⟨id, tier, now.toStoredText⟩

/-- The record of a row. -/
def decode (row : RecordRow) : Except StoreFault Record := do
  let sentAt ← decodeInstant recordsTable row.sentAt
  return ⟨row.auditId, row.tier, sentAt⟩

/-- Rows are listed by the text of their instant, then by tier. -/
def listedBefore (a b : RecordRow) : Bool :=
  a.sentAt < b.sentAt || (a.sentAt == b.sentAt && a.tier ≤ b.tier)

end RecordRow

end AuditReminder
