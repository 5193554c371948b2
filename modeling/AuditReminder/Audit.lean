/-
Audits.

An audit is a bounded window during which the owners of a group review its members.  It is open
until it is closed.  `Audit.fault?` gives the first thing wrong with an audit; what is stored
has none.
-/
import AuditReminder.NameSet
import AuditReminder.Text.Blank
import AuditReminder.Time.Text

namespace AuditReminder

/-- The name under which an audit is kept; any text that is not blank. -/
abbrev AuditId := String

inductive AuditStatus where
  | open
  | closed
deriving DecidableEq

namespace AuditStatus

def text : AuditStatus → String
  | .open => "OPEN"
  | .closed => "CLOSED"

def all : List AuditStatus := [.open, .closed]

/-- The status that a text spells, letter for letter. -/
def ofText? (s : String) : Option AuditStatus := all.find? fun status => status.text == s

end AuditStatus

/-- A window of time in which the owners of a group are to review it. -/
structure Audit where
  id : AuditId
  group : String
  owners : NameSet
  startsAt : Instant
  endsAt : Instant
  status : AuditStatus
deriving DecidableEq

/-- Why an audit is refused. -/
inductive AuditFault where
  | blankId
  | blankGroup
  | noOwners
  | blankOwner
  | endsTooSoon (startsAt endsAt : Instant)
deriving DecidableEq

namespace AuditFault

def message : AuditFault → String
  | blankId => "Invalid value for 'id': audit id must not be blank"
  | blankGroup => "Invalid value for 'group': group name must not be blank"
  | noOwners => "Empty collection: owners"
  | blankOwner => "Invalid value for 'owners': owner address must not be blank"
  | endsTooSoon startsAt endsAt =>
      "Invalid time range: ends_at (" ++ endsAt.toDisplayText ++
        ") must be greater than starts_at (" ++ startsAt.toDisplayText ++ ")"

end AuditFault

namespace Audit

def isOpen (audit : Audit) : Bool := audit.status == .open

/-- The first thing wrong with an audit: its id, its group, its owners, its window. -/
def fault? (audit : Audit) : Option AuditFault :=
  if Text.allBlank audit.id then some .blankId
  else if Text.allBlank audit.group then some .blankGroup
  else if audit.owners.isEmpty then some .noOwners
  else if audit.owners.toList.any Text.allBlank then some .blankOwner
  else if audit.endsAt ≤ audit.startsAt then some (.endsTooSoon audit.startsAt audit.endsAt)
  else none

/-- An open audit under a fresh id, if nothing is wrong with it. -/
def opened (id : AuditId) (group : String) (owners : List String) (startsAt endsAt : Instant) :
    Except AuditFault Audit :=
  let audit : Audit := ⟨id, group, .ofList owners, startsAt, endsAt, .open⟩
  match audit.fault? with
  | some fault => .error fault
  | none => .ok audit

/-- The same audit under another id. -/
def withId (audit : Audit) (id : AuditId) : Audit := { audit with id := id }

/-- The same audit, closed. -/
def close (audit : Audit) : Audit := { audit with status := .closed }

/-- Audits are listed by deadline, and by id where deadlines agree. -/
def listedBefore (a b : Audit) : Bool :=
  a.endsAt < b.endsAt || (a.endsAt = b.endsAt && a.id ≤ b.id)

end Audit

end AuditReminder
