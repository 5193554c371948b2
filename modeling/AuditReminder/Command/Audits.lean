/-
Commands on audits.

Audits are added, listed, shown and closed in the database that the configuration names, and the
tiers sent for one are listed.
-/
import AuditReminder.Command.Session
import AuditReminder.Text.Column
import AuditReminder.Time.DatePattern

namespace AuditReminder.Session

variable {m : Type → Type} [Monad m]

/-- The pattern in which deadlines are listed. -/
def deadlinePattern : String := "%Y-%m-%d %H:%M"

/-- The line of an audit in a list. -/
def auditLine (audit : Audit) : String :=
  let deadline := match (DatePattern.read? deadlinePattern.toList).bind
      (DatePattern.print? · audit.endsAt) with
    | some cs => String.ofList cs
    | none => ""
  audit.id ++ "  " ++ Text.column 6 audit.status.text ++ "  " ++ deadline ++ "  " ++ audit.group ++
    "  " ++ String.intercalate "," audit.owners.toList ++ "\n"

/-- Adds an audit, under a fresh id if none is given. -/
def addAudit (s : Session m) (id : Option String) (group : String) (owners : List String)
    (startsAt endsAt : String) : Action m Unit := do
  let path ← s.openStore (← s.loadConfig)
  let startsAt ← readTime startsAt
  let endsAt ← readTime endsAt
  let fresh ← s.platform.freshId
  let opened ← orText AuditFault.message (Audit.opened fresh group owners startsAt endsAt)
  let audit := match id with
    | some id => opened.withId id
    | none => opened
  attempt AddFault.message
    (Archive.change s.platform path AddFault.store fun db => db.addAudit 0 audit)
  s.log (Journal.auditInserted audit)
  s.print ("Audit created: " ++ audit.id ++ "\n")
  s.print (audit.toJson.pretty ++ "\n")

/-- Lists all audits, the soonest deadline first. -/
def listAudits (s : Session m) (asJson : Bool) : Action m Unit := do
  let path ← s.openStore (← s.loadConfig)
  let audits ← s.askStore path Tables.listAudits
  if asJson then s.print ((Json.list (audits.map Audit.toJson)).pretty ++ "\n")
  else if audits = [] then s.print "No audits found.\n"
  else s.print (String.join (audits.map auditLine))

/-- What is said of an id that no audit has. -/
def auditNotFound (id : AuditId) : String := "audit not found: " ++ id

/-- Shows an audit with its records. -/
def showAudit (s : Session m) (id : AuditId) : Action m Unit := do
  let path ← s.openStore (← s.loadConfig)
  match ← s.askStore path fun t => t.getAudit id with
  | none => throw (auditNotFound id)
  | some audit => do
      let records ← s.askStore path fun t => t.recordsOf id
      let shown := Json.object
        [("audit", audit.toJson), ("dispatches", .list (records.map Record.toJson))]
      s.print (shown.sortKeys.pretty ++ "\n")

/-- Closes an audit. -/
def closeAudit (s : Session m) (id : AuditId) : Action m Unit := do
  let path ← s.openStore (← s.loadConfig)
  let (closed, purged) ←
    attempt StoreFault.message (s.onStore path fun db => db.closeAudit 0 id)
  if closed = 0 then throw (auditNotFound id)
  s.log (Journal.auditClosed id purged)
  s.print ("Audit closed: " ++ id ++ "\n")

/-- The line of a record in a list. -/
def recordLine (record : Record) : String :=
  Text.column 10 record.tier ++ " " ++ record.sentAt.toOffsetText ++ "\n"

/-- Lists the tiers sent for an audit. -/
def listSent (s : Session m) (id : AuditId) (asJson : Bool) : Action m Unit := do
  let path ← s.openStore (← s.loadConfig)
  let records ← s.askStore path fun t => t.recordsOf id
  if asJson then s.print ((Json.list (records.map Record.toJson)).pretty ++ "\n")
  else if records = [] then s.print "No reminders sent.\n"
  else s.print (String.join (records.map recordLine))

end AuditReminder.Session
