/-
Tables and statements.

The database holds a table of audits, one row for each id, and a table of dispatch records, one
row for each pair of an audit and a tier; a third table holds the version of the schema.  Another
program may have dropped any of them.  A statement gives its answer and the tables after it, or
a fault, and then the tables are as before.
-/
import AuditReminder.Number.Bounds
import AuditReminder.Store.Rows

namespace AuditReminder

/-- The tables of a database; a table that does not exist is none. -/
structure Tables where
  audits : Option (List AuditRow)
  records : Option (List RecordRow)
  /-- The version that the schema table holds, if it holds one. -/
  version : Option (Option Int)
  /-- Whether the index of audits exists. -/
  indexed : Bool
deriving DecidableEq

/-- Changes tables and answers, or fails. -/
abbrev Statement (α : Type) := Tables → Except QueryFault (α × Tables)

namespace Tables

/-- A database without tables. -/
def empty : Tables := ⟨none, none, none, false⟩

/-- The rows of the table of audits. -/
def auditRows (t : Tables) : Except QueryFault (List AuditRow) :=
  match t.audits with
  | some rows => .ok rows
  | none => .error (.noSuchTable auditsTable)

/-- The rows of the table of records. -/
def recordRows (t : Tables) : Except QueryFault (List RecordRow) :=
  match t.records with
  | some rows => .ok rows
  | none => .error (.noSuchTable recordsTable)

/-! ## Audits -/

/-- Inserts the row of an audit. -/
def insertAudit (row : AuditRow) : Statement Unit := fun t => do
  let rows ← t.auditRows
  if rows.any (·.id == row.id) then .error (.notUnique (auditsTable ++ ".id"))
  else return ((), { t with audits := some (rows ++ [row]) })

/-- Sets the status of an audit to closed; counts the rows changed. -/
def closeAudit (id : AuditId) : Statement Nat := fun t => do
  let rows ← t.auditRows
  let closed := rows.map fun row =>
    if row.id == id then { row with status := AuditStatus.closed.text } else row
  return ((rows.filter (·.id == id)).length, { t with audits := some closed })

/-! ## Records -/

/-- Inserts the record of a pair unless there is one; tells whether it was inserted. -/
def insertRecord (row : RecordRow) : Statement Bool := fun t => do
  let rows ← t.recordRows
  if rows.any fun r => r.auditId == row.auditId && r.tier == row.tier then return (false, t)
  else return (true, { t with records := some (rows ++ [row]) })

/-- Inserts the record of a pair, of which there must be none. -/
def insertNewRecord (row : RecordRow) : Statement Unit := fun t => do
  let (inserted, t) ← insertRecord row t
  if inserted then return ((), t)
  else .error (.notUnique (recordsTable ++ ".audit_id, " ++ recordsTable ++ ".tier"))

/-- Deletes the record of a pair. -/
def deleteRecord (id : AuditId) (tier : String) : Statement Unit := fun t => do
  let rows ← t.recordRows
  let kept := rows.filter fun r => !(r.auditId == id && r.tier == tier)
  return ((), { t with records := some kept })

/-- Deletes the records of an audit; counts them. -/
def deleteRecords (id : AuditId) : Statement Nat := fun t => do
  let rows ← t.recordRows
  return ((rows.filter (·.auditId == id)).length,
    { t with records := some (rows.filter (·.auditId != id)) })

/-! ## Schema -/

/-- The version of the schema; a table without a version counts as zero. -/
def schemaVersion (t : Tables) : Except QueryFault Int :=
  match t.version with
  | some version => .ok (version.getD 0)
  | none => .error (.noSuchTable versionTable)

/-- The version that a migration starts from; it has 32 bits. -/
def migratedVersion (t : Tables) : Except QueryFault Int := do
  let version ← t.schemaVersion
  if isInt32 version then return version else .error (.outOfRange version 0)

/-- Stores a version. -/
def setVersion (n : Int) : Statement Unit := fun t =>
  match t.version with
  | some _ => .ok ((), { t with version := some (some n) })
  | none => .error (.noSuchTable versionTable)

/-- Drops the table of audits, and its index with it. -/
def dropAudits : Statement Unit := fun t => do
  let _ ← t.auditRows
  return ((), { t with audits := none, indexed := false })

def dropRecords : Statement Unit := fun t => do
  let _ ← t.recordRows
  return ((), { t with records := none })

def dropVersion : Statement Unit := fun t =>
  match t.version with
  | some _ => .ok ((), { t with version := none })
  | none => .error (.noSuchTable versionTable)

def dropIndex : Statement Unit := fun t =>
  if t.indexed then .ok ((), { t with indexed := false })
  else .error (.noSuchIndex auditsIndex)

/-! ## Migration -/

/-- The version that the program works with. -/
def currentVersion : Int := 2

/-- Creates the table of the schema version unless it exists. -/
def createVersionTable : Statement Unit := fun t =>
  .ok ((), { t with version := some (t.version.getD none) })

/-- The first version: both tables exist. -/
def toFirstVersion : Statement Unit := fun t =>
  setVersion 1 { t with audits := some (t.audits.getD []), records := some (t.records.getD []) }

/-- The second version: the index of audits exists. -/
def toSecondVersion : Statement Unit := fun t =>
  if t.indexed ∨ t.audits.isSome then setVersion 2 { t with indexed := true }
  else .error (.noSuchTable ("main." ++ auditsTable))

/-! ## Queries -/

/-- Decodes rows in turn; the first that cannot be read is the fault. -/
def decodeRows (decode : α → Except StoreFault β) : List α → Except StoreFault (List β)
  | [] => .ok []
  | row :: rest => do
      let value ← decode row
      let values ← decodeRows decode rest
      return value :: values

/-- The rows that pass a test, in an order, decoded. -/
def select (rows : Except QueryFault (List α)) (passes : α → Bool) (before : α → α → Bool)
    (decode : α → Except StoreFault β) : Except StoreFault (List β) :=
  match rows with
  | .error fault => .error (.ofQuery fault)
  | .ok rows => decodeRows decode ((rows.filter passes).mergeSort before)

/-- All audits, the soonest deadline first. -/
def listAudits (t : Tables) : Except StoreFault (List Audit) :=
  select t.auditRows (fun _ => true) AuditRow.listedBefore AuditRow.decode

/-- The open audits, the soonest deadline first. -/
def listOpen (t : Tables) : Except StoreFault (List Audit) :=
  select t.auditRows (fun row => row.status == AuditStatus.open.text) AuditRow.listedBefore
    AuditRow.decode

/-- The audit of an id. -/
def getAudit (t : Tables) (id : AuditId) : Except StoreFault (Option Audit) :=
  match t.auditRows with
  | .error fault => .error (.ofQuery fault)
  | .ok rows =>
      match rows.find? (·.id == id) with
      | none => .ok none
      | some row => row.decode.map some

/-- The tiers recorded for an audit. -/
def sentTiers (t : Tables) (id : AuditId) : Except StoreFault NameSet :=
  match t.recordRows with
  | .error fault => .error (.ofQuery fault)
  | .ok rows => .ok (.ofList ((rows.filter (·.auditId == id)).map (·.tier)))

/-- The records of an audit, the earliest first. -/
def recordsOf (t : Tables) (id : AuditId) : Except StoreFault (List Record) :=
  select t.recordRows (·.auditId == id) RecordRow.listedBefore RecordRow.decode

end Tables

end AuditReminder
