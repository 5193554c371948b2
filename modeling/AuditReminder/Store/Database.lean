/-
Connections to a database.

Several connections read and write the same tables.  One of them may hold the write lock: until it
commits, its changes are seen by itself only and the others cannot write.  A statement names the
table it misses before it asks for the lock.  Main definitions: `Database`, `Database.write`,
`Database.transact`, the operations on audits and records, and `Database.migrate`.
-/
import AuditReminder.Store.Backend
import AuditReminder.Store.Tables

namespace AuditReminder

/-- The number of a connection. -/
abbrev Connection := Nat

/-- The committed tables, and the tables of the connection that holds the write lock. -/
structure Database where
  committed : Tables
  pending : Option (Connection × Tables)
deriving DecidableEq

namespace QueryFault

/-- Faults that a statement meets before it runs. -/
def isOfSchema : QueryFault → Bool
  | noSuchTable _ => true
  | noSuchIndex _ => true
  | _ => false

end QueryFault

namespace Database

/-- A database without tables. -/
def empty : Database := ⟨.empty, none⟩

/-- The tables that a connection sees. -/
def view (db : Database) (c : Connection) : Tables :=
  match db.pending with
  | some (holder, tables) => if holder = c then tables else db.committed
  | none => db.committed

/-- Whether a connection holds the write lock. -/
def holdsLock (db : Database) (c : Connection) : Bool :=
  match db.pending with
  | some (holder, _) => holder == c
  | none => false

/-- Whether another connection holds the write lock. -/
def isLockedFor (db : Database) (c : Connection) : Bool :=
  match db.pending with
  | some (holder, _) => holder != c
  | none => false

/-- The database after a connection changed the tables it sees. -/
def put (db : Database) (c : Connection) (tables : Tables) : Database :=
  if db.holdsLock c then { db with pending := some (c, tables) }
  else { db with committed := tables }

/-- Runs a statement that writes. -/
def write (db : Database) (c : Connection) (statement : Statement α) :
    Except QueryFault α × Database :=
  match statement (db.view c) with
  | .ok (answer, tables) =>
      if db.isLockedFor c then (.error .locked, db) else (.ok answer, db.put c tables)
  | .error fault =>
      if !fault.isOfSchema && db.isLockedFor c then (.error .locked, db) else (.error fault, db)

/-- Takes the write lock. -/
def lock (db : Database) (c : Connection) : Except QueryFault Unit × Database :=
  if db.holdsLock c then (.error .nestedTransaction, db)
  else if db.isLockedFor c then (.error .locked, db)
  else (.ok (), { db with pending := some (c, db.committed) })

/-- Commits the changes of a connection and gives the write lock back. -/
def commit (db : Database) (c : Connection) : Except QueryFault Unit × Database :=
  match db.pending with
  | some (holder, tables) =>
      if holder = c then (.ok (), ⟨tables, none⟩) else (.error .noTransaction, db)
  | none => (.error .noTransaction, db)

/-- Drops what was not committed, as when all connections are cut. -/
def recover (db : Database) : Database := { db with pending := none }

/-- Drops what a connection has not committed and gives the write lock back. -/
def rollBack (db : Database) (c : Connection) : Database :=
  if db.holdsLock c then { db with pending := none } else db

/-- Runs a statement that writes, in a transaction that the connection has begun.  The first such
statement takes the write lock, also if it then fails for what the rows are. -/
def writeInTransaction (db : Database) (c : Connection) (statement : Statement α) :
    Except QueryFault α × Database :=
  match db.pending with
  | some _ => db.write c statement
  | none =>
      match statement db.committed with
      | .ok (answer, tables) => (.ok answer, { db with pending := some (c, tables) })
      | .error fault =>
          (.error fault,
            if fault.isOfSchema then db else { db with pending := some (c, db.committed) })

/-- Runs two statements that write as one transaction, which is rolled back if either fails. -/
def transact (db : Database) (c : Connection) (first : Statement α) (second : Statement β) :
    Except QueryFault (α × β) × Database :=
  if db.holdsLock c then (.error .nestedTransaction, db)
  else
    match db.writeInTransaction c first with
    | (.error fault, db) => (.error fault, db.rollBack c)
    | (.ok a, db) =>
        match db.writeInTransaction c second with
        | (.error fault, db) => (.error fault, db.rollBack c)
        | (.ok b, db) =>
            match db.commit c with
            | (.error fault, db) => (.error fault, db.rollBack c)
            | (.ok (), db) => (.ok (a, b), db)

/-- The fault of a statement as a fault of the store. -/
def asStore (result : Except QueryFault α × Database) : Except StoreFault α × Database :=
  (result.1.mapError StoreFault.ofQuery, result.2)

/-! ## Operations -/

/-- Adds an audit that is valid and whose id is free. -/
def addAudit (db : Database) (c : Connection) (audit : Audit) : Except AddFault Unit × Database :=
  match audit.fault? with
  | some fault => (.error (.invalid fault), db)
  | none =>
      let (result, db) := asStore (db.write c (Tables.insertAudit (.ofAudit audit)))
      (result.mapError .store, db)

/-- Closes an audit and removes its records; gives the numbers of audits and records changed. -/
def closeAudit (db : Database) (c : Connection) (id : AuditId) :
    Except StoreFault (Nat × Nat) × Database :=
  asStore (db.transact c (Tables.closeAudit id) (Tables.deleteRecords id))

/-- Claims a pair; tells whether it was free. -/
def claim (db : Database) (c : Connection) (id : AuditId) (tier : String) (now : Instant) :
    Except StoreFault Bool × Database :=
  asStore (db.write c (Tables.insertRecord (.ofClaim id tier now)))

/-- Removes the record of a pair. -/
def release (db : Database) (c : Connection) (id : AuditId) (tier : String) :
    Except StoreFault Unit × Database :=
  asStore (db.write c (Tables.deleteRecord id tier))

/-- The database as a pass on a connection sees it. -/
def backend (c : Connection) : Backend Database where
  listOpen db := (db.view c).listOpen
  sentTiers db id := (db.view c).sentTiers id
  claim db id tier now := db.claim c id tier now
  release db id tier := db.release c id tier

/-! ## Migration -/

/-- Runs a statement that may find nothing to change, in which case no lock is needed. -/
def writeIfNeeded (db : Database) (c : Connection) (statement : Statement Unit) :
    Except QueryFault Unit × Database :=
  match statement (db.view c) with
  | .ok ((), tables) => if tables = db.view c then (.ok (), db) else db.write c statement
  | .error _ => db.write c statement

/-- Brings the version that was read up to the second, one version at a time. -/
def migrateFrom (version : Int) (db : Database) (c : Connection) :
    Except QueryFault Unit × Database :=
  let first := if version < 1 then db.write c Tables.toFirstVersion else (.ok (), db)
  match first with
  | (.error fault, db) => (.error fault, db)
  | (.ok (), db) =>
      if version < 2 then db.write c Tables.toSecondVersion else (.ok (), db)

/-- Brings the schema up to the current version; a later version is left alone.  Gives the version
that was found. -/
def migrate (db : Database) (c : Connection) : Except StoreFault Int × Database :=
  let failed : QueryFault → Except StoreFault Int := fun fault => .error (.migrationFailed fault)
  match db.writeIfNeeded c Tables.createVersionTable with
  | (.error fault, db) => (failed fault, db)
  | (.ok (), db) =>
      match (db.view c).migratedVersion with
      | .error fault => (failed fault, db)
      | .ok version =>
          if Tables.currentVersion ≤ version then (.ok version, db)
          else
            match db.migrateFrom version c with
            | (.error fault, db) => (failed fault, db)
            | (.ok (), db) => (.ok version, db)

/-- A database in memory, migrated. -/
def fresh : Database := (empty.migrate 0).2

end Database

end AuditReminder
