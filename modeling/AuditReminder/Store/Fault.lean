/-
Faults of a store.

A store may be out of reach, locked by another writer, or hold rows that cannot be read back.
Whatever the fault, the operation that meets it has no effect.
-/
import AuditReminder.Audit

namespace AuditReminder

/-- What a database says of a statement it cannot carry out. -/
inductive QueryFault where
  | noSuchTable (name : String)
  | noSuchIndex (name : String)
  /-- A row with these columns is there already. -/
  | notUnique (columns : String)
  | nestedTransaction
  | noTransaction
  | notADatabase
  | locked
  /-- The number of a column, counted from zero, has too many bits. -/
  | outOfRange (value : Int) (column : Nat)
  | refused (reason : String)
deriving DecidableEq

namespace QueryFault

def message : QueryFault → String
  | noSuchTable name => "no such table: " ++ name
  | noSuchIndex name => "no such index: " ++ name
  | notUnique columns => "UNIQUE constraint failed: " ++ columns
  | nestedTransaction => "cannot start a transaction within a transaction"
  | noTransaction => "cannot commit - no transaction is active"
  | notADatabase => "file is not a database"
  | locked => "database is locked"
  | outOfRange value column =>
      "Integer " ++ Decimal.text value ++ " out of range at index " ++ Decimal.text column
  | refused reason => reason

end QueryFault

/-- Why an operation of a store fails. -/
inductive StoreFault where
  | openFailed (path reason : String)
  | queryFailed (fault : QueryFault)
  | locked
  | migrationFailed (fault : QueryFault)
  | corrupt (table message : String)
  | unavailable (reason : String)
deriving DecidableEq

namespace StoreFault

def message : StoreFault → String
  | openFailed path reason => "Failed to open database at " ++ path ++ ": " ++ reason
  | queryFailed fault => "Query failed: " ++ fault.message
  | locked => "Database is locked"
  | migrationFailed fault => "Database migration failed: " ++ fault.message
  | corrupt table message => "Corrupt record in '" ++ table ++ "': " ++ message
  | unavailable reason => "Store unavailable: " ++ reason

/-- A statement that fails for a lock is told apart from one that fails otherwise. -/
def ofQuery : QueryFault → StoreFault
  | .locked => locked
  | fault => queryFailed fault

end StoreFault

/-- Why an audit is not added to a store. -/
inductive AddFault where
  | invalid (fault : AuditFault)
  | store (fault : StoreFault)
deriving DecidableEq

namespace AddFault

def message : AddFault → String
  | invalid fault => "Validation error: " ++ fault.message
  | store fault => "Store error: " ++ fault.message

end AddFault

/-- Why a claim is not recorded. -/
inductive ClaimFault where
  | alreadyRecorded (auditId : AuditId) (tier : String)
  | store (fault : StoreFault)
deriving DecidableEq

namespace ClaimFault

def message : ClaimFault → String
  | alreadyRecorded auditId tier =>
      "Tier '" ++ tier ++ "' already recorded for audit " ++ auditId
  | store fault => fault.message

end ClaimFault

end AuditReminder
