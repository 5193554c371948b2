/-
A database in a file.

The tables of a database are kept as one text: a first line that tells such files apart, and a JSON
object with the rows of each table.  An empty file is a database without tables.  Main
definitions: `Archive.write`, `Archive.read?` and `Archive.change`.
-/
import AuditReminder.Json.Printer
import AuditReminder.Platform
import AuditReminder.Store.Database

namespace AuditReminder.Archive

/-- The first line of a database file. -/
def heading : List Char := "audit reminder database 1\n".toList

/-! ## Writing -/

def texts (items : List String) : Json := .list (items.map .text)

def auditRow (row : AuditRow) : Json :=
  texts [row.id, row.group, row.owners, row.startsAt, row.endsAt, row.status]

def recordRow (row : RecordRow) : Json := texts [row.auditId, row.tier, row.sentAt]

/-- A table that may not exist. -/
def table (row : α → Json) : Option (List α) → Json
  | none => .null
  | some rows => .list (rows.map row)

/-- The version table, which holds at most one number. -/
def version : Option (Option Int) → Json
  | none => .null
  | some none => .list []
  | some (some n) => .list [.integer n]

def toJson (t : Tables) : Json :=
  .object
    [("audits", table auditRow t.audits), ("records", table recordRow t.records),
      ("version", version t.version), ("indexed", .bool t.indexed)]

/-- The text of a database file. -/
def write (t : Tables) : String := String.ofList (heading ++ (toJson t).compactChars)

/-! ## Reading -/

def texts? : Json → Option (List String)
  | .list items => items.mapM fun item => match item with
      | .text s => some s
      | _ => none
  | _ => none

def auditRow? (value : Json) : Option AuditRow := do
  match ← texts? value with
  | [id, group, owners, startsAt, endsAt, status] =>
      some ⟨id, group, owners, startsAt, endsAt, status⟩
  | _ => none

def recordRow? (value : Json) : Option RecordRow := do
  match ← texts? value with
  | [auditId, tier, sentAt] => some ⟨auditId, tier, sentAt⟩
  | _ => none

def table? (row? : Json → Option α) : Json → Option (Option (List α))
  | .null => some none
  | .list rows => (rows.mapM row?).map some
  | _ => none

def version? : Json → Option (Option (Option Int))
  | .null => some none
  | .list [] => some (some none)
  | .list [.integer n] => some (some (some n))
  | _ => none

def ofJson? (value : Json) : Option Tables := do
  let .bool indexed ← value.field? "indexed" | none
  return ⟨← table? auditRow? (← value.field? "audits"),
    ← table? recordRow? (← value.field? "records"),
    ← version? (← value.field? "version"), indexed⟩

/-- The tables of a text; a text of at most one character holds none. -/
def read? (text : String) : Option Tables :=
  let cs := text.toList
  if cs.length ≤ 1 then some .empty
  else if heading.isPrefixOf cs then do
    let body := String.ofList (cs.drop heading.length)
    let value ←
      (Document.Decode.source (fun _ node => Document.Decode.json Document.Decode.maxLevels node)
        body).toOption
    ofJson? value
  else none

/-! ## Files -/

/-- The fault of a file that cannot be opened. -/
def openFailed (path : String) : StoreFault :=
  .openFailed path ("unable to open database file: " ++ path)

/-- The database of a file; where there is no file, an empty one is made. -/
def load [Monad m] (platform : Platform m) (path : String) : m (Except StoreFault Database) := do
  match ← platform.readText path with
  | .ok text =>
      match read? text with
      | some tables => return .ok ⟨tables, none⟩
      | none => return .error (.queryFailed .notADatabase)
  | .error .notFound =>
      match ← platform.writeText path "" with
      | .ok () => return .ok .empty
      | .error _ => return .error (openFailed path)
  | .error _ => return .error (openFailed path)

/-- Changes the database of a file; `ofStore` makes a fault of one that the file meets. -/
def change [Monad m] (platform : Platform m) (path : String) (ofStore : StoreFault → ε)
    (f : Database → Except ε α × Database) : m (Except ε α) := do
  match ← load platform path with
  | .error fault => return .error (ofStore fault)
  | .ok db =>
      let (result, after) := f db
      if after.committed = db.committed then return result
      else
        match ← platform.writeText path (write after.committed) with
        | .ok () => return result
        | .error fault => return .error (ofStore (.queryFailed (.refused fault.message)))

end AuditReminder.Archive
