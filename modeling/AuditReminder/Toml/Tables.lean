/-
How a document of TOML is put together.

Fields, headers and dotted keys come one after the other and each has its place in a tree.  A
table has one origin: it is named by a header, made for a dotted key, or implied because a table
within it has a header.  An implied table may still get its own header, and a table made for
dotted keys may get more of them; nothing else is said twice.  Main definitions: `Part`,
`insertDotted`, `openTable` and `openElement`.
-/
import AuditReminder.Toml.Value

namespace AuditReminder.Toml

/-- How a table came to be. -/
inductive Origin where
  | header
  | dotted
  | implied
deriving DecidableEq

/-- What a key stands for while a document is read. -/
inductive Part where
  | value (value : Toml)
  | table (origin : Origin) (parts : List (String × Part))
  /-- A list of tables with headers: those that are finished, and the last one. -/
  | tables (before : List (List (String × Part))) (last : List (String × Part))

/-- Parts by their keys. -/
abbrev Parts := List (String × Part)

namespace Parts

/-- What a key stands for. -/
def find? (key : String) : Parts → Option Part
  | [] => none
  | entry :: rest => if entry.1 = key then some entry.2 else find? key rest

/-- Puts a part in the place of the one under its key, or at the end. -/
def put (key : String) (part : Part) : Parts → Parts
  | [] => [(key, part)]
  | entry :: rest => if entry.1 = key then (key, part) :: rest else entry :: put key part rest

/-- Changes the parts at the end of a path of tables; a table that is not there yet is implied. -/
def within (change : Parts → Option Parts) : List String → Parts → Option Parts
  | [], parts => change parts
  | key :: path, parts =>
      match parts.find? key with
      | none => (within change path []).map fun inner => parts.put key (.table .implied inner)
      | some (.table origin inner) =>
          (within change path inner).map fun inner => parts.put key (.table origin inner)
      | some (.tables before last) =>
          (within change path last).map fun last => parts.put key (.tables before last)
      | some (.value _) => none

/-- Adds a value under a key that is free. -/
def insert (key : String) (value : Toml) (parts : Parts) : Option Parts :=
  match parts.find? key with
  | none => some (parts ++ [(key, .value value)])
  | some _ => none

/-- Adds a value under a dotted key: `path` leads to its table, which no header has named. -/
def insertDotted (key : String) (value : Toml) : List String → Parts → Option Parts
  | [], parts => parts.insert key value
  | step :: path, parts =>
      match parts.find? step with
      | none =>
          (insertDotted key value path []).map fun inner => parts.put step (.table .dotted inner)
      | some (.table origin inner) =>
          if origin = .header ∨ (path = [] ∧ origin = .implied) then none
          else (insertDotted key value path inner).map fun inner =>
            parts.put step (.table origin inner)
      | some (.tables before last) =>
          if path = [] then none
          else (insertDotted key value path last).map fun last =>
            parts.put step (.tables before last)
      | some (.value _) => none

/-- Names a table by a header. -/
def openTable (key : String) (parts : Parts) : Option Parts :=
  match parts.find? key with
  | none => some (parts ++ [(key, .table .header [])])
  | some (.table .implied inner) => some (parts.put key (.table .header inner))
  | some _ => none

/-- Starts the next table of a list by a header. -/
def openElement (key : String) (parts : Parts) : Option Parts :=
  match parts.find? key with
  | none => some (parts ++ [(key, .tables [] [])])
  | some (.tables before last) => some (parts.put key (.tables (before ++ [last]) []))
  | some _ => none

end Parts

mutual

/-- What a key stands for once the document is read. -/
def Part.toToml : Part → Toml
  | .value value => value
  | .table _ parts => .table (Parts.toFields parts)
  | .tables before last => .list (Parts.toTables before ++ [.table (Parts.toFields last)])

def Parts.toFields : List (String × Part) → List (String × Toml)
  | [] => []
  | entry :: rest => (entry.1, entry.2.toToml) :: Parts.toFields rest

def Parts.toTables : List (List (String × Part)) → List Toml
  | [] => []
  | parts :: rest => .table (Parts.toFields parts) :: Parts.toTables rest

end

end AuditReminder.Toml
