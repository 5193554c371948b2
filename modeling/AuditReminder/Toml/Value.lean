/-
TOML values.

A document of TOML is a table: fields with their names, in the order in which they are written.
Whole numbers have 64 bits and a sign.  Floating-point numbers and times are kept as they are
spelt, as nothing here computes with them.  `toNode` looks at a value as a document; a time
counts there as a record, whose one field has a name that no record uses.
-/
import AuditReminder.Document.Node

namespace AuditReminder

open Document

/-- A value of TOML; the fields of a table keep their order. -/
inductive Toml where
  | text (s : String)
  | integer (n : Int)
  | float (literal : String)
  | bool (b : Bool)
  | moment (literal : String)
  | list (items : List Toml)
  | table (fields : List (String × Toml))

namespace Toml

/-- The name under which a time is found as a record. -/
def momentField : String := "$datetime"

mutual

/-- A value as a document. -/
def toNode : Toml → Node
  | .text s => .atom (.text s) none
  | .integer n => .atom (.integer n) none
  | .float literal =>
      let fault := Fault.of (.invalidType ("floating point " ++ quoted literal) "another value")
      .unusable fault fault
  | .bool b => .atom (.bool b) none
  | .moment literal => .record [(.ok momentField, .atom (.text literal) none)] .closed none
  | .list items => .list (toNodes items) .closed none
  | .table fields => .record (toFields fields) .closed none

def toNodes : List Toml → List Node
  | [] => []
  | item :: rest => item.toNode :: toNodes rest

def toFields : List (String × Toml) → List (Key × Node)
  | [] => []
  | field :: rest => (.ok field.1, field.2.toNode) :: toFields rest

end

end Toml

end AuditReminder
