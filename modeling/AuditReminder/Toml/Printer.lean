/-
Writing TOML.

The fields of a table that are no tables themselves stand first, one to a line, under the header of
the table; the tables within it follow, each after an empty line.  A list of tables is written as
one table for each of its items, under a header between double brackets.
-/
import AuditReminder.Toml.Text

namespace AuditReminder.Toml

/-- A key: bare where it can be. -/
def writeKey (key : String) : List Char :=
  if key ≠ "" ∧ key.toList.all isBare then key.toList
  else '"' :: escapedLine key.toList ++ ['"']

/-- Keys with points between them. -/
def writePath : List String → List Char
  | [] => []
  | [key] => writeKey key
  | key :: path => writeKey key ++ '.' :: writePath path

/-- Whether a value is written under a header of its own. -/
def hasHeader : Toml → Bool
  | .table _ => true
  | .list (.table _ :: _) => true
  | _ => false

mutual

/-- A value on the line of its key. -/
def inline : Toml → List Char
  | .text s => writeText s
  | .integer n => Decimal.signed n
  | .float spelt => spelt.toList
  | .bool true => ['t', 'r', 'u', 'e']
  | .bool false => ['f', 'a', 'l', 's', 'e']
  | .moment spelt => spelt.toList
  | .list items => '[' :: inlineItems items ++ [']']
  | .table fields => '\x7b' :: inlineFields fields ++ ['\x7d']

def inlineItems : List Toml → List Char
  | [] => []
  | item :: rest =>
      inline item ++ (match rest with
        | [] => []
        | _ => ',' :: ' ' :: inlineItems rest)

def inlineFields : List (String × Toml) → List Char
  | [] => []
  | field :: rest =>
      ' ' :: writeKey field.1 ++ [' ', '=', ' '] ++ inline field.2 ++ (match rest with
        | [] => [' ']
        | _ => ',' :: inlineFields rest)

end

/-- A field on a line of its own. -/
def writeLine (field : String × Toml) : List Char :=
  writeKey field.1 ++ [' ', '=', ' '] ++ inline field.2 ++ ['\n']

/-- The fields of a table that have no header, a line each. -/
def writeLines (fields : List (String × Toml)) : List Char :=
  (fields.filter fun field => !hasHeader field.2).flatMap writeLine

/-- The header of a table. -/
def tableHeader (path : List String) : List Char := '[' :: writePath path ++ [']', '\n']

/-- The header of an item of a list of tables. -/
def elementHeader (path : List String) : List Char :=
  '[' :: '[' :: writePath path ++ [']', ']', '\n']

mutual

/-- The tables within a table, whose path is `path`; each is one block of lines. -/
def tableBlocks (path : List String) : List (String × Toml) → List (List Char)
  | [] => []
  | field :: rest => valueBlocks (path ++ [field.1]) field.2 ++ tableBlocks path rest

/-- The blocks of a value with a header. -/
def valueBlocks (path : List String) : Toml → List (List Char)
  | .table fields => (tableHeader path ++ writeLines fields) :: tableBlocks path fields
  | .list items => itemBlocks path items
  | _ => []

/-- The blocks of the items of a list. -/
def itemBlocks (path : List String) : List Toml → List (List Char)
  | [] => []
  | .table fields :: rest =>
      ((elementHeader path ++ writeLines fields) :: tableBlocks path fields) ++ itemBlocks path rest
  | _ :: rest => itemBlocks path rest

end

/-- A document: its own fields, and then its tables with an empty line before each. -/
def write (fields : List (String × Toml)) : List Char :=
  let first := writeLines fields
  let blocks := if first = [] then tableBlocks [] fields else first :: tableBlocks [] fields
  List.intercalate ['\n'] blocks

end AuditReminder.Toml
