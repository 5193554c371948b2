/-
JSON values.

Values with their fields in the order in which they are written.  `sortKeys` puts the fields of
every object into the order of their names and keeps the last field of each name, which is how
configuration and reports are shown; `toNode` looks at a value as a document.
-/
import AuditReminder.Document.Node

namespace AuditReminder

open Document

/-- A JSON value; fields keep their order. -/
inductive Json where
  | null
  | bool (b : Bool)
  | integer (n : Int)
  | float (x : Binary64)
  | text (s : String)
  | list (items : List Json)
  | object (fields : List (String × Json))

namespace Json

/-- Puts a field at its place by name; a later field of the same name takes its place. -/
def placeField (name : String) (value : Json) :
    List (String × Json) → List (String × Json)
  | [] => [(name, value)]
  | field :: rest =>
      if name < field.1 then (name, value) :: field :: rest
      else if name = field.1 then (name, value) :: rest
      else field :: placeField name value rest

mutual

/-- The same value with the fields of every object in the order of their names. -/
def sortKeys : Json → Json
  | .list items => .list (sortItems items)
  | .object fields => .object (sortFields [] fields)
  | value => value

def sortItems : List Json → List Json
  | [] => []
  | item :: rest => item.sortKeys :: sortItems rest

/-- The fields placed so far, and then the others in turn. -/
def sortFields (placed : List (String × Json)) :
    List (String × Json) → List (String × Json)
  | [] => placed
  | field :: rest => sortFields (placeField field.1 field.2.sortKeys placed) rest

end

/-- The value of the first field of a name. -/
def field? (name : String) : Json → Option Json
  | .object fields => (fields.find? (·.1 == name)).map (·.2)
  | _ => none

mutual

/-- A value as a document. -/
def toNode : Json → Node
  | .null => .atom .null none
  | .bool b => .atom (.bool b) none
  | .integer n => .atom (.integer n) none
  | .float x => .atom (.float x) none
  | .text s => .atom (.text s) none
  | .list items => .list (toNodes items) .closed none
  | .object fields => .record (toFields fields) .closed none

def toNodes : List Json → List Node
  | [] => []
  | item :: rest => item.toNode :: toNodes rest

def toFields : List (String × Json) → List (Key × Node)
  | [] => []
  | field :: rest => (.ok field.1, field.2.toNode) :: toFields rest

end

end Json

end AuditReminder
