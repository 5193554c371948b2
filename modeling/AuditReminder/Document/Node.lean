/-
Documents.

A document is a tree of atoms, lists and records.  A tree that was read from text keeps the
places of its parts, and the spot where reading stopped if the text is at fault: what was read
before that spot can still be looked at, and the fault shows only when a reader comes to it.
A part may also be passed over but not used, such as a number too large to be one.  Main
definitions: `Node`, `Node.skip` and `Node.found`, which names what stands in a place.
-/
import AuditReminder.Document.Fault
import AuditReminder.Number.Binary64
import AuditReminder.Text.Quoted

namespace AuditReminder.Document

/-- Values without parts. -/
inductive Atom where
  | null
  | bool (b : Bool)
  | integer (n : Int)
  | float (x : Binary64)
  | text (s : String)
deriving DecidableEq

/-- How a list or a record ends. -/
inductive Ending where
  | closed
  /-- Reading stopped after the parts; `named` is what a reader says that wanted the name of a
  variant in the place of the next key. -/
  | cut (fault named : Fault)
deriving DecidableEq

/-- The name of a field, unless it can be passed over only. -/
abbrev Key := Except Fault String

/-- A tree of values. -/
inductive Node where
  /-- A value without parts; the place is the one after it. -/
  | atom (value : Atom) (after : Option Position)
  /-- A list; the place is the one before it. -/
  | list (items : List Node) (ending : Ending) (before : Option Position)
  /-- A record; the place is the one before it. -/
  | record (fields : List (Key × Node)) (ending : Ending) (before : Option Position)
  /-- A value that can be passed over and not used: what is said when it is used, and when a
  variant was wanted there. -/
  | unusable (fault asVariant : Fault)
  /-- No value: what is said when one is used there, when one is passed over, and when a variant
  was wanted there. -/
  | broken (used skipped asVariant : Fault)

namespace Atom

/-- What an atom is called where it does not belong. -/
def found : Atom → String
  | null => "null"
  | bool true => "boolean " ++ quoted "true"
  | bool false => "boolean " ++ quoted "false"
  | integer n => "integer " ++ quoted (Decimal.text n)
  | float x => "floating point " ++ quoted x.text
  | text s => "string " ++ Text.quotedText s

end Atom

namespace Node

mutual

/-- The fault met when a value is passed over. -/
def skip : Node → Except Fault Unit
  | .atom _ _ => .ok ()
  | .list items ending _ =>
      match skipItems items with
      | .error fault => .error fault
      | .ok () =>
          match ending with
          | .closed => .ok ()
          | .cut fault _ => .error (fault.mapCause Cause.inSkippedList)
  | .record fields ending _ =>
      match skipFields fields with
      | .error fault => .error fault
      | .ok () =>
          match ending with
          | .closed => .ok ()
          | .cut fault _ => .error (fault.mapCause Cause.inSkippedRecord)
  | .unusable _ _ => .ok ()
  | .broken _ skipped _ => .error skipped

def skipItems : List Node → Except Fault Unit
  | [] => .ok ()
  | item :: rest =>
      match item.skip with
      | .error fault => .error fault
      | .ok () => skipItems rest

def skipFields : List (Key × Node) → Except Fault Unit
  | [] => .ok ()
  | field :: rest =>
      match field.2.skip with
      | .error fault => .error fault
      | .ok () => skipFields rest

end

/-- The fault of a value that is not of the kind a reader expects. -/
def mismatch (expected : String) : Node → Fault
  | .atom value after => ⟨.invalidType value.found expected, after⟩
  | .list _ _ before => ⟨.invalidType "sequence" expected, before⟩
  | .record _ _ before => ⟨.invalidType "map" expected, before⟩
  | .unusable fault _ => fault
  | .broken used _ _ => used

end Node

end AuditReminder.Document
