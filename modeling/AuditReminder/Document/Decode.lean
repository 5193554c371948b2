/-
Values from documents.

A decoder takes a value from a node or gives the first fault on the way, in the order in which
the document is written.  Where documents come from decides a few points: JSON text, JSON values
and TOML differ in what they say of a list that is too long and of what stands in the place of a
variant.  Records are decoded slot by slot: `Slot` says under which name a part is kept, whether
it may be missing and how it is stored.
-/
import AuditReminder.Json.Reader

namespace AuditReminder.Document

/-- Where a document comes from. -/
inductive Dialect where
  /-- JSON text. -/
  | text
  /-- A JSON value at hand. -/
  | value
  /-- The parts of a record set aside while its variant was looked for. -/
  | setAside
  | toml
deriving DecidableEq

/-- Takes a value from a node. -/
abbrev Decoder (α : Type) := Dialect → Node → Except Fault α

namespace Decode

/-- A text. -/
def text : Decoder String := fun _ node =>
  match node with
  | .atom (.text s) _ => .ok s
  | node => .error (node.mismatch "a string")

/-- A whole number within bounds. -/
def number (low high : Int) (expected : String) : Decoder Int := fun _ node =>
  match node with
  | .atom (.integer n) after =>
      if low ≤ n ∧ n ≤ high then .ok n
      else .error ⟨.invalidValue ("integer " ++ quoted (Decimal.text n)) expected, after⟩
  | node => .error (node.mismatch expected)

/-- A number of 64 bits with a sign. -/
def int64 : Decoder Int := number leastInt64 greatestInt64 "i64"

/-- A number of 64 bits without a sign. -/
def nat64 : Decoder Nat := fun dialect node =>
  (number 0 greatestNat64 "u64" dialect node).map Int.toNat

/-- The items of a list, each decoded in turn. -/
def items (decode : Node → Except Fault α) : List Node → Except Fault (List α)
  | [] => .ok []
  | item :: rest => do
      let value ← decode item
      let values ← items decode rest
      return value :: values

/-- A list. -/
def list (decode : Decoder α) : Decoder (List α) := fun dialect node =>
  match node with
  | .list nodes ending _ => do
      let values ← items (decode dialect) nodes
      match ending with
      | .closed => return values
      | .cut fault _ => .error fault
  | node => .error (node.mismatch "a sequence")

/-! ## Records -/

/-- A part of a record: its name, whether it must be there, and how it is stored. -/
structure Slot (α : Type) where
  name : String
  isRequired : Bool
  store : Dialect → Node → α → Except Fault α

namespace Slot

/-- A part that must be there. -/
def needed (name : String) (decode : Decoder β) (put : β → α → α) : Slot α :=
  ⟨name, true, fun dialect node draft => (decode dialect node).map (put · draft)⟩

/-- A part that may be missing. -/
def free (name : String) (decode : Decoder β) (put : β → α → α) : Slot α :=
  ⟨name, false, fun dialect node draft => (decode dialect node).map (put · draft)⟩

end Slot

/-- The parts of a record in the order in which it is written; `seen` holds the names so far, and
fields of other names are passed over. -/
def fields (dialect : Dialect) (slots : List (Slot α)) (seen : List String) (draft : α) :
    List (Key × Node) → Except Fault (List String × α)
  | [] => .ok (seen, draft)
  | (.error fault, _) :: _ => .error fault
  | (.ok name, node) :: rest =>
      match slots.find? (·.name == name) with
      | none => do
          node.skip
          fields dialect slots seen draft rest
      | some slot =>
          if name ∈ seen then .error (.of (.duplicateField name))
          else do
            let draft ← slot.store dialect node draft
            fields dialect slots (name :: seen) draft rest

/-- The first name that should have been seen. -/
def missing? (slots : List (Slot α)) (seen : List String) : Option String :=
  (slots.find? fun slot => slot.isRequired && !decide (slot.name ∈ seen)).map (·.name)

/-- The parts of a record written as a list, one after the other; gives the items left over. -/
def positions (dialect : Dialect) (expected : String) (index : Nat) :
    List (Slot α) → α → List Node → Except Fault (α × List Node)
  | [], draft, nodes => .ok (draft, nodes)
  | slot :: slots, draft, [] =>
      if slot.isRequired then .error (.of (.invalidLength index expected))
      else positions dialect expected (index + 1) slots draft []
  | slot :: slots, draft, node :: nodes => do
      let draft ← slot.store dialect node draft
      positions dialect expected (index + 1) slots draft nodes

/-- What a count of elements is called. -/
def countText (count : Nat) (after : String) : String :=
  Decimal.text count ++ (if count = 1 then " element" else " elements") ++ after

/-- The fault of items left over in a list that stands for a record. -/
def surplus (dialect : Dialect) (used left : Nat) : Option Fault :=
  if left = 0 then none
  else match dialect with
    | .text => some (.of .trailingCharacters)
    | .value => some (.of (.invalidLength (used + left) "fewer elements in array"))
    | .setAside =>
        some (.of (.invalidLength (used + left) (countText used " in sequence")))
    | .toml => none

/-- A record whose parts are `slots`; `label` is what it is called, and `draft` is what its parts
are stored into.  Every required part has been stored when a record is given. -/
def record (label : String) (slots : List (Slot α)) (draft : α) : Decoder α := fun dialect node =>
  match node with
  | .record fs ending _ => do
      let (seen, draft) ← fields dialect slots [] draft fs
      match ending with
      | .cut fault _ => .error fault
      | .closed =>
          match missing? slots seen with
          | some name => .error (.of (.missingField name))
          | none => return draft
  | .list nodes ending _ => do
      let needed := slots.length
      let expected := label ++ " with " ++ countText needed ""
      let cutShort : Option Fault := match ending with
        | .cut fault _ => if nodes.length < needed then some fault else none
        | .closed => none
      let (draft, left) ← positions dialect expected 0 (slots.take nodes.length) draft nodes
      if let some fault := cutShort then .error fault
      let (draft, _) ← positions dialect expected nodes.length (slots.drop nodes.length) draft []
      if let some fault := surplus dialect needed left.length then .error fault
      match ending with
      | .cut fault _ => .error (fault.mapCause Cause.afterLastElement)
      | .closed => return draft
  | node => .error (node.mismatch label)

/-! ## Variants -/

/-- The variant that a name spells. -/
def variantOf (known : List (String × α)) (name : String) : Except Fault α :=
  match known.find? (·.1 == name) with
  | some (_, value) => .ok value
  | none => .error (.of (.unknownVariant name (known.map (·.1))))

/-- Nothing, written as null. -/
def unit (node : Node) : Except Fault Unit :=
  match node with
  | .atom .null _ => .ok ()
  | node => .error (node.mismatch "unit")

/-- A variant of the record form: its one field names it and holds nothing. -/
def variantRecord (known : List (String × α)) (dialect : Dialect)
    (fs : List (Key × Node)) (ending : Ending) : Except Fault α :=
  match dialect, fs, ending with
  | .text, [], .closed => .error (.of .expectedValue)
  | .text, [], .cut _ named => .error named
  | .text, (.error fault, _) :: _, _ => .error fault
  | .text, (.ok name, node) :: rest, ending => do
      let value ← variantOf known name
      unit node
      match rest, ending with
      | [], .closed => return value
      | [], .cut fault _ => .error (fault.mapCause Cause.afterOnlyField)
      | _, _ => .error (.of .expectedValue)
  | .toml, [(.ok name, node)], _ => do
      let value ← variantOf known name
      match node with
      | .list [] _ _ => return value
      | .record [] _ _ => return value
      | node => .error (node.mismatch "unit")
  | _, [(.ok name, node)], _ => do
      let value ← variantOf known name
      unit node
      return value
  | _, _, _ => .error (.of (.invalidValue "map" "map with a single key"))

/-- A variant without parts: its name, or a record whose one field has that name and holds
nothing. -/
def variant (known : List (String × α)) : Decoder α := fun dialect node =>
  match node with
  | .atom (.text s) _ => variantOf known s
  | .record fs ending _ => variantRecord known dialect fs ending
  | .unusable _ asVariant => .error asVariant
  | .broken _ _ asVariant => .error asVariant
  | node =>
      match dialect with
      | .text => .error (.of .expectedValue)
      | _ => .error (node.mismatch "string or map")

/-! ## Whole documents -/

mutual

/-- A document as a JSON value, every part of it used; `levels` is how deep it may nest. -/
def json : Nat → Node → Except Fault Json
  | _, .atom .null _ => .ok .null
  | _, .atom (.bool b) _ => .ok (.bool b)
  | _, .atom (.integer n) _ => .ok (.integer n)
  | _, .atom (.float x) _ => .ok (.float x)
  | _, .atom (.text s) _ => .ok (.text s)
  | levels, .list nodes ending before =>
      if levels ≤ 1 then .error (tooDeep before)
      else
        match jsonItems (levels - 1) nodes with
        | .error fault => .error fault
        | .ok values =>
            match ending with
            | .closed => .ok (.list values)
            | .cut fault _ => .error fault
  | levels, .record fs ending before =>
      if levels ≤ 1 then .error (tooDeep before)
      else
        match jsonFields (levels - 1) fs with
        | .error fault => .error fault
        | .ok values =>
            match ending with
            | .closed => .ok (.object values)
            | .cut fault _ => .error fault
  | _, .unusable fault _ => .error fault
  | _, .broken used _ _ => .error used
where
  /-- The fault of a list or record that nests too deep: it lies after its opening bracket. -/
  tooDeep (before : Option Position) : Fault :=
    ⟨.recursionLimit, before.map fun p => ⟨p.line, p.column + 1⟩⟩

def jsonItems (levels : Nat) : List Node → Except Fault (List Json)
  | [] => .ok []
  | node :: rest =>
      match json levels node with
      | .error fault => .error fault
      | .ok value => (jsonItems levels rest).map (value :: ·)

def jsonFields (levels : Nat) : List (Key × Node) → Except Fault (List (String × Json))
  | [] => .ok []
  | field :: rest =>
      match field.1 with
      | .error fault => .error fault
      | .ok name =>
          match json levels field.2 with
          | .error fault => .error fault
          | .ok value => (jsonFields levels rest).map ((name, value) :: ·)

end

/-- How deep lists and records may nest. -/
def maxLevels : Nat := 128

/-- Decodes a text and what follows it. -/
def source (decode : Decoder α) (s : String) : Except Fault α := do
  let source := Json.read s
  let value ← decode .text source.node
  match source.trailing with
  | some fault => .error fault
  | none => return value

end Decode

end AuditReminder.Document
