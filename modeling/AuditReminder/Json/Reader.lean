/-
Reading JSON text.

`read` turns a text into a document and keeps, in it, the spot where the text stops being JSON.
A document is followed by blanks only; what else follows is a fault that shows once the document
itself has been used.
-/
import AuditReminder.Json.Scanner
import AuditReminder.Json.Value

namespace AuditReminder.Json

open Document

/-- What was read, and the cursor after it unless reading stopped. -/
abbrev Reading (α : Type) := α × Option Cursor

/-- A place without a value. -/
def noValue (fault : Fault) : Reading Node := (.broken fault fault fault, none)

/-- The word that starts at `here` and of which `letters` are left at `next`. -/
def wordNode (here : Cursor) (letters : List Char) (value : Atom) (next : Cursor) : Reading Node :=
  match takeWord letters next with
  | .ok after => (.atom value (some after.place), some after)
  | .error fault => (.broken fault fault (here.peekFault .expectedValue), none)

/-- A value read in two ways: used if it can be, passed over if it can be. -/
def atomNode (used : Except Fault (Atom × Cursor)) (passed : Except Fault Cursor)
    (asVariant : Fault → Fault) : Reading Node :=
  match used, passed with
  | .ok (value, after), _ => (.atom value (some after.place), some after)
  | .error fault, .ok after => (.unusable fault (asVariant fault), some after)
  | .error fault, .error skipped => (.broken fault skipped (asVariant fault), none)

/-- The text after the quote at the cursor. -/
def textNode (here : Cursor) : Reading Node :=
  atomNode
    ((readText [] here.place here.rest).map fun (cs, after) => (.text (String.ofList cs), after))
    (passText here.place here.rest) id

/-- The number at the cursor, where no variant can stand. -/
def numberNode (here : Cursor) : Reading Node :=
  atomNode (readNumber here) (passNumber here) fun _ => here.peekFault .expectedValue

mutual

/-- Reads the value at the cursor; each level of nesting takes one unit of fuel. -/
def readValue : Nat → Cursor → Reading Node
  | 0, here => noValue (here.fault .recursionLimit)
  | fuel + 1, here =>
      let here := here.passSpaces
      match here.rest with
      | [] => noValue (here.peekFault .eofInValue)
      | c :: rest =>
          let next : Cursor := ⟨rest, here.place.next c⟩
          if c = 'n' then wordNode here ['u', 'l', 'l'] .null next
          else if c = 't' then wordNode here ['r', 'u', 'e'] (.bool true) next
          else if c = 'f' then wordNode here ['a', 'l', 's', 'e'] (.bool false) next
          else if c = '"' then textNode next
          else if c = '-' ∨ c.isDigit then numberNode here
          else if c = '[' then
            let (items, ending, after) := readItems fuel true next
            (.list items ending (some here.place), after)
          else if c = '\x7b' then
            let (fields, ending, after) := readFields fuel true next
            (.record fields ending (some here.place), after)
          else noValue (here.peekFault .expectedValue)

/-- Reads the items of a list from the cursor on. -/
def readItems : Nat → Bool → Cursor → List Node × Ending × Option Cursor
  | 0, _, here => stopped here .recursionLimit
  | fuel + 1, first, here =>
      let here := here.passSpaces
      match here.rest with
      | [] => stopped here .eofInList
      | c :: rest =>
          let next : Cursor := ⟨rest, here.place.next c⟩
          if c = ']' then ([], .closed, some next)
          else if first then itemThenRest fuel here
          else if c = ',' then
            let item := next.passSpaces
            match item.rest with
            | [] => stopped item .eofInValue
            | c :: _ => if c = ']' then stopped item .trailingSeparator else itemThenRest fuel item
          else stopped here .expectedListSeparator
where
  /-- No further item: reading stops at the cursor. -/
  stopped (here : Cursor) (cause : Cause) : List Node × Ending × Option Cursor :=
    ([], .cut (here.peekFault cause) (here.peekFault cause), none)
  /-- The item at the cursor and those after it. -/
  itemThenRest (fuel : Nat) (here : Cursor) : List Node × Ending × Option Cursor :=
    match readValue fuel here with
    | (item, none) => ([item], .closed, none)
    | (item, some after) =>
        let (items, ending, end?) := readItems fuel false after
        (item :: items, ending, end?)

/-- Reads the fields of a record from the cursor on. -/
def readFields : Nat → Bool → Cursor → List (Key × Node) × Ending × Option Cursor
  | 0, _, here => ([], .cut (here.fault .recursionLimit) (here.fault .recursionLimit), none)
  | fuel + 1, first, here =>
      let here := here.passSpaces
      match here.rest with
      | [] => stopped fuel here .eofInRecord
      | c :: rest =>
          let next : Cursor := ⟨rest, here.place.next c⟩
          if c = '\x7d' then ([], .closed, some next)
          else if first then
            if c = '"' then fieldThenRest fuel next else stopped fuel here .keyNotText
          else if c = ',' then
            let key := next.passSpaces
            match key.rest with
            | [] => stopped fuel key .eofInValue
            | c :: rest =>
                if c = '"' then fieldThenRest fuel ⟨rest, key.place.next c⟩
                else if c = '\x7d' then stopped fuel key .trailingSeparator
                else stopped fuel key .keyNotText
          else stopped fuel here .expectedRecordSeparator
where
  /-- No further field: reading stops at the cursor. -/
  stopped (fuel : Nat) (here : Cursor) (cause : Cause) :
      List (Key × Node) × Ending × Option Cursor :=
    let named := (readValue fuel here).1.mismatch "variant identifier"
    ([], .cut (here.peekFault cause) named, none)
  /-- The field whose key starts at the cursor, and those after it. -/
  fieldThenRest (fuel : Nat) (here : Cursor) : List (Key × Node) × Ending × Option Cursor :=
    let key : Except Fault String :=
      (readText [] here.place here.rest).map fun (cs, _) => String.ofList cs
    match passText here.place here.rest with
    | .error skipped => ([(key, .broken skipped skipped skipped)], .closed, none)
    | .ok after =>
        let colon := after.passSpaces
        match colon.rest with
        | [] => ([(key, (noValue (colon.peekFault .eofInRecord)).1)], .closed, none)
        | c :: rest =>
            if c = ':' then
              match readValue fuel ⟨rest, colon.place.next c⟩ with
              | (value, none) => ([(key, value)], .closed, none)
              | (value, some after) =>
                  let (fields, ending, end?) := readFields fuel false after
                  ((key, value) :: fields, ending, end?)
            else ([(key, (noValue (colon.peekFault .expectedColon)).1)], .closed, none)

end

/-- A text read as a document, and the fault of what follows it. -/
structure Source where
  node : Node
  trailing : Option Fault

/-- Reads a text as a document. -/
def read (s : String) : Source :=
  let cs := s.toList
  match readValue (2 * cs.length + 2) ⟨cs, .start⟩ with
  | (node, none) => ⟨node, none⟩
  | (node, some after) =>
      let after := after.passSpaces
      ⟨node, if after.rest.isEmpty then none else some (after.peekFault .trailingCharacters)⟩

end AuditReminder.Json
