/-
Faults of a document.

A document is read from text or from a value already at hand.  A fault says what keeps it from
being read and, where it was found in text, at which line and column; columns count the bytes
since the line began.
-/
import AuditReminder.Text.Decimal

namespace AuditReminder.Document

/-- A place in a text: its line from 1, and the bytes before it on that line. -/
structure Position where
  line : Nat
  column : Nat
deriving DecidableEq

/-- What is wrong with a document. -/
inductive Cause where
  | eofInValue
  | eofInText
  | eofInList
  | eofInRecord
  | expectedColon
  | expectedListSeparator
  | expectedRecordSeparator
  | expectedWord
  | expectedValue
  | invalidEscape
  | invalidNumber
  | numberOutOfRange
  | loneSurrogate
  | unexpectedEscapeEnd
  | controlCharacter
  | keyNotText
  | trailingSeparator
  | trailingCharacters
  | recursionLimit
  | invalidType (found expected : String)
  | invalidValue (found expected : String)
  | invalidLength (length : Nat) (expected : String)
  | unknownVariant (name : String) (known : List String)
  | missingField (name : String)
  | duplicateField (name : String)
  | refused (message : String)
deriving DecidableEq

/-- A name between backquotes. -/
def quoted (name : String) : String := "`" ++ name ++ "`"

/-- The names that would have been known. -/
def expectedNames : List String → String
  | [] => "there are no variants"
  | [a] => "expected " ++ quoted a
  | [a, b] => "expected " ++ quoted a ++ " or " ++ quoted b
  | names => "expected one of " ++ String.intercalate ", " (names.map quoted)

namespace Cause

def message : Cause → String
  | eofInValue => "EOF while parsing a value"
  | eofInText => "EOF while parsing a string"
  | eofInList => "EOF while parsing a list"
  | eofInRecord => "EOF while parsing an object"
  | expectedColon => "expected `:`"
  | expectedListSeparator => "expected `,` or `]`"
  | expectedRecordSeparator => "expected `,` or `\x7d`"
  | expectedWord => "expected ident"
  | expectedValue => "expected value"
  | invalidEscape => "invalid escape"
  | invalidNumber => "invalid number"
  | numberOutOfRange => "number out of range"
  | loneSurrogate => "lone leading surrogate in hex escape"
  | unexpectedEscapeEnd => "unexpected end of hex escape"
  | controlCharacter => "control character (\\u0000-\\u001F) found while parsing a string"
  | keyNotText => "key must be a string"
  | trailingSeparator => "trailing comma"
  | trailingCharacters => "trailing characters"
  | recursionLimit => "recursion limit exceeded"
  | invalidType found expected => "invalid type: " ++ found ++ ", expected " ++ expected
  | invalidValue found expected => "invalid value: " ++ found ++ ", expected " ++ expected
  | invalidLength length expected =>
      "invalid length " ++ Decimal.text length ++ ", expected " ++ expected
  | unknownVariant name known => "unknown variant " ++ quoted name ++ ", " ++ expectedNames known
  | missingField name => "missing field " ++ quoted name
  | duplicateField name => "duplicate field " ++ quoted name
  | refused message => message

/-- The same spot in a list, for a reader that passes over the list without using it. -/
def inSkippedList : Cause → Cause
  | trailingSeparator => expectedValue
  | cause => cause

/-- The same spot in a record, for a reader that passes over the record without using it. -/
def inSkippedRecord : Cause → Cause
  | trailingSeparator => keyNotText
  | eofInValue => eofInRecord
  | cause => cause

/-- The same spot in a list, for a reader that has all the elements it wants. -/
def afterLastElement : Cause → Cause
  | eofInValue => trailingCharacters
  | expectedListSeparator => trailingCharacters
  | cause => cause

/-- The same spot in a record, for a reader that has the one field it wants. -/
def afterOnlyField : Cause → Cause
  | eofInRecord => eofInRecord
  | _ => expectedValue

end Cause

/-- A cause and the place where it was found, for documents read from text. -/
structure Fault where
  cause : Cause
  position : Option Position
deriving DecidableEq

namespace Fault

/-- A fault of a document that was not read from text. -/
def of (cause : Cause) : Fault := ⟨cause, none⟩

/-- The same fault seen as another cause. -/
def mapCause (f : Cause → Cause) (fault : Fault) : Fault := { fault with cause := f fault.cause }

/-- The message of a fault, with its place. -/
def message (fault : Fault) : String :=
  match fault.position with
  | none => fault.cause.message
  | some p =>
      fault.cause.message ++ " at line " ++ Decimal.text p.line ++ " column " ++
        Decimal.text p.column

end Fault

end AuditReminder.Document
