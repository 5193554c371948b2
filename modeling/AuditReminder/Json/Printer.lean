/-
JSON text.

`compact` writes a value without any space, `pretty` writes one element to a line with two
spaces for each level.  In both, a text is written with quotes, backslashes and the control
characters below the space escaped, and everything else as it stands.
-/
import AuditReminder.Json.Value
import AuditReminder.Number.Hexadecimal

namespace AuditReminder.Json

/-- A character inside the quotes of a JSON text. -/
def escape (c : Char) : List Char :=
  if c = '"' then ['\\', '"']
  else if c = '\\' then ['\\', '\\']
  else if c = '\n' then ['\\', 'n']
  else if c = '\r' then ['\\', 'r']
  else if c = '\t' then ['\\', 't']
  else if c = '\x08' then ['\\', 'b']
  else if c = '\x0c' then ['\\', 'f']
  else if c.toNat < 0x20 then
    ['\\', 'u', '0', '0'] ++ Hexadecimal.byte c.toNat
  else [c]

/-- A text between its quotes. -/
def quote (s : String) : List Char := '"' :: s.toList.flatMap escape ++ ['"']

/-- A value without parts. -/
def atomChars : Json → List Char
  | .null => ['n', 'u', 'l', 'l']
  | .bool true => ['t', 'r', 'u', 'e']
  | .bool false => ['f', 'a', 'l', 's', 'e']
  | .integer n => Decimal.signed n
  | .float x => x.text.toList
  | .text s => quote s
  | .list _ => []
  | .object _ => []

mutual

/-- A value on one line without spaces. -/
def compactChars : Json → List Char
  | .list items => '[' :: compactItems items
  | .object fields => '\x7b' :: compactFields fields
  | value => atomChars value

/-- The items of a list and the bracket after them. -/
def compactItems : List Json → List Char
  | [] => [']']
  | item :: rest =>
      compactChars item ++ (match rest with
        | [] => [']']
        | _ => ',' :: compactItems rest)

/-- The fields of an object and the brace after them. -/
def compactFields : List (String × Json) → List Char
  | [] => ['\x7d']
  | field :: rest =>
      quote field.1 ++ ':' :: compactChars field.2 ++ (match rest with
        | [] => ['\x7d']
        | _ => ',' :: compactFields rest)

end

/-- A new line at a level. -/
def newLine (level : Nat) : List Char := '\n' :: List.replicate (2 * level) ' '

mutual

/-- A value with one element to a line. -/
def prettyChars (level : Nat) : Json → List Char
  | .list [] => ['[', ']']
  | .list items => '[' :: prettyItems (level + 1) items ++ newLine level ++ [']']
  | .object [] => ['\x7b', '\x7d']
  | .object fields => '\x7b' :: prettyFields (level + 1) fields ++ newLine level ++ ['\x7d']
  | value => atomChars value

def prettyItems (level : Nat) : List Json → List Char
  | [] => []
  | item :: rest =>
      newLine level ++ prettyChars level item ++ (match rest with
        | [] => []
        | _ => ',' :: prettyItems level rest)

def prettyFields (level : Nat) : List (String × Json) → List Char
  | [] => []
  | field :: rest =>
      newLine level ++ quote field.1 ++ ':' :: ' ' :: prettyChars level field.2 ++ (match rest with
        | [] => []
        | _ => ',' :: prettyFields level rest)

end

/-- A value on one line without spaces. -/
def compact (value : Json) : String := String.ofList (compactChars value)

/-- A value with one element to a line. -/
def pretty (value : Json) : String := String.ofList (prettyChars 0 value)

end AuditReminder.Json
