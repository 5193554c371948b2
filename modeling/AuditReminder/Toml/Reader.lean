/-
Reading TOML.

A document is a sequence of lines, each of which holds nothing, a field, or the header of a table;
a value may go on over several lines.  Reading gives the table of the whole document, or the
place at which it cannot be read.  Main definitions: `readValue`, `readLine` and `read`.
-/
import AuditReminder.Toml.Scalar
import AuditReminder.Toml.Tables

namespace AuditReminder.Toml

/-- Passes over the blanks of a line. -/
def dropSpaces (cs : List Char) : List Char := cs.dropWhile isSpace

/-- Takes one given character. -/
def expect (c : Char) : Reader Unit
  | [] => .error []
  | d :: rest => if d = c then .ok ((), rest) else .error (d :: rest)

/-- Whether a character may stand in a comment. -/
def isCommented (c : Char) : Bool := isPlain c

/-- Passes over a comment up to the end of its line. -/
def dropComment : List Char → List Char
  | '#' :: rest => rest.dropWhile isCommented
  | cs => cs

/-- The end of a line: blanks, a comment, and a line break or the end of the document. -/
def lineEnd : Reader Unit := fun cs =>
  match dropComment (dropSpaces cs) with
  | [] => .ok ((), [])
  | '\n' :: rest => .ok ((), rest)
  | '\r' :: '\n' :: rest => .ok ((), rest)
  | stop => .error stop

/-- Passes over blanks, comments and line breaks, at most `fuel` lines of them. -/
def dropLines : Nat → List Char → List Char
  | 0, cs => cs
  | fuel + 1, cs =>
      match dropComment (dropSpaces cs) with
      | '\n' :: rest => dropLines fuel rest
      | '\r' :: '\n' :: rest => dropLines fuel rest
      | rest => rest

/-- Passes over blanks, comments and line breaks. -/
def dropGap (cs : List Char) : List Char := dropLines cs.length cs

/-! ## Keys -/

/-- A key: a text on one line, or a run of bare characters. -/
def readKey : Reader String := fun cs =>
  match cs with
  | '"' :: rest => (basic rest).map fun (key, rest) => (String.ofList key, rest)
  | '\x27' :: rest => (literal rest).map fun (key, rest) => (String.ofList key, rest)
  | _ =>
      let key := cs.takeWhile isBare
      if key = [] then .error cs else .ok (String.ofList key, cs.drop key.length)

/-- The greatest number of keys in a path, and of lists and tables around a value. -/
def maxDepth : Nat := 79

/-- Keys with points between them: the path to a table and the key in it. -/
def readPath : Nat → Reader (List String × String)
  | 0, cs => .error cs
  | fuel + 1, cs => do
      let (key, rest) ← readKey (dropSpaces cs)
      match dropSpaces rest with
      | '.' :: rest => do
          let ((path, last), rest) ← readPath fuel rest
          return ((key :: path, last), rest)
      | rest => return (([], key), rest)

/-! ## Values -/

/-- The items of a list after its opening bracket, with commas between them and perhaps after the
last; each of at most `fuel` items is read by `item`. -/
def readItems (item : Reader Toml) : Nat → Reader (List Toml)
  | 0, cs => .error cs
  | fuel + 1, cs =>
      match dropGap cs with
      | ']' :: rest => .ok ([], rest)
      | cs => do
          let (value, rest) ← item cs
          match dropGap rest with
          | ',' :: rest => do
              let (values, rest) ← readItems item fuel rest
              return (value :: values, rest)
          | ']' :: rest => return ([value], rest)
          | stop => .error stop

/-- A key, an equals sign and a value. -/
def readField (item : Reader Toml) : Reader (List String × String × Toml) := fun cs => do
  let ((path, key), rest) ← readPath maxDepth cs
  let ((), rest) ← expect '=' rest
  let (value, rest) ← item (dropSpaces rest)
  return ((path, key, value), rest)

/-- The fields of a table within one line, of which there is at least one. -/
def readFields (item : Reader Toml) (parts : Parts) : Nat → Reader Parts
  | 0, cs => .error cs
  | fuel + 1, cs => do
      let ((path, key, value), rest) ← readField item cs
      let some parts := parts.insertDotted key value path | .error cs
      match dropSpaces rest with
      | ',' :: rest => readFields item parts fuel rest
      | '\x7d' :: rest => return (parts, rest)
      | stop => .error stop

/-- A value with at most `depth` lists and tables around its parts. -/
def readValue : (depth : Nat) → Reader Toml
  | 0, cs => .error cs
  | depth + 1, cs =>
      match cs with
      | '"' :: _ => (readText cs).map fun (s, rest) => (.text s, rest)
      | '\x27' :: _ => (readText cs).map fun (s, rest) => (.text s, rest)
      | '[' :: rest =>
          if depth = 0 then .error cs
          else (readItems (readValue depth) rest.length rest).map fun (items, rest) =>
            (.list items, rest)
      | '\x7b' :: rest =>
          if depth = 0 then .error cs
          else match dropSpaces rest with
            | '\x7d' :: rest => .ok (.table [], rest)
            | rest => (readFields (readValue depth) [] rest.length rest).map fun (parts, rest) =>
                (.table (Parts.toFields parts), rest)
      | _ => readScalar cs

/-! ## Lines -/

/-- What has been read: the whole tree, and the path of the table that fields go into. -/
structure Draft where
  parts : Parts
  current : List String

/-- A path with its last key. -/
def fullPath (path : List String × String) : List String := path.1 ++ [path.2]

/-- The header of a list of tables, after its brackets. -/
def readElementHeader (draft : Draft) : Reader Draft := fun cs => do
  let (path, rest) ← readPath maxDepth cs
  let ((), rest) ← expect ']' rest
  let ((), rest) ← expect ']' rest
  let ((), rest) ← lineEnd rest
  match draft.parts.within (Parts.openElement path.2) path.1 with
  | some parts => return (⟨parts, fullPath path⟩, rest)
  | none => .error cs

/-- The header of a table, after its bracket. -/
def readTableHeader (draft : Draft) : Reader Draft := fun cs => do
  let (path, rest) ← readPath maxDepth cs
  let ((), rest) ← expect ']' rest
  let ((), rest) ← lineEnd rest
  match draft.parts.within (Parts.openTable path.2) path.1 with
  | some parts => return (⟨parts, fullPath path⟩, rest)
  | none => .error cs

/-- A field of the current table. -/
def readEntry (draft : Draft) : Reader Draft := fun cs => do
  let ((path, key, value), rest) ← readField (readValue (maxDepth + 1)) cs
  let ((), rest) ← lineEnd rest
  match draft.parts.within (Parts.insertDotted key value path) draft.current with
  | some parts => return ({ draft with parts := parts }, rest)
  | none => .error cs

/-- One line of a document, whose blanks in front are passed over. -/
def readLine (draft : Draft) : Reader Draft := fun cs =>
  match dropSpaces cs with
  | [] => .ok (draft, [])
  | '\n' :: rest => .ok (draft, rest)
  | '\r' :: '\n' :: rest => .ok (draft, rest)
  | '#' :: rest => (lineEnd ('#' :: rest)).map fun ((), rest) => (draft, rest)
  | '[' :: '[' :: rest => readElementHeader draft rest
  | '[' :: rest => readTableHeader draft rest
  | cs => readEntry draft cs

/-- The lines of a document; each takes at least one character. -/
def readLines (draft : Draft) (cs : List Char) : Except (List Char) Draft :=
  if cs = [] then .ok draft
  else match readLine draft cs with
    | .error stop => .error stop
    | .ok (draft, rest) =>
        if _h : rest.length < cs.length then readLines draft rest else .error cs
termination_by cs.length

/-- The mark that may stand in front of a document. -/
def dropMark : List Char → List Char
  | '\ufeff' :: rest => rest
  | cs => cs

/-- The line on which reading stopped, from 1. -/
def lineOf (cs stop : List Char) : Nat :=
  ((cs.take (cs.length - stop.length)).filter (· == '\n')).length + 1

/-- The table of a document, or the number of the line that cannot be read. -/
def read (s : String) : Except Nat Toml :=
  let cs := dropMark s.toList
  match readLines ⟨[], []⟩ cs with
  | .ok draft => .ok (.table (Parts.toFields draft.parts))
  | .error stop => .error (lineOf cs stop)

end AuditReminder.Toml
