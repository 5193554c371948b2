/-
Words, numbers and texts of JSON.

Each of them is read in two ways: for use, which gives its value, and in passing, which only
looks for its end.  The two differ in what they refuse: a number too large or half a surrogate
pair can be passed over and not used.  Places are kept while the characters are taken.
-/
import AuditReminder.Document.Node
import AuditReminder.Number.Bounds
import AuditReminder.Number.Hexadecimal
import AuditReminder.Text.Bytes

namespace AuditReminder.Document.Position

def start : Position := ⟨1, 0⟩

/-- The place after a character. -/
def next (p : Position) (c : Char) : Position :=
  if c = '\n' then ⟨p.line + 1, 0⟩ else ⟨p.line, p.column + c.utf8Size⟩

/-- The place after the first byte of what follows, or the same place at the end. -/
def peek (p : Position) : List Char → Position
  | [] => p
  | c :: _ => if c = '\n' then ⟨p.line + 1, 0⟩ else ⟨p.line, p.column + 1⟩

/-- The place after a number of bytes of what follows. -/
def bytes (p : Position) : Nat → List Char → Position
  | _, [] => p
  | n, c :: cs =>
      if n = 0 then p
      else if n < c.utf8Size then ⟨p.line, p.column + n⟩
      else (p.next c).bytes (n - c.utf8Size) cs

end AuditReminder.Document.Position

namespace AuditReminder.Json

open Document

/-- The characters not yet read, and where they start. -/
structure Cursor where
  rest : List Char
  place : Position

namespace Cursor

/-- A fault at the cursor. -/
def fault (here : Cursor) (cause : Cause) : Fault := ⟨cause, some here.place⟩

/-- A fault of the character at the cursor. -/
def peekFault (here : Cursor) (cause : Cause) : Fault := ⟨cause, some (here.place.peek here.rest)⟩

/-- The blanks that JSON allows between its parts. -/
def isSpace (c : Char) : Bool := c == ' ' || c == '\n' || c == '\t' || c == '\r'

/-- The place after some characters. -/
def placeAfter (p : Position) (cs : List Char) : Position := cs.foldl Position.next p

/-- The cursor after the characters of a class. -/
def pass (isPassed : Char → Bool) (here : Cursor) : Cursor :=
  ⟨here.rest.dropWhile isPassed, placeAfter here.place (here.rest.takeWhile isPassed)⟩

def passSpaces (here : Cursor) : Cursor := here.pass isSpace

end Cursor

/-! ## Words -/

/-- Takes the letters of a word, of which the first is known to be there. -/
def takeWord : List Char → Cursor → Except Fault Cursor
  | [], here => .ok here
  | letter :: letters, here =>
      match here.rest with
      | [] => .error (here.fault .eofInValue)
      | c :: rest =>
          if c = letter then takeWord letters ⟨rest, here.place.next c⟩
          else .error (here.peekFault .expectedWord)

/-! ## Numbers -/

/-- Adds digits to a significand as long as it fits in 64 bits; gives the digits added and the
digits left out. -/
def significand (n : Nat) : List Char → Nat × Nat × Nat
  | [] => (n, 0, 0)
  | c :: cs =>
      let n' := n * 10 + Decimal.digitValue c
      if greatestNat64 < n' then (n, 0, cs.length + 1)
      else
        let (m, added, left) := significand n' cs
        (m, added + 1, left)

/-- A power of ten as a double. -/
def tenTo (n : Nat) : Binary64 := (Binary64.ofNat? (Nat.pow 10 n)).getD .zero

/-- The double of a significand and a power of ten.  A power within the doubles is one
operation; a smaller one is taken in steps, and a larger one is no number. -/
def scaled : Nat → Binary64 → Int → Option Binary64
  | 0, x, _ => some x
  | fuel + 1, x, power =>
      if power.natAbs ≤ 308 then
        if power ≥ 0 then x.mul? (tenTo power.natAbs) else x.div? (tenTo power.natAbs)
      else if x.isZero then some x
      else if power ≥ 0 then none
      else (x.div? (tenTo 308)).bind fun x => scaled fuel x (power + 308)

/-- The double of a sign, a significand and a power of ten, at the end of a number. -/
def floatAt (here : Cursor) (negative : Bool) (n : Nat) (power : Int) :
    Except Fault (Atom × Cursor) :=
  match (Binary64.ofNat? n).bind fun x => scaled 8 x power with
  | some x => .ok (.float { x with negative := negative }, here)
  | none => .error (here.fault .numberOutOfRange)

/-- The largest exponent of 32 bits. -/
def maxExponent : Nat := 2_147_483_647

/-- The digits of an exponent up to the one that makes it too large. -/
def exponentDigits (n : Nat) (here : Cursor) : List Char → Option Nat × Cursor
  | [] => (some n, here)
  | c :: cs =>
      let here : Cursor := ⟨here.rest.drop 1, here.place.next c⟩
      let n' := n * 10 + Decimal.digitValue c
      if maxExponent < n' then (none, here) else exponentDigits n' here cs

/-- The sign of an exponent: whether it is below zero, and the cursor after the sign. -/
def exponentSign (here : Cursor) : Bool × Cursor :=
  match here.rest with
  | '+' :: rest => (false, ⟨rest, here.place.next '+'⟩)
  | '-' :: rest => (true, ⟨rest, here.place.next '-'⟩)
  | _ => (false, here)

/-- Reads the exponent whose letter is at the cursor. -/
def readExponent (negative : Bool) (n : Nat) (power : Int) (here : Cursor) :
    Except Fault (Atom × Cursor) :=
  let (below, here) := exponentSign ⟨here.rest.drop 1, here.place.next 'e'⟩
  match here.rest with
  | [] => .error (here.fault .eofInValue)
  | c :: _ =>
      if c.isDigit then
        match exponentDigits 0 here (here.rest.takeWhile Char.isDigit) with
        | (some e, here) => floatAt here negative n (if below then power - e else power + e)
        | (none, here) =>
            if n ≠ 0 ∧ !below then .error (here.fault .numberOutOfRange)
            else .ok (.float { Binary64.zero with negative := negative }, here.pass Char.isDigit)
      else .error (here.peekFault .invalidNumber)

/-- Reads the fraction whose point is at the cursor. -/
def readFraction (negative : Bool) (n : Nat) (power : Int) (here : Cursor) :
    Except Fault (Atom × Cursor) :=
  let here : Cursor := ⟨here.rest.drop 1, here.place.next '.'⟩
  let ds := here.rest.takeWhile Char.isDigit
  let (n, added, _) := significand n ds
  let after := here.pass Char.isDigit
  match ds, after.rest with
  | [], [] => .error (after.fault .eofInValue)
  | [], _ => .error (after.peekFault .invalidNumber)
  | _, 'e' :: _ => readExponent negative n (power - added) after
  | _, 'E' :: _ => readExponent negative n (power - added) after
  | _, _ => floatAt after negative n (power - added)

/-- A whole number of the significand, where 64 bits hold it; a double elsewhere. -/
def wholeAt (here : Cursor) (negative : Bool) (n : Nat) : Except Fault (Atom × Cursor) :=
  if !negative then .ok (.integer n, here)
  else if 0 < n ∧ n ≤ 9_223_372_036_854_775_808 then .ok (.integer (-(n : Int)), here)
  else floatAt here true n 0

/-- Reads a number after its sign. -/
def readUnsigned (negative : Bool) (here : Cursor) : Except Fault (Atom × Cursor) :=
  let ds := here.rest.takeWhile Char.isDigit
  let after := here.pass Char.isDigit
  match here.rest, ds with
  | [], _ => .error (here.fault .eofInValue)
  | _, [] => .error (here.peekFault .invalidNumber)
  | _, '0' :: _ :: _ =>
      let second : Cursor := ⟨here.rest.drop 1, here.place.next '0'⟩
      .error (second.peekFault .invalidNumber)
  | _, _ =>
      let (n, _, left) := significand 0 ds
      match after.rest with
      | '.' :: _ => readFraction negative n left after
      | 'e' :: _ => readExponent negative n left after
      | 'E' :: _ => readExponent negative n left after
      | _ => if left = 0 then wholeAt after negative n else floatAt after negative n left

/-- Reads the number at the cursor. -/
def readNumber (here : Cursor) : Except Fault (Atom × Cursor) :=
  match here.rest with
  | '-' :: rest => readUnsigned true ⟨rest, here.place.next '-'⟩
  | _ => readUnsigned false here

/-- Passes over the exponent whose letter is at the cursor. -/
def passExponent (here : Cursor) : Except Fault Cursor :=
  let (_, here) := exponentSign ⟨here.rest.drop 1, here.place.next 'e'⟩
  match here.rest with
  | [] => .error (here.fault .invalidNumber)
  | c :: _ =>
      if c.isDigit then .ok (here.pass Char.isDigit)
      else .error (here.peekFault .invalidNumber)

/-- Passes over the number at the cursor. -/
def passNumber (here : Cursor) : Except Fault Cursor :=
  let here : Cursor := match here.rest with
    | '-' :: rest => ⟨rest, here.place.next '-'⟩
    | _ => here
  let ds := here.rest.takeWhile Char.isDigit
  let after := here.pass Char.isDigit
  match ds with
  | [] => .error (here.peekFault .invalidNumber)
  | '0' :: _ :: _ =>
      let second : Cursor := ⟨here.rest.drop 1, here.place.next '0'⟩
      .error (second.peekFault .invalidNumber)
  | _ =>
      match after.rest with
      | '.' :: rest =>
          let point : Cursor := ⟨rest, after.place.next '.'⟩
          let stop := point.pass Char.isDigit
          match rest.takeWhile Char.isDigit, stop.rest with
          | [], _ => .error (stop.peekFault .invalidNumber)
          | _, 'e' :: _ => passExponent stop
          | _, 'E' :: _ => passExponent stop
          | _, _ => .ok stop
      | 'e' :: _ => passExponent after
      | 'E' :: _ => passExponent after
      | _ => .ok after

/-! ## Texts -/

/-- The number of four digits in base sixteen. -/
def hex4? (a b c d : Char) : Option Nat := Hexadecimal.number? [a, b, c, d]

/-- The character of an escape of one letter. -/
def escaped? : Char → Option Char
  | '"' => some '"'
  | '\\' => some '\\'
  | '/' => some '/'
  | 'b' => some '\x08'
  | 'f' => some '\x0c'
  | 'n' => some '\n'
  | 'r' => some '\r'
  | 't' => some '\t'
  | _ => none

def isLeadingSurrogate (n : Nat) : Bool := 0xD800 ≤ n && n ≤ 0xDBFF

def isTrailingSurrogate (n : Nat) : Bool := 0xDC00 ≤ n && n ≤ 0xDFFF

/-- The fault of an escape by number whose four digits are not all there. -/
def hexFault (p : Position) (cs : List Char) : Fault :=
  if Text.byteLength cs < 4 then ⟨.eofInText, some (Cursor.placeAfter p cs)⟩
  else ⟨.invalidEscape, some (p.bytes 4 cs)⟩

/-- The fault of a leading surrogate without the escape of a trailing one after it. -/
def pairFault (p : Position) : List Char → Fault
  | [] => ⟨.eofInText, some p⟩
  | '\\' :: [] => ⟨.eofInText, some (p.next '\\')⟩
  | '\\' :: 'u' :: rest => hexFault ((p.next '\\').next 'u') rest
  | '\\' :: rest => ⟨.unexpectedEscapeEnd, some ((p.next '\\').peek rest)⟩
  | rest => ⟨.unexpectedEscapeEnd, some (p.peek rest)⟩

/-- The place after an escape by number. -/
def afterHex (p : Position) : Position := ⟨p.line, p.column + 6⟩

/-- Reads a text up to its closing quote; `read` holds what was read, the last character first. -/
def readText (read : List Char) (p : Position) : List Char → Except Fault (List Char × Cursor)
  | [] => .error ⟨.eofInText, some p⟩
  | '"' :: rest => .ok (read.reverse, ⟨rest, p.next '"'⟩)
  | '\\' :: 'u' :: a :: b :: c :: d :: rest =>
      match hex4? a b c d with
      | none => .error (hexFault ((p.next '\\').next 'u') (a :: b :: c :: d :: rest))
      | some n =>
          if isTrailingSurrogate n then .error ⟨.loneSurrogate, some (afterHex p)⟩
          else if isLeadingSurrogate n then
            match rest with
            | '\\' :: 'u' :: e :: f :: g :: h :: rest' =>
                match hex4? e f g h with
                | none => .error (pairFault (afterHex p) rest)
                | some m =>
                    if isTrailingSurrogate m then
                      let joined := (n - 0xD800) * 0x400 + (m - 0xDC00) + 0x10000
                      readText (Char.ofNat joined :: read) (afterHex (afterHex p)) rest'
                    else .error ⟨.loneSurrogate, some (afterHex (afterHex p))⟩
            | _ => .error (pairFault (afterHex p) rest)
          else readText (Char.ofNat n :: read) (afterHex p) rest
  | '\\' :: 'u' :: rest => .error (hexFault ((p.next '\\').next 'u') rest)
  | '\\' :: [] => .error ⟨.eofInText, some (p.next '\\')⟩
  | '\\' :: c :: rest =>
      match escaped? c with
      | some e => readText (e :: read) ((p.next '\\').next c) rest
      | none => .error ⟨.invalidEscape, some ((p.next '\\').peek (c :: rest))⟩
  | c :: rest =>
      if c.toNat < 0x20 then .error ⟨.controlCharacter, some (p.next c)⟩
      else readText (c :: read) (p.next c) rest
termination_by cs => cs.length

/-- Passes over a text up to its closing quote. -/
def passText (p : Position) : List Char → Except Fault Cursor
  | [] => .error ⟨.eofInText, some p⟩
  | '"' :: rest => .ok ⟨rest, p.next '"'⟩
  | '\\' :: 'u' :: a :: b :: c :: d :: rest =>
      match hex4? a b c d with
      | none => .error (hexFault ((p.next '\\').next 'u') (a :: b :: c :: d :: rest))
      | some _ => passText (afterHex p) rest
  | '\\' :: 'u' :: rest => .error (hexFault ((p.next '\\').next 'u') rest)
  | '\\' :: [] => .error ⟨.eofInText, some (p.next '\\')⟩
  | '\\' :: c :: rest =>
      match escaped? c with
      | some _ => passText ((p.next '\\').next c) rest
      | none => .error ⟨.invalidEscape, some ((p.next '\\').peek (c :: rest))⟩
  | c :: rest =>
      if c.toNat < 0x20 then .error ⟨.controlCharacter, some (p.next c)⟩
      else passText (p.next c) rest

end AuditReminder.Json
