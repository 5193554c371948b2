/-
Reading the parts of a time text.

A reader takes characters from the front of a text or says why it cannot.  Numbers are read as
decimal digits within a least and a greatest count; lengths are counted in bytes, as a text too
short is told from a text with wrong characters by its length.  The offset from UTC ends a time
in both of the layouts of `Time/Text`.
-/
import AuditReminder.Text.Blank
import AuditReminder.Text.Bytes
import AuditReminder.Text.Decimal
import AuditReminder.Time.Instant

namespace AuditReminder

/-- Why a text is not a time. -/
inductive TimeFault where
  | outOfRange
  | impossible
  | invalid
  | tooShort
  | tooLong
deriving DecidableEq

namespace TimeFault

def message : TimeFault → String
  | outOfRange => "input is out of range"
  | impossible => "no possible date and time matching input"
  | invalid => "input contains invalid characters"
  | tooShort => "premature end of input"
  | tooLong => "trailing input"

end TimeFault

namespace Time

/-- What a reader finds, and the characters after it. -/
abbrev Reader (α : Type) := List Char → Except TimeFault (α × List Char)

/-- The greatest value of a number while it is read. -/
def maxNumber : Nat := 9_223_372_036_854_775_807

/-- Reads up to `most` digits on top of the number read so far; `most` of none is no bound. -/
def moreDigits : (most : Option Nat) → Nat → Reader Nat
  | some 0, n, cs => .ok (n, cs)
  | _, n, [] => .ok (n, [])
  | most, n, c :: cs =>
      if c.isDigit then
        let n' := n * 10 + Decimal.digitValue c
        if maxNumber < n' then .error .outOfRange
        else moreDigits (most.map (· - 1)) n' cs
      else .ok (n, c :: cs)

/-- Reads a number of `least` to `most` digits. -/
def number (least : Nat) (most : Option Nat) : Reader Nat := fun cs =>
  if Text.byteLength cs < least then .error .tooShort
  else if (cs.take least).all Char.isDigit then moreDigits most 0 cs
  else .error .invalid

/-- Reads a number that must lie within bounds. -/
def within (low high : Nat) (read : Reader Nat) : Reader Nat := fun cs => do
  let (n, rest) ← read cs
  if low ≤ n ∧ n ≤ high then .ok (n, rest) else .error .outOfRange

/-- Reads one given character. -/
def mark (expected : Char) : Reader Unit
  | [] => .error .tooShort
  | c :: cs => if c = expected then .ok ((), cs) else .error .invalid

/-- Nanoseconds from the digits of a fraction: nine count and the rest are passed over. -/
def fraction : Reader Nat := fun cs => do
  let (n, rest) ← number 1 (some 9) cs
  let read := cs.length - rest.length
  .ok (n * Nat.pow 10 (9 - read), rest.dropWhile Char.isDigit)

/-- Nanoseconds after a point, or zero where there is none. -/
def fraction? : Reader Nat
  | '.' :: cs => fraction cs
  | cs => .ok (0, cs)

/-- The letter between a date and a time. -/
def dateTimeMark : Reader Unit
  | [] => .error .tooShort
  | c :: cs => if c = 'T' ∨ c = 't' ∨ c = ' ' then .ok ((), cs) else .error .invalid

/-- Two digits where a number is expected, whatever their value. -/
def twoDigits (cs : List Char) : Except TimeFault (Nat × List Char) :=
  if Text.byteLength cs < 2 then .error .tooShort
  else match cs with
    | a :: b :: rest =>
        if a.isDigit && b.isDigit then
          .ok (Decimal.digitValue a * 10 + Decimal.digitValue b, rest)
        else .error .invalid
    | _ => .error .invalid

/-- The sign of an offset: ahead of UTC or behind it. -/
def offsetSign : Reader Int
  | [] => .error .tooShort
  | '+' :: cs => .ok (1, cs)
  | '-' :: cs => .ok (-1, cs)
  | '\u2212' :: cs => .ok (-1, cs)
  | _ => .error .invalid

/-- Seconds ahead of UTC: the letter Z, or a sign, hours and minutes with `separator` between
them. -/
def offset (separator : Reader Unit) : Reader Int
  | 'Z' :: cs => .ok (0, cs)
  | 'z' :: cs => .ok (0, cs)
  | cs => do
    let (sign, cs) ← offsetSign cs
    let (hours, cs) ← twoDigits cs
    let ((), cs) ← separator cs
    let (minutes, cs) ← twoDigits cs
    if minutes < 60 then .ok (sign * (hours * 3600 + minutes * 60), cs) else .error .outOfRange

/-- The instant of a date, a time of day and an offset, once all of them are read. -/
def assemble (c : Instant.Civil) (offset : Int) : Except TimeFault Instant :=
  if !c.date.isValid || c.date.year < -262143 || 262142 < c.date.year then .error .outOfRange
  else if offset ≤ -86400 ∨ 86400 ≤ offset then .error .outOfRange
  else match Instant.ofCivil? c offset with
    | some t => .ok t
    | none => .error .impossible

end Time

end AuditReminder
