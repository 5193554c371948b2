/-
Numeric hosts.

A host whose last label is a number is an IPv4 address of one to four numbers, each decimal,
octal after a zero, or in base sixteen after `0x`; the last one fills the bytes that are left.  A
host between brackets is an IPv6 address of eight pieces, of which one run of zeros may be left
out and the last two may be an IPv4 address in its plain form.
-/
import AuditReminder.Text.Decimal
import AuditReminder.Text.Split
import AuditReminder.Url.Percent

namespace AuditReminder.Url

/-! ## IPv4 -/

/-- The base of a number and its digits. -/
def numberBase : List Char → Nat × List Char
  | '0' :: 'x' :: ds => (16, ds)
  | '0' :: 'X' :: ds => (16, ds)
  | '0' :: d :: ds => (8, d :: ds)
  | ds => (10, ds)

/-- A number of an IPv4 address; a base without digits is zero. -/
def ipv4Number? (cs : List Char) : Option Nat :=
  if cs.isEmpty then none
  else
    let (base, ds) := numberBase cs
    ds.foldlM (fun n c => do
      let d ← Hexadecimal.value? c
      if d < base then some (n * base + d) else none) 0

/-- The labels of a host, without the empty one that a final point leaves. -/
def numericLabels (cs : List Char) : List (List Char) :=
  match (Text.split '.' cs).reverse with
  | [] :: rest => if rest.isEmpty then [[]] else rest.reverse
  | labels => labels.reverse

/-- Whether a host is to be read as an IPv4 address. -/
def endsInNumber (cs : List Char) : Bool :=
  match (numericLabels cs).getLast? with
  | none => false
  | some last => !last.isEmpty && (last.all Char.isDigit || (ipv4Number? last).isSome)

/-- The number of 32 bits of an IPv4 address. -/
def ipv4? (cs : List Char) : Option Nat := do
  let labels := numericLabels cs
  if labels.length > 4 then none
  let numbers ← labels.mapM ipv4Number?
  let last ← numbers.getLast?
  let others := numbers.dropLast
  let after := Nat.pow 256 (4 - others.length)
  if after ≤ last ∨ others.any (255 < ·) then none
  else return others.foldl (256 * · + ·) 0 * after + last

/-- The four bytes of an IPv4 address, in decimal, with points between them. -/
def ipv4Text (n : Nat) : List Char :=
  Text.join '.' ([n / 16777216 % 256, n / 65536 % 256, n / 256 % 256, n % 256].map Decimal.digits)

/-! ## IPv6 -/

/-- The value of up to four digits in base sixteen. -/
def piece? (cs : List Char) : Option Nat :=
  if cs.isEmpty ∨ 4 < cs.length then none
  else Hexadecimal.number? cs

/-- A byte in decimal without leading zeros. -/
def plainByte? (cs : List Char) : Option Nat :=
  if cs.isEmpty ∨ 3 < cs.length ∨ !cs.all Char.isDigit then none
  else if 1 < cs.length ∧ cs.head? = some '0' then none
  else
    let n := Decimal.value cs
    if n ≤ 255 then some n else none

/-- The two pieces of an IPv4 address in its plain form. -/
def plainIpv4? (cs : List Char) : Option (List Nat) := do
  match ← (Text.split '.' cs).mapM plainByte? with
  | [a, b, c, d] => return [a * 256 + b, c * 256 + d]
  | _ => none

/-- The pieces between colons; the last part may be an IPv4 address where `last` is set. -/
def pieces? (last : Bool) : List (List Char) → Option (List Nat)
  | [] => some []
  | [part] =>
      if part.contains '.' then (if last then plainIpv4? part else none)
      else (piece? part).map ([·])
  | part :: rest => do
      let piece ← piece? part
      let pieces ← pieces? last rest
      return piece :: pieces

/-- The pieces of a text without a run left out. -/
def run? (last : Bool) (cs : List Char) : Option (List Nat) :=
  if cs.isEmpty then some [] else pieces? last (Text.split ':' cs)

/-- The text before the first two colons in a row, and the text after them. -/
def breakAtColons : List Char → Option (List Char × List Char)
  | ':' :: ':' :: rest => some ([], rest)
  | c :: rest => (breakAtColons rest).map fun (before, after) => (c :: before, after)
  | [] => none

/-- The eight pieces of an IPv6 address. -/
def ipv6? (cs : List Char) : Option (List Nat) :=
  match breakAtColons cs with
  | none => do
      let pieces ← if cs.isEmpty then none else pieces? true (Text.split ':' cs)
      if pieces.length = 8 then some pieces else none
  | some (before, after) => do
      let front ← run? false before
      let back ← run? true after
      if front.length + back.length ≤ 7 then
        some (front ++ List.replicate (8 - front.length - back.length) 0 ++ back)
      else none

/-- The length of the run of zeros at the front. -/
def zeroRun (pieces : List Nat) : Nat := (pieces.takeWhile (· == 0)).length

/-- The place and length of the first longest run of zeros. -/
def longestRun (pieces : List Nat) : Nat × Nat :=
  (List.range pieces.length).foldl (fun best i =>
    let length := zeroRun (pieces.drop i)
    if best.2 < length then (i, length) else best) (0, 0)

def piecesText (pieces : List Nat) : List Char :=
  Text.join ':' (pieces.map Hexadecimal.digits)

/-- An IPv6 address, with the first longest run of two or more zeros left out. -/
def ipv6Text (pieces : List Nat) : List Char :=
  let (start, length) := longestRun pieces
  if length < 2 then piecesText pieces
  else piecesText (pieces.take start) ++ ':' :: ':' :: piecesText (pieces.drop (start + length))

end AuditReminder.Url
