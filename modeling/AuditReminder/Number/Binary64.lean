/-
Double-precision numbers.

A finite double is a sign and a whole number times a power of two: below 2 ^ 53, and with an
exponent of at least −1074.  `ofRatio?` rounds a quotient to the nearest double, ties to the even
one; `shortest` finds the fewest decimal digits that round back to a double, and of those the
nearest.  Everything is done in whole numbers, so the results do not hang on a machine.
-/
import AuditReminder.Text.Decimal

namespace AuditReminder

/-- A finite double: `mantissa * 2 ^ exponent`, with its sign. -/
structure Binary64 where
  negative : Bool
  mantissa : Nat
  exponent : Int
deriving DecidableEq

namespace Binary64

def zero : Binary64 := ⟨false, 0, -1074⟩

/-- The quotient of two whole numbers, to the nearest, ties to even. -/
def roundDiv (numerator denominator : Nat) : Nat :=
  let q := numerator / denominator
  let r := numerator % denominator
  if 2 * r < denominator then q
  else if denominator < 2 * r then q + 1
  else if q % 2 = 0 then q else q + 1

/-- A numerator and a denominator for `numerator / denominator / 2 ^ exponent`. -/
def scale (numerator denominator : Nat) (exponent : Int) : Nat × Nat :=
  if exponent < 0 then (numerator * Nat.pow 2 exponent.natAbs, denominator)
  else (numerator, denominator * Nat.pow 2 exponent.natAbs)

/-- The exponent that leaves 53 bits before the point, or the least exponent. -/
def fittingExponent (numerator denominator : Nat) : Int :=
  let start : Int := (numerator.log2 : Int) - denominator.log2 - 53
  let fits := fun (e : Int) =>
    let (n, d) := scale numerator denominator e
    n < d * Nat.pow 2 53
  let chosen := if fits start then start else if fits (start + 1) then start + 1 else start + 2
  max (-1074) chosen

/-- The double nearest to a quotient; there is none past the largest. -/
def ofRatio? (numerator denominator : Nat) : Option Binary64 :=
  if numerator = 0 then some zero
  else
    let e := fittingExponent numerator denominator
    let (n, d) := scale numerator denominator e
    let m := roundDiv n d
    if Nat.pow 2 53 ≤ m then
      if e + 1 + 52 > 1023 then none else some ⟨false, m / 2, e + 1⟩
    else if e + 52 > 1023 ∧ Nat.pow 2 52 ≤ m then none
    else some ⟨false, m, e⟩

def ofNat? (n : Nat) : Option Binary64 := ofRatio? n 1

def isZero (x : Binary64) : Bool := x.mantissa == 0

def neg (x : Binary64) : Binary64 := { x with negative := !x.negative }

/-- The size of a double as a quotient. -/
def ratio (x : Binary64) : Nat × Nat :=
  if x.exponent < 0 then (x.mantissa, Nat.pow 2 x.exponent.natAbs)
  else (x.mantissa * Nat.pow 2 x.exponent.natAbs, 1)

/-- The product of the sizes of two doubles, rounded. -/
def mul? (x y : Binary64) : Option Binary64 :=
  ofRatio? (x.ratio.1 * y.ratio.1) (x.ratio.2 * y.ratio.2)

/-- The quotient of the sizes of two doubles, rounded; `y` is not zero. -/
def div? (x y : Binary64) : Option Binary64 :=
  ofRatio? (x.ratio.1 * y.ratio.2) (x.ratio.2 * y.ratio.1)

/-- A decimal number: its digits as a whole number, and the power of ten of the last of them. -/
structure Scientific where
  digits : Nat
  power : Int
deriving DecidableEq

/-- Whether `digits * 10 ^ power` rounds to a double: it lies between the middles to its two
neighbours, which belong to it when its mantissa is even.  Everything is compared in quarters of
the last place. -/
def roundsTo (x : Binary64) (digits : Nat) (power : Int) : Bool :=
  let quarters := 4 * x.mantissa
  let below := if x.mantissa = Nat.pow 2 52 ∧ x.exponent > -1074 then quarters - 1 else quarters - 2
  let above := quarters + 2
  let tens := Nat.pow 10 power.natAbs
  let twos := Nat.pow 2 (x.exponent - 2).natAbs
  let left := fun (q : Nat) => if x.exponent - 2 < 0 then q else q * twos
  let right := fun (q : Nat) => if x.exponent - 2 < 0 then q * twos else q
  let left := fun (q : Nat) => if power < 0 then left q * tens else left q
  let right := fun (q : Nat) => if power < 0 then right q else right q * tens
  if x.mantissa % 2 = 0 then left below ≤ right digits && right digits ≤ left above
  else left below < right digits && right digits < left above

/-- The power of ten of the first digit of a quotient that is not zero. -/
def leadingPower (numerator denominator : Nat) : Int :=
  if denominator ≤ numerator then ((Decimal.digits (numerator / denominator)).length : Int) - 1
  else
    let inverse := (Decimal.digits (denominator / numerator)).length
    if denominator ≤ numerator * Nat.pow 10 (inverse - 1) then -((inverse : Int) - 1)
    else -(inverse : Int)

/-- The decimal of a number of digits nearest to a double, when one of that many rounds to it. -/
def nearest? (x : Binary64) (count : Nat) : Option Scientific :=
  let (numerator, denominator) := x.ratio
  let power := leadingPower numerator denominator - (count : Int) + 1
  let tens := Nat.pow 10 power.natAbs
  let (n, d) :=
    if power < 0 then (numerator * tens, denominator) else (numerator, denominator * tens)
  let low := n / d
  let lowFits := x.roundsTo low power
  let highFits := x.roundsTo (low + 1) power
  if lowFits && highFits then
    some (if 2 * (n % d) < d || (2 * (n % d) == d && low % 2 == 0) then ⟨low, power⟩
      else ⟨low + 1, power⟩)
  else if lowFits then some ⟨low, power⟩
  else if highFits then some ⟨low + 1, power⟩
  else none

/-- The decimal of the fewest digits that rounds to a double; seventeen always do. -/
def shortest (x : Binary64) : Scientific :=
  (((List.range 17).map (· + 1)).findSome? x.nearest?).getD ⟨0, 0⟩

/-- Takes zeros off the end of a decimal; no double has more than a few hundred. -/
def dropZeros : Nat → Scientific → Scientific
  | 0, d => d
  | fuel + 1, d =>
      if d.digits ≠ 0 ∧ d.digits % 10 = 0 then dropZeros fuel ⟨d.digits / 10, d.power + 1⟩ else d

/-- A double as text: positional from 1e-5 to below 1e16, with at least one digit after the
point; with an exponent and its sign elsewhere. -/
def text (x : Binary64) : String :=
  let sign : List Char := if x.negative then ['-'] else []
  if x.isZero then String.ofList (sign ++ ['0', '.', '0'])
  else
    let d := dropZeros 400 x.shortest
    let ds := Decimal.digits d.digits
    let lead : Int := ds.length - 1 + d.power
    let body : List Char :=
      if -5 ≤ lead ∧ lead ≤ 15 then
        if d.power ≥ 0 then ds ++ List.replicate d.power.toNat '0' ++ ['.', '0']
        else if lead ≥ 0 then ds.take (lead.toNat + 1) ++ '.' :: ds.drop (lead.toNat + 1)
        else '0' :: '.' :: List.replicate (-lead - 1).toNat '0' ++ ds
      else
        let mantissa := match ds with
          | [] => []
          | [c] => [c]
          | c :: rest => c :: '.' :: rest
        mantissa ++ 'e' :: (if lead < 0 then '-' else '+') ::
          Decimal.digits lead.natAbs
    String.ofList (sign ++ body)

end Binary64

end AuditReminder
