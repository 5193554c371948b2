/-
Numbers, truth values and times of TOML.

Each of them is one unbroken run of letters, digits and a few signs, so the run is taken first and
then told apart by its spelling; only a date and a time of day may have a space between them.
Underscores may stand between two digits.  Main definitions: `ofToken?` and `readScalar`.
-/
import AuditReminder.Number.Binary64
import AuditReminder.Number.Bounds
import AuditReminder.Number.Hexadecimal
import AuditReminder.Time.Calendar
import AuditReminder.Toml.Text

namespace AuditReminder.Toml

/-! ## Digits -/

/-- The digits of a run in which single underscores stand between digits; `before` tells whether
a digit stands before it. -/
def digitsOf? (isDigit : Char → Bool) (before : Bool) : List Char → Option (List Char)
  | [] => if before then some [] else none
  | c :: rest =>
      if c = '_' then
        if before then digitsOf? isDigit false rest else none
      else if isDigit c then (digitsOf? isDigit true rest).map (c :: ·)
      else none

/-- A run of decimal digits of which the first may be zero only if it is the only one. -/
def decimal? (cs : List Char) : Option Nat :=
  match cs with
  | '0' :: _ :: _ => none
  | _ => (digitsOf? Char.isDigit false cs).map Decimal.value

/-- A whole number, if 64 bits hold it. -/
def checked? (n : Int) : Option Toml :=
  if isInt64 n then some (.integer n) else none

/-- A whole number in another base. -/
def based? (base : Nat) (cs : List Char) : Option Toml := do
  let isDigit := fun c => match Hexadecimal.value? c with
    | some d => decide (d < base)
    | none => false
  let digits ← digitsOf? isDigit false cs
  let values ← digits.mapM Hexadecimal.value?
  checked? (values.foldl (fun n d => n * base + d) 0 : Nat)

/-- A run without the sign in front of it, and whether that is a minus. -/
def dropSign : List Char → Bool × List Char
  | '-' :: rest => (true, rest)
  | '+' :: rest => (false, rest)
  | cs => (false, cs)

/-- A whole number. -/
def integer? : List Char → Option Toml
  | '0' :: 'x' :: rest => based? 16 rest
  | '0' :: 'o' :: rest => based? 8 rest
  | '0' :: 'b' :: rest => based? 2 rest
  | cs => do
      let (negative, cs) := dropSign cs
      let n ← decimal? cs
      checked? (if negative then -(n : Int) else n)

/-! ## Floating-point numbers -/

/-- Whether the double nearest to `digits * 10 ^ power` is finite. -/
def isFinite (digits : Nat) (power : Int) : Bool :=
  let lead := ((Decimal.digits digits).length : Int) + power
  if digits = 0 ∨ lead < -400 then true
  else if 400 < lead then false
  else if power < 0 then (Binary64.ofRatio? digits (Nat.pow 10 power.natAbs)).isSome
  else (Binary64.ofRatio? (digits * Nat.pow 10 power.natAbs) 1).isSome

/-- The exponent after a significand. -/
def exponent? : List Char → Option Int
  | [] => some 0
  | c :: rest =>
      if c = 'e' ∨ c = 'E' then
        let (negative, rest) := dropSign rest
        (digitsOf? Char.isDigit false rest).map fun ds =>
          if negative then -(Decimal.value ds : Int) else Decimal.value ds
      else none

/-- Whether a character may begin an exponent. -/
def marksExponent (c : Char) : Bool := c == 'e' || c == 'E'

/-- Whether a run without its sign is a number with a fraction, an exponent, or both. -/
def isFractional (cs : List Char) : Bool :=
  let whole := cs.takeWhile fun c => c != '.' && !marksExponent c
  let after := cs.drop whole.length
  match decimal? whole, after with
  | none, _ => false
  | some _, [] => false
  | some n, '.' :: rest =>
      let spelt := rest.takeWhile fun c => !marksExponent c
      match digitsOf? Char.isDigit false spelt, exponent? (rest.drop spelt.length) with
      | some ds, some e =>
          isFinite (Decimal.value (Decimal.digits n ++ ds)) (e - ds.length)
      | _, _ => false
  | some n, rest =>
      match exponent? rest with
      | some e => isFinite n e
      | none => false

/-- A floating-point number: a fraction, an exponent, or one of the words `inf` and `nan`. -/
def float? (cs : List Char) : Option Toml :=
  let unsigned := (dropSign cs).2
  if unsigned = ['i', 'n', 'f'] ∨ unsigned = ['n', 'a', 'n'] ∨ isFractional unsigned then
    some (.float (String.ofList cs))
  else none

/-! ## Times -/

/-- The number that two digits spell, within a bound. -/
def twoDigits? (most : Nat) (a b : Char) : Option Nat :=
  if a.isDigit && b.isDigit then
    let n := Decimal.value [a, b]
    if n ≤ most then some n else none
  else none

/-- What follows a date in front of a run. -/
def afterDate? : List Char → Option (List Char)
  | y :: e :: a :: r :: '-' :: m :: n :: '-' :: d :: f :: rest =>
      if [y, e, a, r].all Char.isDigit then do
        let month ← twoDigits? 12 m n
        let day ← twoDigits? 31 d f
        if Date.isValid ⟨Decimal.value [y, e, a, r], month, day⟩ then some rest else none
      else none
  | _ => none

/-- What follows the fraction of a second. -/
def afterFraction? : List Char → Option (List Char)
  | '.' :: rest =>
      if (rest.takeWhile Char.isDigit).isEmpty then none else some (rest.dropWhile Char.isDigit)
  | cs => some cs

/-- What follows a time of day in front of a run. -/
def afterClock? : List Char → Option (List Char)
  | h :: i :: ':' :: m :: n :: ':' :: s :: t :: rest => do
      let _ ← twoDigits? 23 h i
      let _ ← twoDigits? 59 m n
      let _ ← twoDigits? 60 s t
      afterFraction? rest
  | _ => none

/-- Whether a run is an offset from UTC, or nothing. -/
def isOffset : List Char → Bool
  | [] => true
  | ['Z'] => true
  | ['z'] => true
  | [sign, h, i, ':', m, n] =>
      (sign == '+' || sign == '-') && (twoDigits? 23 h i).isSome && (twoDigits? 59 m n).isSome
  | _ => false

/-- Whether a run is a date, a time of day, or both with the letter T or a space between them. -/
def isMoment (cs : List Char) : Bool :=
  match afterDate? cs with
  | some [] => true
  | some (mark :: rest) =>
      (mark == 'T' || mark == 't' || mark == ' ') && (match afterClock? rest with
        | some offset => isOffset offset
        | none => false)
  | none => afterClock? cs == some []

/-! ## Runs -/

/-- The value that a run spells. -/
def ofToken? (cs : List Char) : Option Toml :=
  if cs = ['t', 'r', 'u', 'e'] then some (.bool true)
  else if cs = ['f', 'a', 'l', 's', 'e'] then some (.bool false)
  else if isMoment cs then some (.moment (String.ofList cs))
  else (float? cs).or (integer? cs)

/-- The characters of a run. -/
def isTokenChar (c : Char) : Bool :=
  c.isAlphanum || c == '+' || c == '-' || c == '_' || c == '.' || c == ':'

/-- The length of the run in front of a text; a date takes a time of day after a space into it. -/
def tokenLength (cs : List Char) : Nat :=
  let token := cs.takeWhile isTokenChar
  match afterDate? token, cs.drop token.length with
  | some [], ' ' :: h :: i :: ':' :: rest =>
      if h.isDigit && i.isDigit then token.length + 4 + (rest.takeWhile isTokenChar).length
      else token.length
  | _, _ => token.length

/-- A number, a truth value or a time in front of a text. -/
def readScalar : Reader Toml := fun cs =>
  let length := tokenLength cs
  match ofToken? (cs.take length) with
  | some value => .ok (value, cs.drop length)
  | none => .error cs

end AuditReminder.Toml
