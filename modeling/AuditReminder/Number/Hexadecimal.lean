/-
Numbers in base sixteen.

`digits` writes a number in lower case without leading zeros; `value?` gives the number that a
digit of either case stands for, and `number?` the number of a row of digits.  Main statement:
`number?_byte`, by which a number written in two digits is read back.
-/

namespace AuditReminder.Hexadecimal

/-- The number that a digit stands for. -/
def value? (c : Char) : Option Nat :=
  if c.isDigit then some (c.toNat - 48)
  else if 'a' ≤ c ∧ c ≤ 'f' then some (c.toNat - 87)
  else if 'A' ≤ c ∧ c ≤ 'F' then some (c.toNat - 55)
  else none

/-- The number of a row of digits; no digits stand for zero. -/
def number? (cs : List Char) : Option Nat :=
  cs.foldlM (fun n c => (value? c).map (n * 16 + ·)) 0

/-- The digits of a number. -/
def digits (n : Nat) : List Char := Nat.toDigits 16 n

/-- A number below 256 in two digits. -/
def byte (n : Nat) : List Char := [Nat.digitChar (n / 16), Nat.digitChar (n % 16)]

theorem value?_digitChar {n : Nat} (h : n < 16) : value? (Nat.digitChar n) = some n := by
  have all : ∀ k : Fin 16, value? (Nat.digitChar k.val) = some k.val := by decide
  exact all ⟨n, h⟩

theorem number?_byte {n : Nat} (h : n < 256) : number? (byte n) = some n := by
  have high := value?_digitChar (n := n / 16) (by omega)
  have low := value?_digitChar (n := n % 16) (by omega)
  simp only [number?, byte, List.foldlM, high, low, Option.map_some, Option.bind_eq_bind,
    Option.bind_some, Option.pure_def, Option.some.injEq]
  omega

end AuditReminder.Hexadecimal
