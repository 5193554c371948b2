/-
Whole numbers of 64 bits, and of 32.

Numbers that are exchanged or kept have 64 bits, most of them with a sign; the version of a schema
has 32.
-/

namespace AuditReminder

/-- The least number of 64 bits with a sign. -/
def leastInt64 : Int := -9_223_372_036_854_775_808

/-- The greatest number of 64 bits with a sign. -/
def greatestInt64 : Int := 9_223_372_036_854_775_807

/-- The greatest number of 64 bits without a sign. -/
def greatestNat64 : Nat := 18_446_744_073_709_551_615

/-- Whether a number with a sign has 64 bits. -/
def isInt64 (n : Int) : Bool := leastInt64 ≤ n && n ≤ greatestInt64

theorem isInt64_iff {n : Int} : isInt64 n = true ↔ leastInt64 ≤ n ∧ n ≤ greatestInt64 := by
  simp [isInt64]

/-- Whether a number with a sign has 32 bits. -/
def isInt32 (n : Int) : Bool := -2_147_483_648 ≤ n && n ≤ 2_147_483_647

end AuditReminder
