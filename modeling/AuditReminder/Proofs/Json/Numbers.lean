/-
Whole numbers in JSON.

A whole number is read back from its digits if 64 bits hold it, with a sign or without one
(`Whole`): larger ones are read as doubles.  A number ends only where what follows it cannot belong
to a number, which is so of what stands behind a value in a text (`EndsNumber`).

Main statement: `readNumber_signed`.
-/
import AuditReminder.Json.Reader
import AuditReminder.Proofs.Decimal

namespace AuditReminder.Json

open Document

/-- The number has 64 bits, with a sign or without one. -/
def Whole (n : Int) : Prop := leastInt64 ≤ n ∧ n ≤ greatestNat64

theorem whole_of_isInt64 {n : Int} (h : isInt64 n = true) : Whole n := by
  obtain ⟨hlow, hhigh⟩ := isInt64_iff.mp h
  exact ⟨hlow, Int.le_trans hhigh (by decide)⟩

/-- What follows does not belong to a number. -/
def EndsNumber (rest : List Char) : Prop :=
  ∀ c ∈ rest.head?, c.isDigit = false ∧ c ≠ '.' ∧ c ≠ 'e' ∧ c ≠ 'E'

theorem endsNumber_nil : EndsNumber [] := fun _ hc => by cases hc

theorem endsNumber_cons {c : Char} {cs : List Char} (hdigit : c.isDigit = false) (hpoint : c ≠ '.')
    (hsmall : c ≠ 'e') (hlarge : c ≠ 'E') : EndsNumber (c :: cs) := by
  intro d hd
  cases hd
  exact ⟨hdigit, hpoint, hsmall, hlarge⟩

/-! ## Significands -/

theorem le_foldl_digits (n : Nat) (ds : List Char) :
    n ≤ ds.foldl (fun n c => n * 10 + Decimal.digitValue c) n := by
  induction ds generalizing n with
  | nil => exact Nat.le_refl n
  | cons c ds ih =>
      have hrest := ih (n * 10 + Decimal.digitValue c)
      rw [List.foldl_cons]
      omega

/-- Digits are taken into a significand as long as 64 bits hold it. -/
theorem significand_of_le {n : Nat} {ds : List Char}
    (h : ds.foldl (fun n c => n * 10 + Decimal.digitValue c) n ≤ greatestNat64) :
    significand n ds
      = (ds.foldl (fun n c => n * 10 + Decimal.digitValue c) n, ds.length, 0) := by
  induction ds generalizing n with
  | nil => rfl
  | cons c ds ih =>
      rw [List.foldl_cons] at h ⊢
      have hfits : ¬ greatestNat64 < n * 10 + Decimal.digitValue c :=
        Nat.not_lt.mpr (Nat.le_trans (le_foldl_digits _ ds) h)
      rw [significand, if_neg hfits, ih h]
      rfl

theorem significand_digits {m : Nat} (h : m ≤ greatestNat64) :
    significand 0 (Decimal.digits m) = (m, (Decimal.digits m).length, 0) := by
  have hvalue : (Decimal.digits m).foldl (fun n c => n * 10 + Decimal.digitValue c) 0 = m :=
    Decimal.value_digits m
  rw [significand_of_le (Nat.le_trans (Nat.le_of_eq hvalue) h), hvalue]

/-! ## Reading -/

variable {p : Position} {rest : List Char}

/-- Behind its sign a number is read up to its last digit. -/
theorem readUnsigned_digits (negative : Bool) {m : Nat} (h : m ≤ greatestNat64)
    (hrest : EndsNumber rest) :
    readUnsigned negative ⟨Decimal.digits m ++ rest, p⟩
      = wholeAt ⟨rest, Cursor.placeAfter p (Decimal.digits m)⟩ negative m := by
  have hstop : ∀ c ∈ rest.head?, c.isDigit = false := fun c hc => (hrest c hc).1
  have hpass : Cursor.pass Char.isDigit ⟨Decimal.digits m ++ rest, p⟩
      = ⟨rest, Cursor.placeAfter p (Decimal.digits m)⟩ := by
    rw [Cursor.pass, Decimal.takeWhile_digits hstop, Decimal.dropWhile_digits hstop]
  unfold readUnsigned
  simp only [Decimal.takeWhile_digits hstop, hpass, significand_digits h]
  obtain ⟨c, cs, hdigits, -⟩ := Decimal.digits_eq_cons m
  split
  · next hnil =>
    rw [hdigits] at hnil
    cases hnil
  · next hnil _ => exact (Decimal.digits_ne_nil m hnil).elim
  · next hzero _ => cases Decimal.eq_nil_of_digits hzero
  · split
    · exact ((hrest '.' rfl).2.1 rfl).elim
    · exact ((hrest 'e' rfl).2.2.1 rfl).elim
    · exact ((hrest 'E' rfl).2.2.2 rfl).elim
    · rfl

/-- A number is read from its digits. -/
theorem readNumber_signed {n : Int} (h : Whole n) (hrest : EndsNumber rest) :
    ∃ place, readNumber ⟨Decimal.signed n ++ rest, p⟩
      = .ok (.integer n, ⟨rest, place⟩) := by
  rcases Decimal.signed_cases n with ⟨hneg, hsigned⟩ | ⟨hpos, hsigned⟩
  · refine ⟨Cursor.placeAfter (p.next '-') (Decimal.digits n.natAbs), ?_⟩
    have hsize : 0 < n.natAbs ∧ n.natAbs ≤ 9_223_372_036_854_775_808 := by
      have hlow := h.1
      rw [leastInt64] at hlow
      omega
    have hbounded : n.natAbs ≤ greatestNat64 := Nat.le_trans hsize.2 (by decide)
    have hvalue : -(n.natAbs : Int) = n := by omega
    rw [hsigned, List.cons_append]
    show readUnsigned true ⟨Decimal.digits n.natAbs ++ rest, p.next '-'⟩ = _
    rw [readUnsigned_digits true hbounded hrest, wholeAt, if_neg (by decide), if_pos hsize, hvalue]
  · refine ⟨Cursor.placeAfter p (Decimal.digits n.natAbs), ?_⟩
    have hbounded : n.natAbs ≤ greatestNat64 := by
      have hhigh := h.2
      omega
    have hvalue : (n.natAbs : Int) = n := by omega
    obtain ⟨c, cs, hdigits, hdigit⟩ := Decimal.digits_eq_cons n.natAbs
    have hminus : c ≠ '-' := by
      rintro rfl
      cases hdigit
    have hunsigned : readNumber ⟨Decimal.digits n.natAbs ++ rest, p⟩
        = readUnsigned false ⟨Decimal.digits n.natAbs ++ rest, p⟩ := by
      rw [hdigits, List.cons_append, readNumber]
      split
      · next heq => exact (hminus (List.cons.inj heq).1).elim
      · rfl
    rw [hsigned, hunsigned, readUnsigned_digits false hbounded hrest, wholeAt, if_pos (by decide),
      hvalue]

end AuditReminder.Json
