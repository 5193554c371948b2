/-
Digits of whole numbers.

A number is written with digits alone, behind a minus if it is below zero, and with no zero in front
that it could do without (`eq_nil_of_digits`).  So behind its digits a text goes on with whatever is
no digit (`takeWhile_digits`).
-/
import AuditReminder.Text.Decimal

namespace AuditReminder

namespace Decimal

/-- Only zero itself is written with a zero in front. -/
theorem eq_nil_of_digits {n : Nat} {rest : List Char} (h : digits n = '0' :: rest) : rest = [] := by
  induction n using Nat.strongRecOn generalizing rest with
  | ind n ih =>
      rw [digits] at h
      split at h
      · exact (List.cons.inj h).2.symm
      · next hbig =>
        rcases hlead : digits (n / 10) with _ | ⟨c, cs⟩
        · exact (digits_ne_nil _ hlead).elim
        · rw [hlead] at h
          obtain rfl : c = '0' := (List.cons.inj h).1
          obtain rfl := ih (n / 10) (by omega) hlead
          have hzero : value (digits (n / 10)) = 0 := by
            rw [hlead]
            decide
          rw [value_digits] at hzero
          omega

/-- A number is written with digits, and with a minus in front of them alone. -/
theorem signed_cases (n : Int) :
    (n < 0 ∧ signed n = '-' :: digits n.natAbs) ∨ (¬ n < 0 ∧ signed n = digits n.natAbs) := by
  unfold signed
  split
  · next h => exact Or.inl ⟨h, rfl⟩
  · next h => exact Or.inr ⟨h, rfl⟩

theorem mem_signed {n : Int} {c : Char} (h : c ∈ signed n) : c = '-' ∨ c.isDigit = true := by
  rcases signed_cases n with ⟨-, he⟩ | ⟨-, he⟩
  · rw [he] at h
    rcases List.mem_cons.mp h with hminus | hdigit
    · exact Or.inl hminus
    · exact Or.inr (isDigit_of_mem_digits hdigit)
  · rw [he] at h
    exact Or.inr (isDigit_of_mem_digits h)

theorem isDigit_of_mem_tail {n : Int} {c : Char} (h : c ∈ (signed n).tail) : c.isDigit = true := by
  rcases signed_cases n with ⟨-, he⟩ | ⟨-, he⟩
  · rw [he] at h
    exact isDigit_of_mem_digits h
  · rw [he] at h
    exact isDigit_of_mem_digits (List.mem_of_mem_tail h)

theorem signed_ne_nil (n : Int) : signed n ≠ [] := by
  rcases signed_cases n with ⟨-, he⟩ | ⟨-, he⟩
  · rw [he]
    exact List.cons_ne_nil _ _
  · rw [he]
    exact digits_ne_nil _

/-- Some digit comes first. -/
theorem digits_eq_cons (n : Nat) : ∃ c cs, digits n = c :: cs ∧ c.isDigit = true := by
  rcases h : digits n with _ | ⟨c, cs⟩
  · exact (digits_ne_nil n h).elim
  · exact ⟨c, cs, rfl, isDigit_of_mem_digits (h ▸ List.mem_cons_self)⟩

section Following

variable {rest : List Char} (hrest : ∀ c ∈ rest.head?, c.isDigit = false)
include hrest

/-- The digits of a number end where what follows is no digit. -/
theorem takeWhile_digits (n : Nat) : (digits n ++ rest).takeWhile Char.isDigit = digits n := by
  have hnone : rest.takeWhile Char.isDigit = [] := by
    cases rest with
    | nil => rfl
    | cons c cs => rw [List.takeWhile_cons, hrest c rfl]; rfl
  rw [List.takeWhile_append_of_pos fun c hc => isDigit_of_mem_digits hc, hnone, List.append_nil]

theorem dropWhile_digits (n : Nat) : (digits n ++ rest).dropWhile Char.isDigit = rest := by
  rw [List.dropWhile_append_of_pos fun c hc => isDigit_of_mem_digits hc]
  cases rest with
  | nil => rfl
  | cons c cs => rw [List.dropWhile_cons, hrest c rfl]; rfl

end Following

end Decimal

end AuditReminder
