/-
Decimal text of whole numbers.

`digits` writes a natural number without leading zeros, `padded` fills it up to a width with
zeros, `signed` puts a minus sign before a negative number.  `value` reads digits back.
Main statements: `value_digits` and `value_padded`, which say that what was written is read
back, and `length_padded`.
-/

namespace AuditReminder.Decimal

/-- The character of a digit; numbers from ten on are taken modulo ten. -/
def digit (n : Nat) : Char := Char.ofNat (48 + n % 10)

/-- The number a digit stands for; any other character stands for zero. -/
def digitValue (c : Char) : Nat := if c.isDigit then c.toNat - 48 else 0

theorem digitValue_digit (n : Nat) : digitValue (digit n) = n % 10 := by
  have h : ∀ k : Fin 10, digitValue (digit k.val) = k.val := by decide
  have := h ⟨n % 10, Nat.mod_lt _ (by decide)⟩
  simpa [digit] using this

theorem isDigit_digit (n : Nat) : (digit n).isDigit = true := by
  have h : ∀ k : Fin 10, (digit k.val).isDigit = true := by decide
  have := h ⟨n % 10, Nat.mod_lt _ (by decide)⟩
  simpa [digit] using this

/-- The digits of a number, the most significant first, without leading zeros. -/
def digits (n : Nat) : List Char :=
  if n < 10 then [digit n] else digits (n / 10) ++ [digit n]
termination_by n

/-- Digits read as a number. -/
def value (cs : List Char) : Nat := cs.foldl (fun n c => n * 10 + digitValue c) 0

/-- The digits of a number filled up to `width` with zeros in front. -/
def padded (width n : Nat) : List Char :=
  List.replicate (width - (digits n).length) '0' ++ digits n

/-- The digits of a number filled up to `width` with spaces in front. -/
def spaced (width n : Nat) : List Char :=
  List.replicate (width - (digits n).length) ' ' ++ digits n

/-- A minus sign for a negative number, then the digits of its size. -/
def signed (n : Int) : List Char :=
  if n < 0 then '-' :: digits n.natAbs else digits n.natAbs

/-- `signed` as a text. -/
def text (n : Int) : String := String.ofList (signed n)

theorem value_append_singleton (cs : List Char) (c : Char) :
    value (cs ++ [c]) = value cs * 10 + digitValue c := by
  simp [value, List.foldl_append]

theorem value_digits (n : Nat) : value (digits n) = n := by
  induction n using Nat.strongRecOn with
  | ind n ih =>
    rw [digits]
    by_cases h : n < 10
    · rw [if_pos h]
      simp only [value, List.foldl_cons, List.foldl_nil, digitValue_digit]
      omega
    · rw [if_neg h, value_append_singleton, ih (n / 10) (by omega), digitValue_digit]
      omega

theorem isDigit_of_mem_digits {n : Nat} : ∀ {c : Char}, c ∈ digits n → c.isDigit = true := by
  induction n using Nat.strongRecOn with
  | ind n ih =>
    intro c hc
    rw [digits] at hc
    by_cases h : n < 10
    · simp only [if_pos h, List.mem_singleton] at hc
      exact hc ▸ isDigit_digit n
    · simp only [if_neg h, List.mem_append, List.mem_singleton] at hc
      rcases hc with hc | hc
      · exact ih (n / 10) (by omega) hc
      · exact hc ▸ isDigit_digit n

theorem digits_ne_nil (n : Nat) : digits n ≠ [] := by
  rw [digits]
  split <;> simp

theorem value_zeros_append (k : Nat) (cs : List Char) :
    value (List.replicate k '0' ++ cs) = value cs := by
  induction k with
  | zero => rfl
  | succ k ih =>
    have : digitValue '0' = 0 := by decide
    simp only [value, List.replicate_succ, List.cons_append, List.foldl_cons, this] at ih ⊢
    simpa using ih

theorem value_padded (width n : Nat) : value (padded width n) = n := by
  rw [padded, value_zeros_append, value_digits]

theorem isDigit_of_mem_padded {width n : Nat} {c : Char} (h : c ∈ padded width n) :
    c.isDigit = true := by
  simp only [padded, List.mem_append, List.mem_replicate] at h
  rcases h with ⟨_, rfl⟩ | h
  · decide
  · exact isDigit_of_mem_digits h

/-- A number below `10 ^ width` has at most `width` digits. -/
theorem length_digits_le {width n : Nat} (h : n < Nat.pow 10 width) (hw : 0 < width) :
    (digits n).length ≤ width := by
  induction width generalizing n with
  | zero => omega
  | succ w ih =>
    rw [digits]
    by_cases hn : n < 10
    · simp [hn]
    · have hw' : 0 < w := by
        rcases Nat.eq_zero_or_pos w with rfl | hw'
        · simp at h; omega
        · exact hw'
      have : n / 10 < Nat.pow 10 w := by
        rw [Nat.div_lt_iff_lt_mul (by decide)]
        simpa [Nat.pow_succ] using h
      simp [hn, ih this hw']

theorem length_padded {width n : Nat} (h : n < Nat.pow 10 width) (hw : 0 < width) :
    (padded width n).length = width := by
  have := length_digits_le h hw
  simp only [padded, List.length_append, List.length_replicate]
  omega

end AuditReminder.Decimal
