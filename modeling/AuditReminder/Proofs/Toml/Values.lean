/-
Values of TOML on the lines of their keys.

A number is one run of digits, perhaps behind a minus, and so it is no time and has no fraction: a
time has a second minus or a colon, a fraction has a point or an exponent.  It is read back if 64
bits hold it, as the digits of a number never begin with a zero too many (`readScalar_signed`).

Texts and numbers are what a configuration writes on a line (`readValue_inline`).
-/
import AuditReminder.Proofs.Decimal
import AuditReminder.Proofs.Toml.Texts
import AuditReminder.Toml.Printer
import AuditReminder.Toml.Reader

namespace AuditReminder

namespace Toml

open Decimal

theorem digitsOf?_digits {ds : List Char} (h : ∀ c ∈ ds, c.isDigit = true) {before : Bool}
    (hsome : before = true ∨ ds ≠ []) : digitsOf? Char.isDigit before ds = some ds := by
  induction ds generalizing before with
  | nil =>
      obtain rfl := hsome.resolve_right fun hne => hne rfl
      rfl
  | cons c ds ih =>
      have hc := h c List.mem_cons_self
      have hne : c ≠ '_' := by
        rintro rfl
        cases hc
      rw [digitsOf?, if_neg hne, if_pos hc,
        ih (fun d hd => h d (List.mem_cons_of_mem c hd)) (Or.inl rfl)]
      rfl

theorem decimal?_digits (n : Nat) : decimal? (digits n) = some n := by
  have hdigits : digitsOf? Char.isDigit false (digits n) = some (digits n) :=
    digitsOf?_digits (fun c hc => isDigit_of_mem_digits hc) (Or.inr (digits_ne_nil n))
  unfold decimal?
  split
  · next second rest he =>
    cases eq_nil_of_digits he
  · rw [hdigits, Option.map_some, value_digits]

theorem dropSign_signed (n : Int) : dropSign (signed n) = (decide (n < 0), digits n.natAbs) := by
  rcases signed_cases n with ⟨hneg, he⟩ | ⟨hneg, he⟩
  · rw [he, decide_eq_true hneg]
    rfl
  · rw [he, decide_eq_false hneg]
    unfold dropSign
    split
    · next rest hminus =>
      have hdigit : '-' ∈ digits n.natAbs := hminus ▸ List.mem_cons_self
      cases isDigit_of_mem_digits hdigit
    · next rest hplus =>
      have hdigit : '+' ∈ digits n.natAbs := hplus ▸ List.mem_cons_self
      cases isDigit_of_mem_digits hdigit
    · rfl

/-! ## What a number is not -/

theorem afterDate?_signed (n : Int) : afterDate? (signed n) = none := by
  unfold afterDate?
  split
  · next he =>
    have hminus : '-' ∈ (signed n).tail := by
      rw [he]
      simp
    cases isDigit_of_mem_tail hminus
  · rfl

theorem afterClock?_signed (n : Int) : afterClock? (signed n) = none := by
  unfold afterClock?
  split
  · next he =>
    have hcolon : ':' ∈ (signed n).tail := by
      rw [he]
      simp
    cases isDigit_of_mem_tail hcolon
  · rfl

theorem isMoment_signed (n : Int) : isMoment (signed n) = false := by
  rw [isMoment, afterDate?_signed, afterClock?_signed]
  rfl

theorem isFractional_digits (n : Nat) : isFractional (digits n) = false := by
  have hdigits : ∀ c ∈ digits n, (c != '.' && !marksExponent c) = true := by
    intro c hc
    have hdigit := isDigit_of_mem_digits hc
    have hne {d : Char} (hd : d.isDigit = false) : c ≠ d := by
      rintro rfl
      rw [hd] at hdigit
      cases hdigit
    simp [marksExponent, hne (d := '.') rfl, hne (d := 'e') rfl, hne (d := 'E') rfl]
  have hwhole : (digits n ++ []).takeWhile (fun c => c != '.' && !marksExponent c)
      = digits n ++ [].takeWhile _ := List.takeWhile_append_of_pos hdigits
  rw [List.takeWhile_nil, List.append_nil] at hwhole
  rw [isFractional, hwhole, List.drop_length, decimal?_digits]

theorem float?_signed (n : Int) : float? (signed n) = none := by
  have hword {c : Char} {more : List Char} (hc : c.isDigit = false) :
      digits n.natAbs ≠ c :: more := by
    intro he
    have hmem : c ∈ digits n.natAbs := he ▸ List.mem_cons_self
    rw [isDigit_of_mem_digits hmem] at hc
    cases hc
  rw [float?, dropSign_signed]
  refine if_neg ?_
  rintro (hinf | hnan | hfraction)
  · exact hword (by decide) hinf
  · exact hword (by decide) hnan
  · rw [isFractional_digits] at hfraction
    cases hfraction

/-! ## Reading a number -/

theorem integer?_signed {n : Int} (h : isInt64 n = true) :
    integer? (signed n) = some (.integer n) := by
  have hbase {c : Char} {rest : List Char} (hc : c.isDigit = false) :
      signed n ≠ '0' :: c :: rest := by
    intro he
    have hmem : c ∈ (signed n).tail := he ▸ List.mem_cons_self
    rw [isDigit_of_mem_tail hmem] at hc
    cases hc
  unfold integer?
  split
  · next he => exact (hbase (by decide) he).elim
  · next he => exact (hbase (by decide) he).elim
  · next he => exact (hbase (by decide) he).elim
  · rw [dropSign_signed]
    have hvalue : (if decide (n < 0) = true then -(n.natAbs : Int) else n.natAbs) = n := by
      split
      · next hneg =>
        have hneg := of_decide_eq_true hneg
        omega
      · next hneg =>
        have hneg : ¬ n < 0 := fun hn => hneg (decide_eq_true hn)
        omega
    simp only [decimal?_digits, bind, Option.bind, hvalue, checked?, h]
    rfl

theorem ofToken?_signed {n : Int} (h : isInt64 n = true) :
    ofToken? (signed n) = some (.integer n) := by
  have hword {c : Char} {more : List Char} (hminus : c ≠ '-') (hc : c.isDigit = false) :
      signed n ≠ c :: more := by
    intro he
    have hmem : c ∈ signed n := he ▸ List.mem_cons_self
    rcases mem_signed hmem with hm | hd
    · exact hminus hm
    · rw [hd] at hc
      cases hc
  rw [ofToken?, if_neg (hword (by decide) (by decide)), if_neg (hword (by decide) (by decide)),
    isMoment_signed, float?_signed, integer?_signed h]
  rfl

theorem takeWhile_signed (n : Int) (rest : List Char) :
    (signed n ++ '\n' :: rest).takeWhile isTokenChar = signed n := by
  have htoken : ∀ c ∈ signed n, isTokenChar c = true := by
    intro c hc
    rcases mem_signed hc with rfl | hdigit
    · decide
    · simp [isTokenChar, Char.isAlphanum, hdigit]
  rw [List.takeWhile_append_of_pos htoken]
  exact List.append_nil _

/-- A number is read back up to the end of its line. -/
theorem readScalar_signed {n : Int} (h : isInt64 n = true) (rest : List Char) :
    readScalar (signed n ++ '\n' :: rest) = .ok (.integer n, '\n' :: rest) := by
  have hlength : tokenLength (signed n ++ '\n' :: rest) = (signed n).length := by
    rw [tokenLength, takeWhile_signed, List.drop_left]
    split
    · next he => cases he
    · rfl
  rw [readScalar, hlength, List.take_left, List.drop_left, ofToken?_signed h]

/-! ## Values on a line -/

/-- A text, or a number that 64 bits hold. -/
def IsPlainValue : Toml → Prop
  | .text _ => True
  | .integer n => isInt64 n = true
  | _ => False

/-- A text begins with a quote. -/
theorem head_writeText (s : String) :
    ∃ more, writeText s = '"' :: more ∨ writeText s = '\x27' :: more := by
  simp only [writeText]
  cases Form.of s.toList with
  | basic => exact ⟨_, Or.inl rfl⟩
  | literal => exact ⟨_, Or.inr rfl⟩
  | basicLines => exact ⟨_, Or.inl rfl⟩
  | literalLines => exact ⟨_, Or.inr rfl⟩

theorem head_inline {value : Toml} (h : value.IsPlainValue) :
    ∃ c more, inline value = c :: more ∧ isSpace c = false := by
  cases value with
  | text s =>
      obtain ⟨more, he | he⟩ := head_writeText s
      · exact ⟨'"', more, he, by decide⟩
      · exact ⟨'\x27', more, he, by decide⟩
  | integer n =>
      rcases hsigned : signed n with _ | ⟨c, more⟩
      · exact (signed_ne_nil n hsigned).elim
      · refine ⟨c, more, hsigned, Bool.eq_false_iff.mpr fun hspace => ?_⟩
        have hmem : c ∈ signed n := hsigned ▸ List.mem_cons_self
        simp only [isSpace, Bool.or_eq_true, beq_iff_eq] at hspace
        rcases hspace with rfl | rfl
        · simpa using mem_signed hmem
        · simpa using mem_signed hmem
  | float | bool | moment | list | table => exact h.elim

/-- Such a value is read back up to the end of its line. -/
theorem readValue_inline {value : Toml} (h : value.IsPlainValue) (depth : Nat) (rest : List Char) :
    readValue (depth + 1) (inline value ++ '\n' :: rest) = .ok (value, '\n' :: rest) := by
  cases value with
  | text s =>
      have hread := readText_writeText s rest
      show readValue (depth + 1) (writeText s ++ '\n' :: rest) = _
      obtain ⟨more, he | he⟩ := head_writeText s
      · rw [he, List.cons_append] at hread ⊢
        rw [readValue, hread]
        rfl
      · rw [he, List.cons_append] at hread ⊢
        rw [readValue, hread]
        rfl
  | integer n =>
      have hread := readScalar_signed h rest
      show readValue (depth + 1) (signed n ++ '\n' :: rest) = _
      rcases hsigned : signed n with _ | ⟨c, more⟩
      · exact (signed_ne_nil n hsigned).elim
      · have hne {d : Char} (hminus : d ≠ '-') (hd : d.isDigit = false) : c ≠ d := by
          rintro rfl
          have hmem : c ∈ signed n := hsigned ▸ List.mem_cons_self
          rcases mem_signed hmem with hm | hdigit
          · exact hminus hm
          · rw [hdigit] at hd
            cases hd
        rw [hsigned, List.cons_append] at hread
        rw [List.cons_append, readValue, hread]
        · exact fun _ he => hne (by decide) (by decide) (List.cons.inj he).1
        · exact fun _ he => hne (by decide) (by decide) (List.cons.inj he).1
        · exact fun _ he => hne (by decide) (by decide) (List.cons.inj he).1
        · exact fun _ he => hne (by decide) (by decide) (List.cons.inj he).1
  | float | bool | moment | list | table => exact h.elim

end Toml

end AuditReminder
