/-
Exchanged instants.

The exchanged text of an instant takes as many digits as the instant needs: a fraction of 0, 3, 6 or
9 of them, and a sign before a year that four digits do not hold.  The relaxed reader takes all of
this back (`readRelaxed_toText`), whatever the year, so the text tells what the calendar shows of
the instant.  That is the instant itself, also within a leap second, as long as this ends a minute.

The reader lets blanks through before a number or a mark.  None are written, as the text goes on
with a digit or with the mark itself.
-/
import AuditReminder.Proofs.Time.Stored

namespace AuditReminder

namespace Text

theorem dropBlanks_of_head {cs : List Char} (h : ∀ c ∈ cs.head?, isBlank c = false) :
    dropBlanks cs = cs := by
  cases cs with
  | nil => rfl
  | cons c cs => rw [dropBlanks, List.dropWhile_cons, h c rfl]; rfl

theorem not_isBlank_of_isDigit {c : Char} (h : c.isDigit = true) : isBlank c = false := by
  rw [Time.isDigit_iff] at h
  simp only [isBlank, Bool.or_eq_false_iff, Bool.and_eq_false_iff, decide_eq_false_iff_not,
    beq_eq_false_iff_ne]
  omega

end Text

namespace Decimal

/-- A digit comes first, whatever the width. -/
theorem padded_eq_cons (width n : Nat) : ∃ c cs, padded width n = c :: cs ∧ c.isDigit = true := by
  rcases h : padded width n with _ | ⟨c, cs⟩
  · exact absurd (List.append_eq_nil_iff.mp h).2 (digits_ne_nil n)
  · exact ⟨c, cs, rfl, isDigit_of_mem_padded (h ▸ List.mem_cons_self)⟩

end Decimal

namespace Time

theorem dropBlanks_padded (width n : Nat) (rest : List Char) :
    Text.dropBlanks (Decimal.padded width n ++ rest) = Decimal.padded width n ++ rest := by
  obtain ⟨c, cs, hcs, hc⟩ := Decimal.padded_eq_cons width n
  refine Text.dropBlanks_of_head fun d hd => ?_
  rw [hcs] at hd
  obtain rfl := Option.some.inj hd
  exact Text.not_isBlank_of_isDigit hc

/-- A number of two digits, within its bounds. -/
theorem within_padded {low high n : Nat} (rest : List Char) (h : low ≤ n ∧ n ≤ high)
    (hhigh : high < 100) :
    within low high (spacedNumber 2) (Decimal.padded 2 n ++ rest) = .ok (n, rest) := by
  have hn : n < Nat.pow 10 2 := Nat.lt_of_le_of_lt h.2 hhigh
  have hmax : n ≤ maxNumber := by
    unfold maxNumber
    omega
  have hread : number 1 (some 2) (Decimal.padded 2 n ++ rest) = .ok (n, rest) :=
    number_padded rest (by decide) (by decide) hn hmax
  simp only [within, spacedNumber, dropBlanks_padded, hread, bind, Except.bind, h, and_self,
    if_true]

theorem spacedMark_cons {c : Char} (rest : List Char) (hc : Text.isBlank c = false) :
    spacedMark c (c :: rest) = .ok ((), rest) := by
  have hdrop : Text.dropBlanks (c :: rest) = c :: rest :=
    Text.dropBlanks_of_head fun d hd => Option.some.inj hd ▸ hc
  rw [spacedMark, hdrop, mark, if_pos rfl]

/-- Behind a sign a year ends at its last digit. -/
theorem number_signed {n : Nat} (rest : List Char) (hmax : n ≤ maxNumber) :
    number 1 none (Decimal.padded 4 n ++ '-' :: rest) = .ok (n, '-' :: rest) := by
  have hmark : ∀ c ∈ ('-' :: rest).head?, c.isDigit = false := by
    rintro c ⟨⟩
    rfl
  have hlength := le_length_padded 4 n
  have hread := number_append ('-' :: rest) 1 none
    (fun c (hc : c ∈ Decimal.padded 4 n) => Decimal.isDigit_of_mem_padded hc) (by omega)
    (fun m hm => by cases hm) (.inr hmark) (by rwa [Decimal.value_padded])
  rwa [Decimal.value_padded] at hread

/-- Four digits are a year, as what comes first is no sign. -/
theorem spacedYear_padded {n : Nat} (rest : List Char) (hn : n < 10_000) :
    spacedYear (Decimal.padded 4 n ++ rest) = .ok ((n : Int), rest) := by
  have hread : number 1 (some 4) (Decimal.padded 4 n ++ rest) = .ok (n, rest) :=
    number_padded rest (by decide) (by decide) hn (by unfold maxNumber; omega)
  have hchecked : spacedYear.checked (n : Int) rest = .ok ((n : Int), rest) := if_pos (by omega)
  obtain ⟨c, cs, hcs, hc⟩ := Decimal.padded_eq_cons 4 n
  have hminus : c ≠ '-' := by rintro rfl; cases hc
  have hplus : c ≠ '+' := by rintro rfl; cases hc
  rw [spacedYear, dropBlanks_padded]
  rw [hcs, List.cons_append] at hread ⊢
  split
  · next heq => exact absurd (List.cons.inj heq).1 hminus
  · next heq => exact absurd (List.cons.inj heq).1 hplus
  · rw [hread]
    exact hchecked

/-- A year is read back, with its sign where it has one. -/
theorem spacedYear_yearText {year : Int} (rest : List Char)
    (h : -262143 ≤ year ∧ year ≤ 262142) :
    spacedYear (yearText year ++ '-' :: rest) = .ok (year, '-' :: rest) := by
  have hchecked : spacedYear.checked year ('-' :: rest) = .ok (year, '-' :: rest) :=
    if_pos (by omega)
  have hsigned := number_signed rest (show year.natAbs ≤ maxNumber by unfold maxNumber; omega)
  unfold yearText
  split
  · next hplain =>
    have hnat : (year.natAbs : Int) = year := by omega
    rw [spacedYear_padded _ (show year.natAbs < 10_000 by omega), hnat]
  · split
    · next hbelow =>
      have hnat : -(year.natAbs : Int) = year := by omega
      rw [spacedYear, Text.dropBlanks_of_head (by rintro c ⟨⟩; rfl), List.cons_append]
      simp only [hsigned, bind, Except.bind, hnat]
      exact hchecked
    · next habove =>
      have hnat : (year.natAbs : Int) = year := by omega
      rw [spacedYear, Text.dropBlanks_of_head (by rintro c ⟨⟩; rfl), List.cons_append]
      simp only [hsigned, bind, Except.bind, hnat]
      exact hchecked

/-- A fraction is read back whole, whether it takes 0, 3, 6 or 9 digits. -/
theorem fraction?_fractionText {nano : Nat} (h : nano < 1_000_000_000) :
    fraction? (fractionText .asNeeded nano ++ ['Z']) = .ok (nano, ['Z']) := by
  have hzone : ∀ c ∈ ['Z'].head?, c.isDigit = false := by
    rintro c ⟨⟩
    rfl
  simp only [fractionText]
  split
  · next hzero =>
    rw [hzero]
    rfl
  · split
    · next hmilli =>
      have hwhole : nano / 1_000_000 * Nat.pow 10 (9 - 3) = nano :=
        Nat.div_mul_cancel (Nat.dvd_of_mod_eq_zero hmilli)
      rw [List.cons_append, fraction?, fraction_padded 3 ['Z'] (by decide)
        (show nano / 1_000_000 < 1_000 by omega) hzone, hwhole]
    · split
      · next hmicro =>
        have hwhole : nano / 1_000 * Nat.pow 10 (9 - 6) = nano :=
          Nat.div_mul_cancel (Nat.dvd_of_mod_eq_zero hmicro)
        rw [List.cons_append, fraction?, fraction_padded 6 ['Z'] (by decide)
          (show nano / 1_000 < 1_000_000 by omega) hzone, hwhole]
      · have hwhole : nano * Nat.pow 10 (9 - 9) = nano := Nat.mul_one nano
        rw [List.cons_append, fraction?, fraction_padded 9 ['Z'] (by decide) h hzone, hwhole]

/-- The exchanged text of an instant is read back as the instant that the calendar shows. -/
theorem readRelaxed_toText (t : Instant) : readRelaxed t.toText.toList = .ok t.shown := by
  obtain ⟨hhour, hminute, hsecond, hnano⟩ := t.civil_bounds
  obtain ⟨hmonth, hday⟩ := Date.isValid_iff.mp t.isValid_civil
  have hdays := Date.daysInMonth_le t.civil.date.year t.civil.date.month
  have hhyphen : Text.isBlank '-' = false := rfl
  have hcolon : Text.isBlank ':' = false := rfl
  have hzone : looseOffset ['Z'] = .ok (0, []) := rfl
  have hend : Text.dropBlanks [] = [] := rfl
  rw [Instant.toText, String.toList_ofList, isoText]
  simp only [dateText, clockText, List.append_assoc, List.cons_append]
  rw [readRelaxed]
  -- each part is read as it was written, and what follows it is left
  simp only [spacedYear_yearText _ t.civil_year, spacedMark_cons _ hhyphen,
    spacedMark_cons _ hcolon, within_padded _ hmonth (show 12 < 100 by decide),
    within_padded _ (show 1 ≤ t.civil.date.day ∧ t.civil.date.day ≤ 31 by omega) (by decide),
    within_padded _ (show 0 ≤ t.civil.hour ∧ t.civil.hour ≤ 23 by omega) (by decide),
    within_padded _ (show 0 ≤ t.civil.minute ∧ t.civil.minute ≤ 59 by omega) (by decide),
    within_padded _ (show 0 ≤ t.civil.second ∧ t.civil.second ≤ 60 by omega) (by decide),
    fraction?_fractionText hnano, dateTimeMark, hzone, hend, bind, Except.bind, true_or, if_true,
    ne_eq, not_true_eq_false, if_false]
  exact assemble_civil t

end Time

end AuditReminder
