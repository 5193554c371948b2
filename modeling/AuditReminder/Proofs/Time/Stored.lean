/-
Stored instants.

The database keeps an instant as text: its date, its time of day and three digits of fraction, each
in its width, so that texts can be compared in the place of instants.  This works as far as the
year has four digits (`Instant.HasPlainYear`).  What is kept of an instant then (`Instant.kept`) is
the instant that the calendar shows, without what lies below its milliseconds.

    readStrict_storedText    such a text is read back as what is kept of the instant
    readStrict_signed        the text of any other year is read back by nobody
    storedText_lt_iff        such texts are in the order of what is kept of the instants

So a leap second that ends a minute is kept as it is (`kept_eq_cut_iff`), and one that does not is
kept as the next second, and may pass by instants of that second which come after it.
-/
import AuditReminder.Proofs.Text.Bytes
import AuditReminder.Proofs.Time.Shown
import Mathlib.Tactic.Ring

namespace AuditReminder

namespace Time

/-! ## Reading digits -/

/-- One more digit. -/
def nextDigit (n : Nat) (c : Char) : Nat := n * 10 + Decimal.digitValue c

theorem le_foldl_nextDigit (ds : List Char) (n : Nat) : n ≤ ds.foldl nextDigit n := by
  induction ds generalizing n with
  | nil => exact Nat.le_refl n
  | cons c ds ih =>
      have hnext : n ≤ nextDigit n c := by
        unfold nextDigit
        omega
      exact Nat.le_trans hnext (ih _)

/-- Digits are read up to the greatest count, or to the first character that is none. -/
theorem moreDigits_append {ds rest : List Char} {most : Option Nat} (n : Nat)
    (hds : ∀ c ∈ ds, c.isDigit = true) (hmost : ∀ m ∈ most, ds.length ≤ m)
    (hrest : most = some ds.length ∨ ∀ c ∈ rest.head?, c.isDigit = false)
    (hmax : ds.foldl nextDigit n ≤ maxNumber) :
    moreDigits most n (ds ++ rest) = .ok (ds.foldl nextDigit n, rest) := by
  induction ds generalizing n most with
  | nil =>
      rcases hrest with rfl | hrest
      · cases rest <;> rfl
      · cases rest with
        | nil => rcases most with _ | _ | most <;> rfl
        | cons c cs =>
            have hc : c.isDigit = false := hrest c rfl
            rcases most with _ | _ | most <;> simp [moreDigits, hc]
  | cons c ds ih =>
      have hc : c.isDigit = true := hds c List.mem_cons_self
      have hn : ¬ maxNumber < nextDigit n c :=
        Nat.not_lt.mpr (Nat.le_trans (le_foldl_nextDigit ds _) hmax)
      have hlength : ∀ m ∈ most, ds.length + 1 ≤ m := hmost
      have hmost' : ∀ m ∈ most.map (· - 1), ds.length ≤ m := by
        intro m hm
        obtain ⟨k, hk, rfl⟩ := Option.map_eq_some_iff.mp hm
        have hk := hlength k hk
        omega
      have hnext := ih (nextDigit n c) (fun d hd => hds d (List.mem_cons_of_mem _ hd)) hmost'
        (hrest.imp_left fun h => by rw [h]; rfl) hmax
      have hstep : moreDigits most n (c :: (ds ++ rest))
          = moreDigits (most.map (· - 1)) (nextDigit n c) (ds ++ rest) := by
        unfold nextDigit at hn ⊢
        rcases most with _ | _ | most
        · rw [moreDigits, if_pos hc, if_neg hn]
          exact fun h => by cases h
        · exact absurd (hlength 0 rfl) (Nat.not_succ_le_zero _)
        · rw [moreDigits, if_pos hc, if_neg hn]
          exact fun h => by cases h
      rw [List.cons_append, hstep]
      exact hnext

theorem number_append {ds : List Char} (rest : List Char) (least : Nat) (most : Option Nat)
    (hds : ∀ c ∈ ds, c.isDigit = true) (hleast : least ≤ ds.length)
    (hmost : ∀ m ∈ most, ds.length ≤ m)
    (hrest : most = some ds.length ∨ ∀ c ∈ rest.head?, c.isDigit = false)
    (hmax : Decimal.value ds ≤ maxNumber) :
    number least most (ds ++ rest) = .ok (Decimal.value ds, rest) := by
  have hlong : ¬ Text.byteLength (ds ++ rest) < least := by
    have hbytes := Text.length_le_byteLength (ds ++ rest)
    rw [List.length_append] at hbytes
    omega
  have hall : ((ds ++ rest).take least).all Char.isDigit = true := by
    rw [List.take_append_of_le_length hleast, List.all_eq_true]
    exact fun c hc => hds c (List.mem_of_mem_take hc)
  rw [number, if_neg hlong, if_pos hall]
  exact moreDigits_append 0 hds hmost hrest hmax

/-- A number in as many digits as are read at most. -/
theorem number_padded {width n : Nat} (rest : List Char) {least : Nat} (hleast : least ≤ width)
    (hwidth : 0 < width) (hn : n < Nat.pow 10 width) (hmax : n ≤ maxNumber) :
    number least (some width) (Decimal.padded width n ++ rest) = .ok (n, rest) := by
  have hlength := Decimal.length_padded hn hwidth
  have hread := number_append rest least (some width)
    (fun c (hc : c ∈ Decimal.padded width n) => Decimal.isDigit_of_mem_padded hc) (by omega)
    (fun m hm => by obtain rfl := Option.some.inj hm; omega) (Or.inl (by rw [hlength]))
    (by rwa [Decimal.value_padded])
  rwa [Decimal.value_padded] at hread

/-- A fraction in up to nine digits, and no digit after them. -/
theorem fraction_padded (width : Nat) {n : Nat} (rest : List Char) (hwidth : 0 < width ∧ width ≤ 9)
    (hn : n < Nat.pow 10 width) (hrest : ∀ c ∈ rest.head?, c.isDigit = false) :
    fraction (Decimal.padded width n ++ rest) = .ok (n * Nat.pow 10 (9 - width), rest) := by
  have hlength : (Decimal.padded width n).length = width := Decimal.length_padded hn hwidth.1
  have hmax : n ≤ maxNumber := by
    have hpow : Nat.pow 10 width ≤ Nat.pow 10 9 := Nat.pow_le_pow_right (by decide) hwidth.2
    have hnine : Nat.pow 10 9 ≤ maxNumber := by decide
    omega
  have hread := number_append rest 1 (some 9)
    (fun c (hc : c ∈ Decimal.padded width n) => Decimal.isDigit_of_mem_padded hc) (by omega)
    (fun m hm => by obtain rfl := Option.some.inj hm; omega) (Or.inr hrest)
    (by rwa [Decimal.value_padded])
  rw [Decimal.value_padded] at hread
  have hdrop : rest.dropWhile Char.isDigit = rest := by
    cases rest with
    | nil => rfl
    | cons c cs => rw [List.dropWhile_cons, hrest c rfl]; rfl
  simp only [fraction, hread, bind, Except.bind, hdrop, List.length_append, hlength,
    Nat.add_sub_cancel]

end Time

/-! ## What is kept of an instant -/

namespace Instant

variable {t : Instant}

/-- The year is written in four digits. -/
def HasPlainYear (t : Instant) : Prop := 0 ≤ t.civil.date.year ∧ t.civil.date.year ≤ 9999

instance (t : Instant) : Decidable t.HasPlainYear := inferInstanceAs (Decidable (_ ∧ _))

/-- The instant without what lies below its milliseconds; a leap second stays one. -/
def cut (t : Instant) : Instant where
  second := t.second
  nano := t.nano / 1_000_000 * 1_000_000
  inRange := t.inRange
  belowTwoSeconds := Nat.lt_of_le_of_lt (Nat.div_mul_le_self _ _) t.belowTwoSeconds

/-- A leap second stays one. -/
theorem isLeap_cut (t : Instant) : t.cut.IsLeap ↔ t.IsLeap := by
  show nanosPerSecond ≤ t.nano / 1_000_000 * 1_000_000 ↔ nanosPerSecond ≤ t.nano
  unfold nanosPerSecond
  omega

/-- The calendar reading of an instant cut to milliseconds is cut likewise. -/
theorem civil_cut (t : Instant) :
    t.cut.civil = { t.civil with nano := t.civil.nano / 1_000_000 * 1_000_000 } := by
  have hnano : t.nano / 1_000_000 * 1_000_000 % nanosPerSecond
      = t.nano % nanosPerSecond / 1_000_000 * 1_000_000 := by
    unfold nanosPerSecond
    omega
  have htime : t.cut.timeOfDay = t.timeOfDay := rfl
  simp only [civil, t.isLeap_cut, htime]
  exact congrArg _ hnano

/-- What is kept of an instant: what the calendar shows of it, cut to milliseconds. -/
def kept (t : Instant) : Instant := t.shown.cut

theorem leapEndsMinute_kept (t : Instant) : t.kept.LeapEndsMinute := fun hleap =>
  t.leapEndsMinute_shown (t.shown.isLeap_cut.mp hleap)

/-- Nothing but what lies below the milliseconds is lost where a leap second ends a minute, and
only there. -/
theorem kept_eq_cut_iff : t.kept = t.cut ↔ t.LeapEndsMinute := by
  constructor
  · intro h
    by_cases hend : t.LeapEndsMinute
    · exact hend
    · have hsecond : t.kept.second = t.cut.second := congrArg Instant.second h
      have hnext : t.kept.second = t.cut.second + 1 := (shown_of_not_leapEndsMinute hend).1
      omega
  · intro h
    rw [kept, shown_of_leapEndsMinute h]

theorem civil_kept (t : Instant) :
    t.kept.civil = { t.civil with nano := t.civil.nano / 1_000_000 * 1_000_000 } := by
  rw [kept, civil_cut, civil_shown]

end Instant

namespace Time

/-! ## Stored texts -/

/-- A text in the layout of the stored one, for a year of four digits. -/
def plainText (date : Date) (hour minute second milli : Nat) : List Char :=
  Decimal.padded 4 date.year.toNat ++ '-' :: (Decimal.padded 2 date.month ++
    '-' :: (Decimal.padded 2 date.day ++ 'T' :: (Decimal.padded 2 hour ++
    ':' :: (Decimal.padded 2 minute ++ ':' :: (Decimal.padded 2 second ++
    '.' :: (Decimal.padded 3 milli ++ ['Z']))))))

theorem isoText_eq_plainText {t : Instant} (h : t.HasPlainYear) :
    isoText .milliseconds ['Z'] t =
      plainText t.civil.date t.civil.hour t.civil.minute t.civil.second
        (t.civil.nano / 1_000_000) := by
  have hyear : yearText t.civil.date.year = Decimal.padded 4 t.civil.date.year.toNat := by
    have hnat : t.civil.date.year.natAbs = t.civil.date.year.toNat := by
      have hlow := h.1
      omega
    exact (if_pos h).trans (congrArg _ hnat)
  simp only [isoText, dateText, clockText, fractionText, hyear, plainText, List.append_assoc,
    List.cons_append]

theorem number_four {n : Nat} (rest : List Char) (h : n < 10000) :
    number 4 (some 4) (Decimal.padded 4 n ++ rest) = .ok (n, rest) :=
  number_padded rest (by decide) (by decide) h (by unfold maxNumber; omega)

theorem number_two {n : Nat} (rest : List Char) (h : n < 100) :
    number 2 (some 2) (Decimal.padded 2 n ++ rest) = .ok (n, rest) :=
  number_padded rest (by decide) (by decide) h (by unfold maxNumber; omega)

/-- What is written takes the width that it is filled up to. -/
theorem le_length_padded (width n : Nat) : width ≤ (Decimal.padded width n).length := by
  simp only [Decimal.padded, List.length_append, List.length_replicate]
  omega

theorem length_plainText (date : Date) (hour minute second milli : Nat) :
    wholeSecondsLength ≤ (plainText date hour minute second milli).length := by
  have hyear := le_length_padded 4 date.year.toNat
  have hmonth := le_length_padded 2 date.month
  have hday := le_length_padded 2 date.day
  have hhour := le_length_padded 2 hour
  have hminute := le_length_padded 2 minute
  have hsecond := le_length_padded 2 second
  simp only [plainText, List.length_append, List.length_cons, wholeSecondsLength]
  omega

/-- A plain text is read as the numbers it is made of. -/
theorem readStrict_plainText {date : Date} {hour minute second milli : Nat}
    (hdate : date.isValid = true) (hyear : 0 ≤ date.year ∧ date.year ≤ 9999) (hhour : hour < 24)
    (hminute : minute < 60) (hsecond : second ≤ 60) (hmilli : milli < 1000) :
    readStrict (plainText date hour minute second milli)
      = assemble ⟨date, hour, minute, second, milli * 1_000_000⟩ 0 := by
  obtain ⟨hmonth, hday⟩ := Date.isValid_iff.mp hdate
  have hdays := Date.daysInMonth_le date.year date.month
  have hlength : ¬ Text.byteLength (plainText date hour minute second milli)
      < wholeSecondsLength := by
    have hbytes := Text.length_le_byteLength (plainText date hour minute second milli)
    have hlong := length_plainText date hour minute second milli
    omega
  have hread : (⟨(date.year.toNat : Int), date.month, date.day⟩ : Date) = date := by
    rw [Int.toNat_of_nonneg hyear.1]
  have hclock : ¬ (23 < hour ∨ 59 < minute ∨ 60 < second) := by omega
  have hfraction := fraction_padded 3 ['Z'] (by decide) hmilli (by simp)
  have hzone : offset (mark ':') ['Z'] = .ok (0, []) := rfl
  rw [readStrict, if_neg hlength, plainText]
  -- each part is read as it was written, and what follows it is left
  simp only [number_four _ (show date.year.toNat < 10000 by omega),
    number_two _ (show date.month < 100 by omega), number_two _ (show date.day < 100 by omega),
    number_two _ (show hour < 100 by omega), number_two _ (show minute < 100 by omega),
    number_two _ (show second < 100 by omega), bind, Except.bind, mark, dateTimeMark, fraction?,
    hread, hdate, hfraction, hzone, hclock, Bool.not_true, Bool.false_eq_true, true_or, if_true,
    if_false, ne_eq, not_true_eq_false]
  rfl

/-- The instant shown is put together from a calendar reading. -/
theorem assemble_civil (t : Instant) : assemble t.civil 0 = .ok t.shown := by
  have hyear : ¬ t.civil.date.year < -262143 ∧ ¬ 262142 < t.civil.date.year := by
    have hyear := t.civil_year
    omega
  simp [assemble, t.isValid_civil, hyear, t.ofCivil?_civil]

/-- A stored text is read back as what is kept of the instant. -/
theorem readStrict_storedText {t : Instant} (h : t.HasPlainYear) :
    readStrict t.toStoredText.toList = .ok t.kept := by
  obtain ⟨hhour, hminute, hsecond, hnano⟩ := t.civil_bounds
  have hread := assemble_civil t.kept
  rw [t.civil_kept, Instant.shown_of_leapEndsMinute t.leapEndsMinute_kept] at hread
  rw [Instant.toStoredText, String.toList_ofList, isoText_eq_plainText h,
    readStrict_plainText t.isValid_civil h hhour hminute hsecond (by omega)]
  exact hread

/-- A year of another length starts with its sign, and no time starts so. -/
theorem readStrict_signed {t : Instant} (h : ¬ t.HasPlainYear) :
    readStrict t.toStoredText.toList = .error .invalid := by
  have hyear : yearText t.civil.date.year = (if t.civil.date.year < 0 then '-' else '+') ::
      Decimal.padded 4 t.civil.date.year.natAbs := if_neg h
  have hsign : (if t.civil.date.year < 0 then '-' else '+').isDigit = false := by
    split <;> rfl
  have hlength : wholeSecondsLength ≤ (isoText .milliseconds ['Z'] t).length := by
    have hdigits := le_length_padded 4 t.civil.date.year.natAbs
    have hmonth := le_length_padded 2 t.civil.date.month
    have hday := le_length_padded 2 t.civil.date.day
    have hhour := le_length_padded 2 t.civil.hour
    have hminute := le_length_padded 2 t.civil.minute
    have hsecond := le_length_padded 2 t.civil.second
    simp only [isoText, dateText, clockText, hyear, List.length_append, List.length_cons,
      wholeSecondsLength]
    omega
  have hbytes := Text.length_le_byteLength (isoText .milliseconds ['Z'] t)
  unfold wholeSecondsLength at hlength
  have hlong : ¬ Text.byteLength (isoText .milliseconds ['Z'] t) < wholeSecondsLength := by
    unfold wholeSecondsLength
    omega
  have hnumber : number 4 (some 4) (isoText .milliseconds ['Z'] t) = .error .invalid := by
    have hall : ((isoText .milliseconds ['Z'] t).take 4).all Char.isDigit = false := by
      simp only [isoText, dateText, hyear, List.cons_append, List.take_succ_cons, List.all_cons,
        hsign, Bool.false_and]
    rw [number, if_neg (by omega), hall]
    rfl
  rw [Instant.toStoredText, String.toList_ofList, readStrict, if_neg hlong, hnumber]
  rfl

/-! ## The order of stored texts -/

theorem foldl_nextDigit (ds : List Char) (n : Nat) :
    ds.foldl nextDigit n = n * 10 ^ ds.length + Decimal.value ds := by
  induction ds generalizing n with
  | nil => simp [Decimal.value]
  | cons c ds ih =>
      have hvalue : Decimal.value (c :: ds) = ds.foldl nextDigit (nextDigit 0 c) := rfl
      rw [hvalue, List.foldl_cons, ih, ih (nextDigit 0 c), List.length_cons, Nat.pow_succ']
      unfold nextDigit
      ring

theorem value_cons (c : Char) (ds : List Char) :
    Decimal.value (c :: ds) = Decimal.digitValue c * 10 ^ ds.length + Decimal.value ds := by
  have hvalue : Decimal.value (c :: ds) = ds.foldl nextDigit (nextDigit 0 c) := rfl
  rw [hvalue, foldl_nextDigit, nextDigit, Nat.zero_mul, Nat.zero_add]

theorem isDigit_iff {c : Char} : c.isDigit = true ↔ 48 ≤ c.toNat ∧ c.toNat ≤ 57 := by
  simp only [Char.isDigit, Bool.and_eq_true, decide_eq_true_eq, ge_iff_le, UInt32.le_iff_toNat_le]
  rfl

/-- Digits are in the order of their values. -/
theorem digit_lt_iff {c d : Char} (hc : c.isDigit = true) (hd : d.isDigit = true) :
    c < d ↔ Decimal.digitValue c < Decimal.digitValue d := by
  have hlt : c < d ↔ c.toNat < d.toNat := by
    rw [Char.lt_def, UInt32.lt_iff_toNat_lt]
    rfl
  rw [hlt, Decimal.digitValue, Decimal.digitValue, if_pos hc, if_pos hd]
  rw [isDigit_iff] at hc hd
  omega

theorem digitValue_inj {c d : Char} (hc : c.isDigit = true) (hd : d.isDigit = true)
    (h : Decimal.digitValue c = Decimal.digitValue d) : c = d := by
  rw [Decimal.digitValue, Decimal.digitValue, if_pos hc, if_pos hd] at h
  rw [isDigit_iff] at hc hd
  exact Char.toNat_inj.mp (by omega)

theorem digitValue_le (c : Char) : Decimal.digitValue c ≤ 9 := by
  unfold Decimal.digitValue
  split
  · next hdigit =>
    rw [isDigit_iff] at hdigit
    omega
  · omega

theorem value_lt (ds : List Char) : Decimal.value ds < 10 ^ ds.length := by
  induction ds with
  | nil => exact Nat.one_pos
  | cons c ds ih =>
      have hc := digitValue_le c
      have hmul : Decimal.digitValue c * 10 ^ ds.length ≤ 9 * 10 ^ ds.length :=
        Nat.mul_le_mul_right _ hc
      rw [value_cons, List.length_cons, Nat.pow_succ']
      omega

/-- Numbers in the same count of digits are in the order of their values. -/
theorem digits_lt_iff {ds es : List Char} (hds : ∀ c ∈ ds, c.isDigit = true)
    (hes : ∀ c ∈ es, c.isDigit = true) (h : ds.length = es.length) :
    ds < es ↔ Decimal.value ds < Decimal.value es := by
  induction ds generalizing es with
  | nil =>
      obtain rfl := List.length_eq_zero_iff.mp h.symm
      simp
  | cons c ds ih =>
      cases es with
      | nil => cases h
      | cons d es =>
          have hlength : ds.length = es.length := Nat.succ.inj h
          have hc := hds c List.mem_cons_self
          have hd := hes d List.mem_cons_self
          have hrest := ih (fun c hc => hds c (List.mem_cons_of_mem _ hc))
            (fun c hc => hes c (List.mem_cons_of_mem _ hc)) hlength
          have hbelow := value_lt ds
          have hbelow' := value_lt es
          rw [List.cons_lt_cons_iff, value_cons, value_cons, hlength, hrest, digit_lt_iff hc hd]
          rw [hlength] at hbelow
          rcases Nat.lt_trichotomy (Decimal.digitValue c) (Decimal.digitValue d) with
            hlt | heq | hgt
          · have hstep : Decimal.digitValue c * 10 ^ es.length + 10 ^ es.length
                ≤ Decimal.digitValue d * 10 ^ es.length := by
              rw [← Nat.succ_mul]
              exact Nat.mul_le_mul_right _ hlt
            exact iff_of_true (Or.inl hlt) (by omega)
          · obtain rfl := digitValue_inj hc hd heq
            simp
          · have hstep : Decimal.digitValue d * 10 ^ es.length + 10 ^ es.length
                ≤ Decimal.digitValue c * 10 ^ es.length := by
              rw [← Nat.succ_mul]
              exact Nat.mul_le_mul_right _ hgt
            have hne : c ≠ d := fun he => Nat.lt_irrefl _ (he ▸ hgt)
            refine iff_of_false ?_ (by omega)
            rintro (hlt | ⟨heq, -⟩)
            · exact Nat.lt_asymm hlt hgt
            · exact hne heq

/-- A number in front decides, unless it is the same. -/
theorem padded_append_lt_iff {width m n : Nat} {r₁ r₂ : List Char} (hwidth : 0 < width)
    (hm : m < Nat.pow 10 width) (hn : n < Nat.pow 10 width) :
    Decimal.padded width m ++ r₁ < Decimal.padded width n ++ r₂ ↔
      m < n ∨ m = n ∧ r₁ < r₂ := by
  have hlength : (Decimal.padded width m).length = (Decimal.padded width n).length :=
    (Decimal.length_padded hm hwidth).trans (Decimal.length_padded hn hwidth).symm
  have hinj : Decimal.padded width m = Decimal.padded width n ↔ m = n := by
    constructor
    · intro h
      rw [← Decimal.value_padded width m, h, Decimal.value_padded]
    · exact fun h => h ▸ rfl
  rw [Text.append_lt_append_iff hlength, digits_lt_iff (fun _ => Decimal.isDigit_of_mem_padded)
    (fun _ => Decimal.isDigit_of_mem_padded) hlength, Decimal.value_padded, Decimal.value_padded,
    hinj]

theorem mark_cons_lt_iff {c : Char} {r₁ r₂ : List Char} : c :: r₁ < c :: r₂ ↔ r₁ < r₂ := by
  rw [List.cons_lt_cons_iff]
  simp

end Time

namespace Instant

variable {a b : Instant}

/-- One time of day is read before another. -/
def ClockBefore (a b : Civil) : Prop :=
  a.hour < b.hour ∨ a.hour = b.hour ∧ (a.minute < b.minute ∨ a.minute = b.minute ∧
    (a.second < b.second ∨ a.second = b.second ∧ a.nano / 1_000_000 < b.nano / 1_000_000))

/-- Stored texts are in the order of what is read off the calendar. -/
theorem storedText_lt_iff_civil (ha : a.HasPlainYear) (hb : b.HasPlainYear) :
    a.toStoredText < b.toStoredText ↔
      a.civil.date.Before b.civil.date ∨
        a.civil.date = b.civil.date ∧ ClockBefore a.civil b.civil := by
  have hbounds (t : Instant) (ht : t.HasPlainYear) :
      t.civil.date.year.toNat < 10000 ∧ t.civil.date.month < 100 ∧ t.civil.date.day < 100 ∧
        t.civil.hour < 100 ∧ t.civil.minute < 100 ∧ t.civil.second < 100 ∧
        t.civil.nano / 1_000_000 < 1000 := by
    obtain ⟨hhour, hminute, hsecond, hnano⟩ := t.civil_bounds
    obtain ⟨hmonth, hday⟩ := Date.isValid_iff.mp t.isValid_civil
    have hdays := Date.daysInMonth_le t.civil.date.year t.civil.date.month
    have hyear := ht.2
    omega
  obtain ⟨hayear, hamonth, haday, hahour, haminute, hasecond, hamilli⟩ := hbounds a ha
  obtain ⟨hbyear, hbmonth, hbday, hbhour, hbminute, hbsecond, hbmilli⟩ := hbounds b hb
  have hyears : (a.civil.date.year.toNat < b.civil.date.year.toNat ↔
        a.civil.date.year < b.civil.date.year) ∧
      (a.civil.date.year.toNat = b.civil.date.year.toNat ↔
        a.civil.date.year = b.civil.date.year) := by
    have halow := ha.1
    have hblow := hb.1
    omega
  have hdate : a.civil.date = b.civil.date ↔ a.civil.date.year = b.civil.date.year ∧
      a.civil.date.month = b.civil.date.month ∧ a.civil.date.day = b.civil.date.day := by
    rw [Date.mk.injEq]
  rw [String.lt_iff, toStoredText, toStoredText, String.toList_ofList, String.toList_ofList,
    Time.isoText_eq_plainText ha, Time.isoText_eq_plainText hb, Time.plainText, Time.plainText]
  -- number by number, each in its width
  rw [Time.padded_append_lt_iff (by decide) hayear hbyear, Time.mark_cons_lt_iff,
    Time.padded_append_lt_iff (by decide) hamonth hbmonth, Time.mark_cons_lt_iff,
    Time.padded_append_lt_iff (by decide) haday hbday, Time.mark_cons_lt_iff,
    Time.padded_append_lt_iff (by decide) hahour hbhour, Time.mark_cons_lt_iff,
    Time.padded_append_lt_iff (by decide) haminute hbminute, Time.mark_cons_lt_iff,
    Time.padded_append_lt_iff (by decide) hasecond hbsecond, Time.mark_cons_lt_iff,
    Time.padded_append_lt_iff (by decide) hamilli hbmilli, hyears.1, hyears.2, hdate]
  have hzone : ¬ ['Z'] < ['Z'] := List.lt_irrefl _
  unfold Date.Before ClockBefore
  simp only [hzone, and_false, or_false]
  omega

/-- Clock readings of one day are in the order of the instants, cut to milliseconds, if they show
the instants. -/
theorem clockBefore_iff (ha : a.LeapEndsMinute) (hb : b.LeapEndsMinute) :
    ClockBefore a.civil b.civil ↔
      a.second % 86_400 < b.second % 86_400 ∨
        a.second % 86_400 = b.second % 86_400 ∧ a.cut.nano < b.cut.nano := by
  obtain ⟨hatime, haleap⟩ := civil_timeOfDay ha
  obtain ⟨hbtime, hbleap⟩ := civil_timeOfDay hb
  obtain ⟨hahour, haminute, hasecond, -⟩ := a.civil_bounds
  obtain ⟨hbhour, hbminute, hbsecond, -⟩ := b.civil_bounds
  have hanano : a.civil.nano = a.nano % 1_000_000_000 := rfl
  have hbnano : b.civil.nano = b.nano % 1_000_000_000 := rfl
  have habelow := a.belowTwoSeconds
  have hbbelow := b.belowTwoSeconds
  have hacut : a.cut.nano = a.nano / 1_000_000 * 1_000_000 := rfl
  have hbcut : b.cut.nano = b.nano / 1_000_000 * 1_000_000 := rfl
  unfold IsLeap nanosPerSecond at haleap hbleap
  unfold ClockBefore
  rw [hanano, hbnano, hacut, hbcut, ← hatime, ← hbtime]
  omega

/-- Stored texts are in the order of what is kept of their instants. -/
theorem storedText_lt_iff (ha : a.HasPlainYear) (hb : b.HasPlainYear) :
    a.toStoredText < b.toStoredText ↔ a.kept < b.kept := by
  have hdays (t : Instant) : t.civil.date.dayNumber = t.shown.second / 86_400 := by
    rw [← civil_shown]
    exact Date.dayNumber_ofDayNumber _
  have hsame : a.civil.date = b.civil.date ↔ a.shown.second / 86_400 = b.shown.second / 86_400 := by
    constructor
    · intro h
      rw [← hdays a, h, hdays b]
    · intro h
      rw [← a.civil_shown, ← b.civil_shown]
      exact congrArg Date.ofDayNumber h
  have hclock := clockBefore_iff a.leapEndsMinute_shown b.leapEndsMinute_shown
  rw [civil_shown, civil_shown] at hclock
  rw [storedText_lt_iff_civil ha hb, ← Date.dayNumber_lt_iff a.isValid_civil b.isValid_civil,
    hclock, hsame, hdays, hdays, lt_iff]
  show _ ↔ a.shown.second < b.shown.second ∨
    a.shown.second = b.shown.second ∧ a.shown.cut.nano < b.shown.cut.nano
  omega

theorem eq_iff_not_lt : a = b ↔ ¬ a < b ∧ ¬ b < a := by
  constructor
  · rintro rfl
    rw [lt_iff]
    omega
  · rw [lt_iff, lt_iff]
    intro h
    exact eq_of_second_nano (by omega) (by omega)

/-- Instants have the same stored text if the same is kept of them. -/
theorem storedText_eq_iff (ha : a.HasPlainYear) (hb : b.HasPlainYear) :
    a.toStoredText = b.toStoredText ↔ a.kept = b.kept := by
  rw [eq_iff_not_lt, ← storedText_lt_iff ha hb, ← storedText_lt_iff hb ha]
  constructor
  · intro h
    rw [h]
    exact ⟨String.lt_irrefl _, String.lt_irrefl _⟩
  · rintro ⟨hab, hba⟩
    exact String.le_antisymm hba hab

/-- The instant has no part below its milliseconds. -/
def IsWhole (t : Instant) : Prop := t.nano % 1_000_000 = 0

theorem cut_of_isWhole {t : Instant} (h : t.IsWhole) : t.cut = t := by
  unfold IsWhole at h
  refine eq_of_second_nano rfl ?_
  show t.nano / 1_000_000 * 1_000_000 = t.nano
  omega

/-- All is kept of a whole millisecond, in a leap second that ends a minute or outside of any. -/
theorem kept_of_isWhole {t : Instant} (h : t.IsWhole) (hleap : t.LeapEndsMinute) : t.kept = t :=
  (kept_eq_cut_iff.mpr hleap).trans (cut_of_isWhole h)

/-- An instant in the leap second after 1970-01-01T23:56:04Z. -/
def withinMinute : Instant := ⟨86_164, 1_900_000_000, by decide, by decide⟩

/-- A later instant, in the second that follows. -/
def afterLeapSecond : Instant := ⟨86_165, 300_000_000, by decide, by decide⟩

example : withinMinute.toStoredText = "1970-01-01T23:56:05.900Z" ∧
    afterLeapSecond.toStoredText = "1970-01-01T23:56:05.300Z" := by decide +kernel

end Instant

end AuditReminder
