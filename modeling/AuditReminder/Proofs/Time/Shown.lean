/-
What the calendar shows of an instant.

A reading of the calendar has seconds up to 60.  So a leap second that ends a minute is shown as
what it is, and one after any other second looks like the next second: `Instant.shown` is the
instant that it looks like.

    civil_shown          both have the same reading
    ofCivil?_civil       the reading is turned back into the instant shown
    shown_eq_self_iff    that is the instant itself if its leap second ends a minute, and only then
-/
import AuditReminder.Proofs.Time.Calendar
import AuditReminder.Time.Text

namespace AuditReminder

namespace Instant

theorem isValid_civil (t : Instant) : t.civil.date.isValid = true := Date.isValid_ofDayNumber _

/-- The time of day of a calendar reading. -/
theorem civil_bounds (t : Instant) :
    t.civil.hour < 24 ∧ t.civil.minute < 60 ∧ t.civil.second ≤ 60 ∧
      t.civil.nano < 1_000_000_000 := by
  have htime : 0 ≤ t.timeOfDay ∧ t.timeOfDay < 86_400 := by
    unfold timeOfDay secondsPerDay
    omega
  obtain ⟨time, htime'⟩ := Int.eq_ofNat_of_zero_le htime.1
  simp only [civil, htime', Int.toNat_natCast, nanosPerSecond]
  refine ⟨by omega, by omega, ?_, by omega⟩
  split <;> omega

/-- The year of an instant is one that can be written. -/
theorem civil_year (t : Instant) : -262143 ≤ t.civil.date.year ∧ t.civil.date.year ≤ 262142 := by
  have hdate : t.civil.date.dayNumber = t.second / 86_400 := Date.dayNumber_ofDayNumber _
  have hrange := t.inRange
  unfold earliestSecond latestSecond at hrange
  have hfirst : ¬ t.civil.date.Before ⟨-262143, 1, 1⟩ := by
    rw [← Date.dayNumber_lt_iff t.isValid_civil (by decide), hdate,
      show Date.dayNumber ⟨-262143, 1, 1⟩ = -96465292 by decide]
    omega
  have hlast : t.civil.date.Before ⟨262143, 1, 1⟩ := by
    rw [← Date.dayNumber_lt_iff t.isValid_civil (by decide), hdate,
      show Date.dayNumber ⟨262143, 1, 1⟩ = 95026237 by decide]
    omega
  have hvalid := Date.isValid_iff.mp t.isValid_civil
  unfold Date.Before at hfirst hlast
  simp only at hfirst hlast
  omega

/-- The second of the day, from the hours and minutes and the second of a calendar reading, which
counts on where a leap second ends a minute. -/
theorem civil_timeOfDay {t : Instant} (h : t.LeapEndsMinute) :
    (t.civil.hour * 3600 + t.civil.minute * 60 + min t.civil.second 59 : Int)
        = t.second % 86_400 ∧
      (t.civil.second = 60 ↔ t.IsLeap) := by
  have htime : 0 ≤ t.timeOfDay := by
    unfold timeOfDay secondsPerDay
    omega
  obtain ⟨time, htime'⟩ := Int.eq_ofNat_of_zero_le htime
  have hsecond : t.second % 86_400 = time := htime'
  simp only [civil, htime', Int.toNat_natCast]
  split
  · next hleap =>
    have hend := h hleap
    simp only [hleap, iff_true]
    omega
  · next hplain =>
    simp only [hplain, iff_false]
    omega

/-! ## The instant shown -/

/-- The last second of all ends a minute, so there is a next one after a leap second that does
not. -/
theorem second_lt_of_not_leapEndsMinute {t : Instant} (h : ¬ t.LeapEndsMinute) :
    t.second < latestSecond ∧ nanosPerSecond ≤ t.nano := by
  obtain ⟨hleap, hend⟩ := Classical.not_imp.mp h
  have hrange := t.inRange.2
  unfold latestSecond at *
  exact ⟨by omega, hleap⟩

/-- The instant that the calendar shows: a leap second looks like the next second where it ends no
minute. -/
def shown (t : Instant) : Instant :=
  if h : t.LeapEndsMinute then t
  else
    { second := t.second + 1
      nano := t.nano - nanosPerSecond
      inRange := by
        have hsecond := second_lt_of_not_leapEndsMinute h
        have hrange := t.inRange
        omega
      belowTwoSeconds := Nat.lt_of_le_of_lt (Nat.sub_le _ _) t.belowTwoSeconds }

theorem shown_of_leapEndsMinute {t : Instant} (h : t.LeapEndsMinute) : t.shown = t := dif_pos h

/-- Of a leap second that ends no minute, the next second is shown. -/
theorem shown_of_not_leapEndsMinute {t : Instant} (h : ¬ t.LeapEndsMinute) :
    t.shown.second = t.second + 1 ∧ t.shown.nano + nanosPerSecond = t.nano := by
  have hleap := (second_lt_of_not_leapEndsMinute h).2
  rw [shown, dif_neg h]
  exact ⟨rfl, Nat.sub_add_cancel hleap⟩

theorem shown_eq_self_iff {t : Instant} : t.shown = t ↔ t.LeapEndsMinute := by
  constructor
  · intro h
    by_cases hend : t.LeapEndsMinute
    · exact hend
    · have hsecond := (shown_of_not_leapEndsMinute hend).1
      rw [h] at hsecond
      omega
  · exact shown_of_leapEndsMinute

theorem leapEndsMinute_shown (t : Instant) : t.shown.LeapEndsMinute := by
  by_cases h : t.LeapEndsMinute
  · rwa [shown_of_leapEndsMinute h]
  · intro hleap
    have hnano := (shown_of_not_leapEndsMinute h).2
    have hbelow := t.belowTwoSeconds
    unfold IsLeap nanosPerSecond at *
    omega

/-- What is shown of an instant has its reading. -/
theorem civil_shown (t : Instant) : t.shown.civil = t.civil := by
  by_cases h : t.LeapEndsMinute
  · rw [shown_of_leapEndsMinute h]
  · obtain ⟨hsecond, hnano⟩ := shown_of_not_leapEndsMinute h
    obtain ⟨hleap, hend⟩ := Classical.not_imp.mp h
    have hbelow := t.belowTwoSeconds
    have hshown : ¬ t.shown.IsLeap := by
      unfold IsLeap nanosPerSecond at *
      omega
    have hnanos : t.shown.nano % nanosPerSecond = t.nano % nanosPerSecond := by
      rw [← hnano, Nat.add_mod_right]
    have hday : (t.second + 1) / secondsPerDay = t.second / secondsPerDay := by
      unfold secondsPerDay
      omega
    have htime : t.shown.timeOfDay = t.timeOfDay + 1 := by
      unfold timeOfDay secondsPerDay
      omega
    have hsame : 0 ≤ t.timeOfDay ∧ t.timeOfDay % 60 ≠ 59 := by
      unfold timeOfDay secondsPerDay
      omega
    obtain ⟨time, htime'⟩ := Int.eq_ofNat_of_zero_le hsame.1
    simp only [civil, hsecond, hday, htime, htime', Int.toNat_natCast, hnanos, if_neg hshown,
      if_pos hleap, Civil.mk.injEq, true_and, and_true]
    omega

/-- A calendar reading is turned back into the instant shown. -/
theorem ofCivil?_civil (t : Instant) : ofCivil? t.civil 0 = some t.shown := by
  suffices h : ∀ s : Instant, s.LeapEndsMinute → ofCivil? s.civil 0 = some s by
    rw [← t.civil_shown]
    exact h t.shown t.leapEndsMinute_shown
  intro s hs
  obtain ⟨hseconds, hleap⟩ := civil_timeOfDay hs
  have hdate : s.civil.date.dayNumber = s.second / 86_400 := Date.dayNumber_ofDayNumber _
  have hnano : s.civil.nano = s.nano % 1_000_000_000 := rfl
  have hbelow := s.belowTwoSeconds
  have hsecond : s.civil.date.dayNumber * secondsPerDay + s.civil.hour * 3600
      + s.civil.minute * 60 + (min s.civil.second 59 : Nat) - 0 = s.second := by
    rw [hdate]
    unfold secondsPerDay
    omega
  have hnanos : s.civil.nano + (if s.civil.second = 60 then nanosPerSecond else 0) = s.nano := by
    rw [hnano]
    unfold IsLeap nanosPerSecond at *
    split <;> omega
  calc ofCivil? s.civil 0 = ofParts? s.second s.nano := congrArg₂ ofParts? hsecond hnanos
    _ = some s := ofParts?_eq_some_iff.mpr ⟨rfl, rfl⟩

end Instant

end AuditReminder
