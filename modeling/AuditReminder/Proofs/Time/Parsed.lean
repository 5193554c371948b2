/-
Instants that are read off texts.

A time text has a leap second as second 60, a fraction of less than a second and an offset of whole
minutes.  So whatever the offset takes it to, the leap second that is read ends a minute:
`leapEndsMinute_of_parseTime?`.
-/
import AuditReminder.Proofs.Document
import AuditReminder.Proofs.Time.Stored

namespace AuditReminder

namespace Time

/-- A number that is read is below the power of ten of as many digits. -/
theorem moreDigits_lt {most : Option Nat} {n k : Nat} {cs rest : List Char}
    (h : moreDigits most n cs = .ok (k, rest)) :
    ∃ count, cs.length = rest.length + count ∧ k < (n + 1) * 10 ^ count ∧
      ∀ m ∈ most, count ≤ m := by
  induction cs generalizing most n with
  | nil =>
      have hend : moreDigits most n [] = .ok (n, []) := by rcases most with _ | _ | most <;> rfl
      cases hend.symm.trans h
      exact ⟨0, rfl, by omega, fun m _ => Nat.zero_le m⟩
  | cons c cs ih =>
      rcases hmost : most with _ | _ | most'
      case some.zero =>
        rw [hmost] at h
        cases h
        exact ⟨0, rfl, by omega, fun m _ => Nat.zero_le m⟩
      all_goals
        rw [hmost, moreDigits] at h
        · split at h
          · dsimp only at h
            split at h
            · cases h
            · obtain ⟨count, hlength, hlt, hcount⟩ := ih h
              have hdigit := digitValue_le c
              refine ⟨count + 1, by rw [List.length_cons, hlength, Nat.add_assoc], ?_, ?_⟩
              · calc k < (n * 10 + Decimal.digitValue c + 1) * 10 ^ count := hlt
                  _ ≤ (n + 1) * 10 * 10 ^ count := Nat.mul_le_mul_right _ (by omega)
                  _ = (n + 1) * 10 ^ (count + 1) := by rw [Nat.mul_assoc, ← Nat.pow_succ']
              · rintro m ⟨⟩
                all_goals exact Nat.succ_le_succ (hcount _ rfl)
          · cases h
            exact ⟨0, rfl, by omega, fun m _ => Nat.zero_le m⟩
        · simp

/-- A fraction that is read is less than a second. -/
theorem fraction_lt {cs rest : List Char} {nano : Nat} (h : fraction cs = .ok (nano, rest)) :
    nano < 1_000_000_000 := by
  obtain ⟨⟨n, after⟩, hnumber, h⟩ := Except.bind_eq_ok_iff.mp h
  cases h
  have hdigits : moreDigits (some 9) 0 cs = .ok (n, after) := by
    unfold number at hnumber
    split at hnumber
    · cases hnumber
    · split at hnumber
      · exact hnumber
      · cases hnumber
  obtain ⟨count, hlength, hlt, hmost⟩ := moreDigits_lt hdigits
  have hcount : count ≤ 9 := hmost 9 rfl
  have hread : cs.length - after.length = count := by omega
  calc n * Nat.pow 10 (9 - (cs.length - after.length))
      = n * 10 ^ (9 - count) := by rw [hread]; rfl
    _ < 10 ^ count * 10 ^ (9 - count) :=
        Nat.mul_lt_mul_of_pos_right (by omega) (Nat.pow_pos (by decide))
    _ = 10 ^ 9 := by rw [← Nat.pow_add, Nat.add_sub_cancel' hcount]

theorem fraction?_lt {cs rest : List Char} {nano : Nat} (h : fraction? cs = .ok (nano, rest)) :
    nano < 1_000_000_000 := by
  unfold fraction? at h
  split at h
  · exact fraction_lt h
  · cases h
    decide

/-- An offset that is read is whole minutes. -/
theorem offset_emod {separator : Reader Unit} {cs rest : List Char} {seconds : Int}
    (h : offset separator cs = .ok (seconds, rest)) : seconds % 60 = 0 := by
  unfold offset at h
  split at h
  · cases h
    rfl
  · cases h
    rfl
  · obtain ⟨⟨sign, _⟩, -, h⟩ := Except.bind_eq_ok_iff.mp h
    obtain ⟨⟨hours, _⟩, -, h⟩ := Except.bind_eq_ok_iff.mp h
    obtain ⟨⟨⟨⟩, _⟩, -, h⟩ := Except.bind_eq_ok_iff.mp h
    obtain ⟨⟨minutes, _⟩, -, h⟩ := Except.bind_eq_ok_iff.mp h
    dsimp only at h
    split at h
    · cases h
      have hminutes : sign * (hours * 3600 + minutes * 60 : Int)
          = 60 * (sign * (hours * 60 + minutes)) := by ring
      rw [hminutes]
      exact Int.mul_emod_right 60 _
    · cases h

/-- A reading whose fraction is less than a second, put together with an offset of whole minutes. -/
theorem leapEndsMinute_of_assemble {c : Instant.Civil} {seconds : Int} {t : Instant}
    (hnano : c.nano < 1_000_000_000) (hseconds : seconds % 60 = 0)
    (h : assemble c seconds = .ok t) : t.LeapEndsMinute := by
  unfold assemble at h
  split at h
  · cases h
  · split at h
    · cases h
    · split at h
      · next t' hcivil =>
        cases h
        obtain ⟨hsecond, hnanos⟩ := Instant.ofParts?_eq_some_iff.mp hcivil
        intro hleap
        unfold Instant.IsLeap at hleap
        unfold secondsPerDay at hsecond
        unfold nanosPerSecond at hleap hnanos
        split at hnanos
        · omega
        · omega
      · cases h

theorem leapEndsMinute_of_readStrict {cs : List Char} {t : Instant} (h : readStrict cs = .ok t) :
    t.LeapEndsMinute := by
  unfold readStrict at h
  split at h
  · cases h
  · obtain ⟨⟨year, _⟩, -, h⟩ := Except.bind_eq_ok_iff.mp h
    obtain ⟨⟨⟨⟩, _⟩, -, h⟩ := Except.bind_eq_ok_iff.mp h
    obtain ⟨⟨month, _⟩, -, h⟩ := Except.bind_eq_ok_iff.mp h
    obtain ⟨⟨⟨⟩, _⟩, -, h⟩ := Except.bind_eq_ok_iff.mp h
    obtain ⟨⟨day, _⟩, -, h⟩ := Except.bind_eq_ok_iff.mp h
    dsimp only at h
    split at h
    · cases h
    · obtain ⟨⟨⟨⟩, _⟩, -, h⟩ := Except.bind_eq_ok_iff.mp h
      obtain ⟨⟨hour, _⟩, -, h⟩ := Except.bind_eq_ok_iff.mp h
      obtain ⟨⟨⟨⟩, _⟩, -, h⟩ := Except.bind_eq_ok_iff.mp h
      obtain ⟨⟨minute, _⟩, -, h⟩ := Except.bind_eq_ok_iff.mp h
      obtain ⟨⟨⟨⟩, _⟩, -, h⟩ := Except.bind_eq_ok_iff.mp h
      obtain ⟨⟨second, _⟩, -, h⟩ := Except.bind_eq_ok_iff.mp h
      obtain ⟨⟨nano, _⟩, hfraction, h⟩ := Except.bind_eq_ok_iff.mp h
      dsimp only at h
      split at h
      · cases h
      · obtain ⟨⟨seconds, _⟩, hoffset, h⟩ := Except.bind_eq_ok_iff.mp h
        dsimp only at h
        split at h
        · cases h
        · split at h
          · cases h
          · exact leapEndsMinute_of_assemble (fraction?_lt hfraction) (offset_emod hoffset) h

theorem leapEndsMinute_of_readDate {cs : List Char} {t : Instant} (h : readDate cs = .ok t) :
    t.LeapEndsMinute := by
  obtain ⟨⟨year, _⟩, -, h⟩ := Except.bind_eq_ok_iff.mp h
  obtain ⟨⟨⟨⟩, _⟩, -, h⟩ := Except.bind_eq_ok_iff.mp h
  obtain ⟨⟨month, _⟩, -, h⟩ := Except.bind_eq_ok_iff.mp h
  obtain ⟨⟨⟨⟩, _⟩, -, h⟩ := Except.bind_eq_ok_iff.mp h
  obtain ⟨⟨day, _⟩, -, h⟩ := Except.bind_eq_ok_iff.mp h
  dsimp only at h
  split at h
  · cases h
  · exact leapEndsMinute_of_assemble (show 0 < 1_000_000_000 by decide) rfl h

/-- The command line takes no instant in a leap second but at the end of a minute. -/
theorem leapEndsMinute_of_parseTime? {s : String} {t : Instant} (h : parseTime? s = some t) :
    t.LeapEndsMinute := by
  unfold parseTime? at h
  split at h
  · next t' hstrict =>
    cases h
    exact leapEndsMinute_of_readStrict hstrict
  · rcases hdate : readDate s.toList with fault | t'
    · rw [hdate] at h
      cases h
    · rw [hdate] at h
      cases h
      exact leapEndsMinute_of_readDate hdate

end Time

end AuditReminder
