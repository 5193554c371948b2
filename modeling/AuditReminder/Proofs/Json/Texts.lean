/-
Texts in JSON.

What the printer writes for a text the reader takes back, whatever characters the text holds: each
character is escaped by itself, and reading goes on behind it (`readText_escape`).  Passing over the
text, as is done with the name of a field, goes on likewise.  An escaped character is never a
newline, so a text of any length stays on one line.

Main statements: `readText_escaped`, `passText_escaped` and `newline_not_mem_quote`.
-/
import AuditReminder.Exchange.Decode
import AuditReminder.Exchange.Encode

namespace AuditReminder

namespace Json

open Document

/-! ## Reading a text -/

variable {taken rest : List Char} {p : Position}

/-- A character is written by a letter, by its number or as it stands. -/
theorem escape_cases (c : Char) :
    (∃ letter, escaped? letter = some c ∧ escape c = ['\\', letter]) ∨
      (c.toNat < 0x20 ∧ escape c = ['\\', 'u', '0', '0'] ++ Hexadecimal.byte c.toNat) ∨
      (c ≠ '"' ∧ c ≠ '\\' ∧ ¬ c.toNat < 0x20 ∧ escape c = [c]) := by
  unfold escape
  split
  · next h => exact Or.inl ⟨'"', by rw [h]; rfl, rfl⟩
  split
  · next h => exact Or.inl ⟨'\\', by rw [h]; rfl, rfl⟩
  split
  · next h => exact Or.inl ⟨'n', by rw [h]; rfl, rfl⟩
  split
  · next h => exact Or.inl ⟨'r', by rw [h]; rfl, rfl⟩
  split
  · next h => exact Or.inl ⟨'t', by rw [h]; rfl, rfl⟩
  split
  · next h => exact Or.inl ⟨'b', by rw [h]; rfl, rfl⟩
  split
  · next h => exact Or.inl ⟨'f', by rw [h]; rfl, rfl⟩
  split
  · next h => exact Or.inr (Or.inl ⟨h, rfl⟩)
  · next hquote hslash _ _ _ _ _ hcontrol => exact Or.inr (Or.inr ⟨hquote, hslash, hcontrol, rfl⟩)

theorem readText_letter {letter c : Char} (h : escaped? letter = some c) :
    readText taken p ('\\' :: letter :: rest)
      = readText (c :: taken) ((p.next '\\').next letter) rest := by
  have hu : letter ≠ 'u' := by
    rintro rfl
    cases h
  rw [readText]
  · rw [h]
  · exact fun _ _ _ _ _ he => (hu he).elim
  · exact hu

theorem readText_plain {c : Char} (hquote : c ≠ '"') (hslash : c ≠ '\\')
    (hcontrol : ¬ c.toNat < 0x20) :
    readText taken p (c :: rest) = readText (c :: taken) (p.next c) rest := by
  rw [readText]
  · rw [if_neg hcontrol]
  · exact hquote
  · exact fun _ _ _ _ _ he => (hslash he).elim
  · exact fun _ he => (hslash he).elim
  · exact fun he => (hslash he).elim
  · exact fun _ _ he => (hslash he).elim

/-- A control character is written by its number. -/
theorem hex4?_byte {n : Nat} {a b : Char} (hn : n < 256) (h : Hexadecimal.byte n = [a, b]) :
    hex4? '0' '0' a b = some n := by
  have hzero : Hexadecimal.value? '0' = some 0 := by decide
  rw [← Hexadecimal.number?_byte hn, h]
  simp [hex4?, Hexadecimal.number?, List.foldlM_cons, hzero]

theorem readText_number {c : Char} (h : c.toNat < 0x20) :
    readText taken p ('\\' :: 'u' :: '0' :: '0' :: (Hexadecimal.byte c.toNat ++ rest))
      = readText (c :: taken) (afterHex p) rest := by
  have hnumber := hex4?_byte (n := c.toNat) (by omega) rfl
  have htrailing : isTrailingSurrogate c.toNat = false := by
    simp only [isTrailingSurrogate, Bool.and_eq_false_iff, decide_eq_false_iff_not]
    omega
  have hleading : isLeadingSurrogate c.toNat = false := by
    simp only [isLeadingSurrogate, Bool.and_eq_false_iff, decide_eq_false_iff_not]
    omega
  show readText taken p ('\\' :: 'u' :: '0' :: '0' :: _ :: _ :: rest) = _
  rw [readText, hnumber]
  simp only [htrailing, hleading, Char.ofNat_toNat]
  rfl

/-- Reading goes on behind an escaped character. -/
theorem readText_escape (c : Char) (taken : List Char) (p : Position) (rest : List Char) :
    ∃ p', readText taken p (escape c ++ rest) = readText (c :: taken) p' rest := by
  rcases escape_cases c with ⟨letter, hletter, h⟩ | ⟨hcontrol, h⟩ | ⟨hquote, hslash, hcontrol, h⟩
  · rw [h]
    exact ⟨_, readText_letter hletter⟩
  · rw [h]
    exact ⟨_, readText_number hcontrol⟩
  · rw [h]
    exact ⟨_, readText_plain hquote hslash hcontrol⟩

/-- A text is read up to its closing quote. -/
theorem readText_escaped (cs taken : List Char) (p : Position) (rest : List Char) :
    ∃ place, readText taken p (cs.flatMap escape ++ '"' :: rest)
      = .ok (taken.reverse ++ cs, ⟨rest, place⟩) := by
  induction cs generalizing taken p with
  | nil => exact ⟨p.next '"', by simp [readText]⟩
  | cons c cs ih =>
      obtain ⟨p', hc⟩ := readText_escape c taken p (cs.flatMap escape ++ '"' :: rest)
      obtain ⟨place, hcs⟩ := ih (c :: taken) p'
      refine ⟨place, ?_⟩
      rw [List.flatMap_cons, List.append_assoc, hc, hcs, List.reverse_cons, List.append_assoc]
      rfl

/-! ## Passing over a text -/

theorem passText_letter {letter c : Char} (h : escaped? letter = some c) :
    passText p ('\\' :: letter :: rest) = passText ((p.next '\\').next letter) rest := by
  have hu : letter ≠ 'u' := by
    rintro rfl
    cases h
  rw [passText]
  · rw [h]
  · exact fun _ _ _ _ _ he => (hu he).elim
  · exact hu

theorem passText_plain {c : Char} (hquote : c ≠ '"') (hslash : c ≠ '\\')
    (hcontrol : ¬ c.toNat < 0x20) :
    passText p (c :: rest) = passText (p.next c) rest := by
  rw [passText]
  · rw [if_neg hcontrol]
  · exact hquote
  · exact fun _ _ _ _ _ he => (hslash he).elim
  · exact fun _ he => (hslash he).elim
  · exact fun he => (hslash he).elim
  · exact fun _ _ he => (hslash he).elim

/-- Passing goes on behind an escaped character. -/
theorem passText_escape (c : Char) (p : Position) (rest : List Char) :
    ∃ p', passText p (escape c ++ rest) = passText p' rest := by
  rcases escape_cases c with ⟨letter, hletter, h⟩ | ⟨hcontrol, h⟩ | ⟨hquote, hslash, hcontrol, h⟩
  · rw [h]
    exact ⟨_, passText_letter hletter⟩
  · have hnumber := hex4?_byte (n := c.toNat) (by omega) rfl
    refine ⟨afterHex p, ?_⟩
    rw [h]
    show passText p ('\\' :: 'u' :: '0' :: '0' :: _ :: _ :: rest) = _
    rw [passText, hnumber]
  · rw [h]
    exact ⟨_, passText_plain hquote hslash hcontrol⟩

/-- A text is passed over up to its closing quote. -/
theorem passText_escaped (cs : List Char) (p : Position) (rest : List Char) :
    ∃ place, passText p (cs.flatMap escape ++ '"' :: rest) = .ok ⟨rest, place⟩ := by
  induction cs generalizing p with
  | nil => exact ⟨p.next '"', by simp [passText]⟩
  | cons c cs ih =>
      obtain ⟨p', hc⟩ := passText_escape c p (cs.flatMap escape ++ '"' :: rest)
      obtain ⟨place, hcs⟩ := ih p'
      exact ⟨place, by rw [List.flatMap_cons, List.append_assoc, hc, hcs]⟩

/-! ## Newlines -/

theorem newline_not_mem_escape (c : Char) : '\n' ∉ escape c := by
  rcases escape_cases c with ⟨letter, hletter, h⟩ | ⟨hcontrol, h⟩ | ⟨hquote, hslash, hcontrol, h⟩
  · rw [h]
    have hne : letter ≠ '\n' := by
      rintro rfl
      cases hletter
    simp [hne.symm]
  · rw [h]
    have hdigits : ∀ n : Nat, n < 0x20 → '\n' ∉ Hexadecimal.byte n := by decide
    simp [hdigits c.toNat hcontrol]
  · rw [h]
    have hne : c ≠ '\n' := by
      rintro rfl
      exact hcontrol (by decide)
    simp [hne.symm]

theorem newline_not_mem_quote (s : String) : '\n' ∉ quote s := by
  simp [quote, newline_not_mem_escape]

end Json

end AuditReminder
