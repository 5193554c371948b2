/-
Texts in TOML.

A text is written in one of four forms and is read back from each of them, whatever characters it
holds (`readText_writeText`).  Two forms stand for themselves and are taken for texts that suit them
alone.  In the other two a character is written as it stands or behind a backslash, and reading goes
on behind it (`basic_escape`, `basicLines_escape`).

Between three quotes a text may hold quotes, and the first three in a row close it:

    up to two of them at its end     stand before the three and are counted to the text
    three of them in a row           do not occur: the writer escapes the third
-/
import AuditReminder.Toml.Text

namespace AuditReminder.Toml

/-! ## Escapes -/

/-- What stands behind a backslash for a character: it is read as this character, and not as a line
that is continued. -/
structure IsEscape (c : Char) (inside : List Char) : Prop where
  read (rest : List Char) : escape? (inside ++ rest) = some (c, rest)
  stays (rest : List Char) : continued? (inside ++ rest) = none

/-- A character by one letter. -/
theorem isEscape_letter {letter c : Char} (h : charOfLetter? letter = some c) :
    IsEscape c [letter] := by
  unfold charOfLetter? at h
  split at h <;> cases h <;> exact ⟨fun _ => rfl, fun _ => rfl⟩

/-- A character by its code point. -/
theorem isEscape_codePoint {c : Char} (h : c.toNat < 0x80) : IsEscape c (codePoint c).tail where
  stays _ := rfl
  read rest := by
    have hdigits : ∀ k : Fin 0x80, charOfHex? (['0', '0'] ++ (Hexadecimal.byte k).map Char.toUpper)
        = some (Char.ofNat k) := by decide
    have hcode := hdigits ⟨c.toNat, h⟩
    rw [Char.ofNat_toNat] at hcode
    show numberedEscape 4 (['0', '0'] ++ (Hexadecimal.byte c.toNat).map Char.toUpper ++ rest) = _
    have hlength : (['0', '0'] ++ (Hexadecimal.byte c.toNat).map Char.toUpper).length = 4 := rfl
    rw [numberedEscape, if_neg (by simp [Hexadecimal.byte]), ← hlength, List.take_left,
      List.drop_left, hcode]
    rfl

/-- A character other than a quote and a line break stands for itself or is escaped. -/
theorem escaped_cases (c : Char) (hbreak : c ≠ '\n') :
    (escaped c = [c] ∧ isPlain c = true ∧ c ≠ '\\') ∨
      ∃ inside, escaped c = '\\' :: inside ∧ IsEscape c inside := by
  unfold escaped
  split
  · next h => exact Or.inr ⟨['b'], rfl, isEscape_letter (by rw [h]; rfl)⟩
  split
  · next h => exact Or.inr ⟨['t'], rfl, isEscape_letter (by rw [h]; rfl)⟩
  split
  · next h => exact Or.inr ⟨['f'], rfl, isEscape_letter (by rw [h]; rfl)⟩
  split
  · next h => exact Or.inr ⟨['r'], rfl, isEscape_letter (by rw [h]; rfl)⟩
  split
  · next h => exact Or.inr ⟨['\\'], rfl, isEscape_letter (by rw [h]; rfl)⟩
  split
  · next hneeds =>
    refine Or.inr ⟨(codePoint c).tail, rfl, isEscape_codePoint ?_⟩
    simp only [needsEscape, Bool.or_eq_true, Bool.and_eq_true, decide_eq_true_iff,
      beq_iff_eq] at hneeds
    omega
  · next hslash hneeds =>
    refine Or.inl ⟨rfl, ?_, hslash⟩
    simp_all [needsEscape, isPlain]

/-! ## One line between double quotes -/

theorem basic_escape {c : Char} {inside : List Char} (h : IsEscape c inside) (rest : List Char) :
    basic ('\\' :: inside ++ rest) = prepend [c] (basic rest) := by
  rw [List.cons_append, basic, if_neg (by decide), if_pos rfl]
  split
  · next hnone =>
    rw [h.read] at hnone
    cases hnone
  · next d after hsome =>
    rw [h.read] at hsome
    cases hsome
    rfl

theorem basic_plain {c : Char} (hquote : c ≠ '"') (hslash : c ≠ '\\') (hplain : isPlain c = true)
    (rest : List Char) : basic (c :: rest) = prepend [c] (basic rest) := by
  rw [basic, if_neg hquote, if_neg hslash, if_pos hplain]

/-- A line between double quotes is read up to the closing one. -/
theorem basic_escapedLine (cs rest : List Char) :
    basic (escapedLine cs ++ '"' :: rest) = .ok (cs, rest) := by
  induction cs with
  | nil =>
      show basic ('"' :: rest) = _
      rw [basic, if_pos rfl]
  | cons c cs ih =>
      have hstep : basic (escapedLine (c :: cs) ++ '"' :: rest)
          = prepend [c] (basic (escapedLine cs ++ '"' :: rest)) := by
        rw [escapedLine, List.flatMap_cons, List.append_assoc]
        split
        · next hquote =>
          rw [hquote]
          exact basic_escape (isEscape_letter rfl) _
        · next hquote =>
          split
          · next hbreak =>
            rw [hbreak]
            exact basic_escape (isEscape_letter rfl) _
          · next hbreak =>
            rcases escaped_cases c hbreak with ⟨he, hplain, hslash⟩ | ⟨inside, he, hinside⟩
            · rw [he]
              exact basic_plain hquote hslash hplain _
            · rw [he]
              exact basic_escape hinside _
      rw [hstep, ih]
      rfl

/-! ## Several lines between double quotes -/

/-- Two of a quote stand in front. -/
def Doubled (quote : Char) (cs : List Char) : Prop := ∃ rest, cs = quote :: quote :: rest

theorem not_doubled_of_head {quote c : Char} (h : c ≠ quote) (cs : List Char) :
    ¬ Doubled quote (c :: cs) := by
  rintro ⟨rest, he⟩
  exact h (List.cons.inj he).1

theorem not_doubled_of_next {quote c d : Char} (h : d ≠ quote) (cs : List Char) :
    ¬ Doubled quote (c :: d :: cs) := by
  rintro ⟨rest, he⟩
  exact h (List.cons.inj (List.cons.inj he).2).1

theorem basicLines_step {c : Char} {rest : List Char} (hquotes : c = '"' → ¬ Doubled '"' rest)
    (hreturn : c ≠ '\r') (hslash : c ≠ '\\') (hstands : c = '\n' ∨ isPlain c = true) :
    basicLines (c :: rest) = prepend [c] (basicLines rest) := by
  rw [basicLines]
  · rw [if_neg hslash, if_pos (by simpa using hstands)]
  · rintro rest' rfl rfl
    exact hquotes rfl ⟨rest', rfl⟩
  · rintro rest' rfl rfl
    exact hreturn rfl

theorem basicLines_escape {c : Char} {inside : List Char} (h : IsEscape c inside)
    (rest : List Char) :
    basicLines ('\\' :: inside ++ rest) = prepend [c] (basicLines rest) := by
  rw [List.cons_append, basicLines]
  · rw [if_pos rfl]
    split
    · next after hsome =>
      rw [h.stays] at hsome
      cases hsome
    · split
      · next hnone =>
        rw [h.read] at hnone
        cases hnone
      · next d after hsome =>
        rw [h.read] at hsome
        cases hsome
        rfl
  · rintro rest' ⟨⟩
  · rintro rest' ⟨⟩

theorem basicLines_close (extra rest : List Char) :
    basicLines (tripleQuote ++ extra ++ rest) = .ok (closing '"' (extra ++ rest)) := by
  show basicLines ('"' :: '"' :: '"' :: (extra ++ rest)) = _
  rw [basicLines]

/-- What is written for a character that is no quote, or for the third quote in a row, does not
begin with a quote. -/
theorem head_escapedLines {run : Nat} {c : Char} (h : c ≠ '"' ∨ run = 2) (cs : List Char) :
    ∃ d more, escapedLines run (c :: cs) = d :: more ∧ d ≠ '"' := by
  rw [escapedLines]
  split
  · next hquote =>
    rw [if_pos (h.resolve_left fun hne => hne hquote)]
    exact ⟨_, _, rfl, by decide⟩
  · next hquote =>
    split
    · exact ⟨_, _, rfl, by decide⟩
    · next hbreak =>
      rcases escaped_cases c hbreak with ⟨he, -, -⟩ | ⟨inside, he, -⟩
      · rw [he]
        exact ⟨_, _, rfl, hquote⟩
      · rw [he]
        exact ⟨_, _, rfl, by decide⟩

/-- Behind a quote that was not escaped there are two more in front only at the end of the text. -/
theorem not_doubled_escapedLines {run : Nat} {cs : List Char} (hrun : run < 2) (hsome : cs ≠ [])
    (htwo : ¬ (run = 0 ∧ cs = ['"'])) (tail : List Char) :
    ¬ Doubled '"' (escapedLines (run + 1) cs ++ tail) := by
  cases cs with
  | nil => exact (hsome rfl).elim
  | cons c cs =>
      by_cases hfirst : c ≠ '"' ∨ run + 1 = 2
      · obtain ⟨d, more, he, hd⟩ := head_escapedLines hfirst cs
        rw [he]
        exact not_doubled_of_head hd _
      · obtain ⟨hquote, hone⟩ := not_or.mp hfirst
        obtain rfl : c = '"' := Decidable.not_not.mp hquote
        obtain rfl : run = 0 := by omega
        cases cs with
        | nil => exact (htwo ⟨rfl, rfl⟩).elim
        | cons next cs =>
            obtain ⟨d, more, he, hd⟩ := head_escapedLines (c := next) (Or.inr rfl) cs
            rw [escapedLines, if_pos rfl, if_neg (by decide), he]
            exact not_doubled_of_next hd _

/-- Lines between three double quotes are read up to the closing ones, if no quote follows them. -/
theorem basicLines_escapedLines (cs : List Char) {run : Nat} (hrun : run ≤ 2) (rest : List Char) :
    basicLines (escapedLines run cs ++ (tripleQuote ++ '\n' :: rest)) = .ok (cs, '\n' :: rest) := by
  induction cs generalizing run with
  | nil => exact basicLines_close [] ('\n' :: rest)
  | cons c cs ih =>
      by_cases hquote : c = '"'
      · subst hquote
        by_cases hthird : run = 2
        · rw [escapedLines, if_pos rfl, if_pos hthird]
          have hinside : IsEscape '"' ['"'] := isEscape_letter rfl
          have hescape := basicLines_escape hinside
            (escapedLines 0 cs ++ (tripleQuote ++ '\n' :: rest))
          rw [ih (Nat.zero_le 2)] at hescape
          exact hescape
        · rw [escapedLines, if_pos rfl, if_neg hthird]
          by_cases hend : cs = []
          · rw [hend]
            exact basicLines_close ['"'] ('\n' :: rest)
          by_cases htwo : run = 0 ∧ cs = ['"']
          · rw [htwo.1, htwo.2]
            exact basicLines_close ['"', '"'] ('\n' :: rest)
          have hopen := not_doubled_escapedLines (show run < 2 by omega) hend htwo
            (tripleQuote ++ '\n' :: rest)
          rw [List.cons_append, basicLines_step (fun _ => hopen) (by decide) (by decide)
            (Or.inr (by decide)), ih (by omega)]
          rfl
      · rw [escapedLines, if_neg hquote]
        by_cases hbreak : c = '\n'
        · rw [if_pos hbreak, hbreak, List.cons_append,
            basicLines_step (fun h => (hquote (hbreak.trans h)).elim) (by decide) (by decide)
              (Or.inl rfl), ih (Nat.zero_le 2)]
          rfl
        · rw [if_neg hbreak, List.append_assoc]
          rcases escaped_cases c hbreak with ⟨he, hplain, hslash⟩ | ⟨inside, he, hinside⟩
          · have hreturn : c ≠ '\r' := by
              rintro rfl
              cases hplain
            rw [he, List.singleton_append, basicLines_step (fun h => (hquote h).elim) hreturn hslash
              (Or.inr hplain), ih (Nat.zero_le 2)]
            rfl
          · rw [he, basicLines_escape hinside, ih (Nat.zero_le 2)]
            rfl

/-! ## Texts between single quotes -/

theorem isPlain_of_not_needsEscape {c : Char} (h : needsEscape c = false) (hbreak : c ≠ '\n') :
    isPlain c = true := by
  by_cases htab : c = '\t'
  · rw [htab]
    decide
  · simp_all [needsEscape, isPlain]

theorem literal_line {cs : List Char} (h : ∀ c ∈ cs, c ≠ '\x27' ∧ isPlain c = true)
    (rest : List Char) : literal (cs ++ '\x27' :: rest) = .ok (cs, rest) := by
  induction cs with
  | nil => rfl
  | cons c cs ih =>
      obtain ⟨hquote, hplain⟩ := h c List.mem_cons_self
      rw [List.cons_append, literal, if_neg hquote, if_pos hplain,
        ih fun d hd => h d (List.mem_cons_of_mem c hd)]
      rfl

theorem longestRun_le_succ (c : Char) (run : Nat) (cs : List Char) :
    longestRun c run cs ≤ longestRun c (run + 1) cs := by
  induction cs generalizing run with
  | nil => exact Nat.le_succ run
  | cons d cs ih =>
      rw [longestRun, longestRun]
      split
      · exact ih (run + 1)
      · omega

theorem longestRun_tail (c d : Char) (cs : List Char) :
    longestRun c 0 cs ≤ longestRun c 0 (d :: cs) := by
  rw [longestRun]
  split
  · exact longestRun_le_succ c 0 cs
  · exact Nat.le_max_right _ _

theorem le_longestRun (c : Char) (run : Nat) (cs : List Char) : run ≤ longestRun c run cs := by
  induction cs generalizing run with
  | nil => exact Nat.le_refl run
  | cons d cs ih =>
      rw [longestRun]
      split
      · exact Nat.le_of_succ_le (ih (run + 1))
      · exact Nat.le_max_left _ _

theorem literalLines_step {c : Char} {rest : List Char}
    (hquotes : c = '\x27' → ¬ Doubled '\x27' rest) (hreturn : c ≠ '\r')
    (hstands : c = '\n' ∨ isPlain c = true) :
    literalLines (c :: rest) = prepend [c] (literalLines rest) := by
  rw [literalLines]
  · rw [if_pos (by simpa using hstands)]
  · rintro rest' rfl rfl
    exact hquotes rfl ⟨rest', rfl⟩
  · rintro rest' rfl rfl
    exact hreturn rfl

theorem literalLines_close (extra rest : List Char) :
    literalLines (tripleApostrophe ++ extra ++ rest) = .ok (closing '\x27' (extra ++ rest)) := by
  show literalLines ('\x27' :: '\x27' :: '\x27' :: (extra ++ rest)) = _
  rw [literalLines]

/-- Lines between three single quotes are read up to the closing ones, if they hold no three in a
row and none follows. -/
theorem literalLines_lines {cs : List Char} (hplain : ∀ c ∈ cs, needsEscape c = false)
    (hrun : longestRun '\x27' 0 cs ≤ 2) (rest : List Char) :
    literalLines (cs ++ (tripleApostrophe ++ '\n' :: rest)) = .ok (cs, '\n' :: rest) := by
  induction cs with
  | nil => exact literalLines_close [] ('\n' :: rest)
  | cons c cs ih =>
      have hrest := ih (fun d hd => hplain d (List.mem_cons_of_mem c hd))
        (Nat.le_trans (longestRun_tail _ c cs) hrun)
      have hc := hplain c List.mem_cons_self
      have hreturn : c ≠ '\r' := by
        rintro rfl
        cases hc
      have hstands : c = '\n' ∨ isPlain c = true := by
        by_cases hbreak : c = '\n'
        · exact Or.inl hbreak
        · exact Or.inr (isPlain_of_not_needsEscape hc hbreak)
      have hstep
          (hquotes : c = '\x27' → ¬ Doubled '\x27' (cs ++ (tripleApostrophe ++ '\n' :: rest))) :
          literalLines (c :: cs ++ (tripleApostrophe ++ '\n' :: rest))
            = .ok (c :: cs, '\n' :: rest) := by
        rw [List.cons_append, literalLines_step hquotes hreturn hstands, hrest]
        rfl
      by_cases hquote : c = '\x27'
      · subst hquote
        match cs with
        | [] => exact literalLines_close ['\x27'] ('\n' :: rest)
        | d :: cs =>
            by_cases hnext : d = '\x27'
            · subst hnext
              match cs with
              | [] => exact literalLines_close ['\x27', '\x27'] ('\n' :: rest)
              | e :: cs =>
                  have hthird : e ≠ '\x27' := by
                    rintro rfl
                    have hthree := le_longestRun '\x27' (0 + 1 + 1 + 1) cs
                    simp only [longestRun, if_pos] at hrun
                    omega
                  exact hstep fun _ => not_doubled_of_next hthird _
            · exact hstep fun _ => not_doubled_of_head hnext _
      · exact hstep fun h => (hquote h).elim

/-! ## All forms -/

/-- The form of a text suits it, or it is one in which characters are escaped. -/
theorem suits_of (cs : List Char) :
    (Form.of cs).suits cs = true ∨ Form.of cs = .basicLines ∨ Form.of cs = .basic := by
  unfold Form.of
  split
  · next form hfound =>
    exact Or.inl (List.find?_some (p := fun form : Form => form.suits cs) hfound)
  · split
    · exact Or.inr (Or.inl rfl)
    · exact Or.inr (Or.inr rfl)

theorem readText_basic {inside cs rest : List Char} (hopen : ¬ Doubled '"' inside)
    (h : basic inside = .ok (cs, rest)) :
    readText ('"' :: inside) = .ok (String.ofList cs, rest) := by
  unfold readText
  split
  · next after he =>
    cases he
    exact (hopen ⟨after, rfl⟩).elim
  · next after _ he =>
    cases he
    rw [h]
  · next he => cases he
  · next he => cases he
  · next hother _ _ => exact (hother inside rfl).elim

theorem readText_literal {inside cs rest : List Char} (hopen : ¬ Doubled '\x27' inside)
    (h : literal inside = .ok (cs, rest)) :
    readText ('\x27' :: inside) = .ok (String.ofList cs, rest) := by
  unfold readText
  split
  · next he => cases he
  · next he => cases he
  · next after he =>
    cases he
    exact (hopen ⟨after, rfl⟩).elim
  · next after _ he =>
    cases he
    rw [h]
  · next hother => exact (hother inside rfl).elim

theorem not_doubled_escapedLine (cs rest : List Char) :
    ¬ Doubled '"' (escapedLine cs ++ '"' :: '\n' :: rest) := by
  cases cs with
  | nil => exact not_doubled_of_next (by decide) _
  | cons c cs =>
      rw [escapedLine, List.flatMap_cons, List.append_assoc]
      split
      · exact not_doubled_of_head (by decide) _
      · next hquote =>
        split
        · exact not_doubled_of_head (by decide) _
        · next hbreak =>
          rcases escaped_cases c hbreak with ⟨he, -, -⟩ | ⟨inside, he, -⟩
          · rw [he]
            exact not_doubled_of_head hquote _
          · rw [he]
            exact not_doubled_of_head (by decide) _

/-- What suits a line between single quotes stands for itself there. -/
theorem isPlain_of_suits {cs : List Char} (h : Form.literal.suits cs = true) :
    ∀ c ∈ cs, c ≠ '\x27' ∧ isPlain c = true := by
  simp only [Form.suits, Bool.and_eq_true, Bool.not_eq_true', List.any_eq_false] at h
  obtain ⟨hcontrols, hquote, hbreak⟩ := h
  intro c hc
  have hcontains : cs.contains c = true := List.contains_iff_mem.mpr hc
  refine ⟨?_, isPlain_of_not_needsEscape (Bool.eq_false_iff.mpr (hcontrols c hc)) ?_⟩
  · rintro rfl
    rw [hquote] at hcontains
    cases hcontains
  · rintro rfl
    rw [hbreak] at hcontains
    cases hcontains

theorem of_suits_literalLines {cs : List Char} (h : Form.literalLines.suits cs = true) :
    (∀ c ∈ cs, needsEscape c = false) ∧ longestRun '\x27' 0 cs ≤ 2 := by
  simp only [Form.suits, Bool.and_eq_true, Bool.not_eq_true', List.any_eq_false,
    decide_eq_true_iff] at h
  exact ⟨fun c hc => Bool.eq_false_iff.mpr (h.1 c hc), h.2⟩

/-- A text is read back from what was written for it, up to the end of its line. -/
theorem readText_writeText (s : String) (rest : List Char) :
    readText (writeText s ++ '\n' :: rest) = .ok (s, '\n' :: rest) := by
  have htext : String.ofList s.toList = s := String.ofList_toList
  have hsuits := suits_of s.toList
  cases hform : Form.of s.toList with
  | basic =>
      have hread := readText_basic (not_doubled_escapedLine s.toList rest)
        (basic_escapedLine s.toList ('\n' :: rest))
      rw [htext] at hread
      simpa [writeText, hform] using hread
  | literal =>
      rw [hform] at hsuits
      have hplain := isPlain_of_suits (hsuits.resolve_right (by simp))
      have hopen : ¬ Doubled '\x27' (s.toList ++ '\x27' :: '\n' :: rest) := by
        rcases hs : s.toList with _ | ⟨c, cs⟩
        · exact not_doubled_of_next (by decide) _
        · exact not_doubled_of_head (hplain c (hs ▸ List.mem_cons_self)).1 _
      have hread := readText_literal hopen (literal_line hplain ('\n' :: rest))
      rw [htext] at hread
      simpa [writeText, hform] using hread
  | basicLines =>
      have hlines := basicLines_escapedLines s.toList (Nat.zero_le 2) rest
      have hread : readText (tripleQuote ++ '\n' ::
          (escapedLines 0 s.toList ++ (tripleQuote ++ '\n' :: rest)))
            = .ok (String.ofList s.toList, '\n' :: rest) := by
        simp only [readText, tripleQuote, List.cons_append, List.nil_append, dropBreak] at hlines ⊢
        rw [hlines]
      rw [htext] at hread
      simpa [writeText, hform] using hread
  | literalLines =>
      rw [hform] at hsuits
      obtain ⟨hcontrols, hrun⟩ := of_suits_literalLines (hsuits.resolve_right (by simp))
      have hlines := literalLines_lines hcontrols hrun rest
      have hread : readText (tripleApostrophe ++ '\n' ::
          (s.toList ++ (tripleApostrophe ++ '\n' :: rest)))
            = .ok (String.ofList s.toList, '\n' :: rest) := by
        simp only [readText, tripleApostrophe, List.cons_append, List.nil_append,
          dropBreak] at hlines ⊢
        rw [hlines]
      rw [htext] at hread
      simpa [writeText, hform] using hread

end AuditReminder.Toml
