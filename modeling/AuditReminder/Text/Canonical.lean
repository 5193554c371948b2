/-
Canonical composition.

Texts that look the same and differ only in whether marks are written by themselves have one
canonical form: every character is taken apart, the marks after a character are put in the order of
their classes, and what can be composed is put together.  Syllables of Hangul are composed by
arithmetic, all other characters by a table.  Main definition: `compose`.
-/
import AuditReminder.Text.Canonical.Table

namespace AuditReminder.Text.Canonical

/-! ## Hangul -/

/-- The first syllable.  Syllables are numbered by leading consonant, vowel and trailing
consonant. -/
def firstSyllable : Nat := 0xAC00

def firstLead : Nat := 0x1100

def firstVowel : Nat := 0x1161

/-- The code point before the first trailing consonant. -/
def beforeTrail : Nat := 0x11A7

def leads : Nat := 19

def vowels : Nat := 21

/-- The trailing consonants, and having none. -/
def trails : Nat := 28

/-- The parts of the syllable with a number. -/
def syllableParts (n : Nat) : List Char :=
  let pair := [Char.ofNat (firstLead + n / (vowels * trails)),
    Char.ofNat (firstVowel + n % (vowels * trails) / trails)]
  if n % trails = 0 then pair else pair ++ [Char.ofNat (beforeTrail + n % trails)]

/-- The syllable of two parts. -/
def syllable? (a b : Char) : Option Char :=
  let a := a.toNat
  let b := b.toNat
  if firstLead ≤ a ∧ a < firstLead + leads ∧ firstVowel ≤ b ∧ b < firstVowel + vowels then
    some (Char.ofNat (firstSyllable + ((a - firstLead) * vowels + (b - firstVowel)) * trails))
  else if firstSyllable ≤ a ∧ a < firstSyllable + leads * vowels * trails ∧
      (a - firstSyllable) % trails = 0 ∧ beforeTrail < b ∧ b < beforeTrail + trails then
    some (Char.ofNat (a + (b - beforeTrail)))
  else none

/-! ## Taking apart -/

/-- How often a character is taken apart; no character has more marks. -/
def maxMarks : Nat := 8

/-- The parts of a character, itself taken apart up to a number of times. -/
def parts : Nat → Char → List Char
  | 0, c => [c]
  | depth + 1, c =>
      match pairs.find? c with
      | some (first, second) => parts depth (Char.ofNat first) ++ [Char.ofNat second]
      | none =>
          let n := c.toNat
          if firstSyllable ≤ n ∧ n < firstSyllable + leads * vowels * trails then
            syllableParts (n - firstSyllable)
          else [c]

/-- Puts a character behind a text in reverse, before the marks of greater class at its end. -/
def placeMark (reversed : List Char) (c : Char) : List Char :=
  match reversed with
  | [] => [c]
  | last :: rest =>
      if classOf c ≠ 0 ∧ classOf c < classOf last then last :: placeMark rest c
      else c :: last :: rest

/-- A text taken apart, with its marks in order. -/
def decompose (cs : List Char) : List Char :=
  ((cs.flatMap (parts maxMarks)).foldl placeMark []).reverse

/-! ## Putting together -/

/-- The character composed of two. -/
def composed? (a b : Char) : Option Char :=
  match syllable? a b with
  | some c => some c
  | none =>
      (pairs.ranges.find? fun range => range.value == (a.toNat, b.toNat)).map fun range =>
        Char.ofNat range.first

/-- A text in the making: what is done, in reverse; the last character that is no mark; and the
marks after it that were not composed with it, in reverse. -/
structure Progress where
  done : List Char
  base : Option Char
  marks : List Char

/-- Whether a character may still be composed with the base. -/
def Progress.isOpen (p : Progress) (c : Char) : Bool :=
  match p.marks with
  | [] => true
  | last :: _ => classOf last < classOf c

def Progress.reversed (p : Progress) : List Char := p.marks ++ p.base.toList ++ p.done

/-- Adds the next character. -/
def Progress.add (p : Progress) (c : Char) : Progress :=
  match (if p.isOpen c then p.base.bind fun base => composed? base c else none) with
  | some c => { p with base := some c }
  | none =>
      if classOf c = 0 then ⟨p.reversed, some c, []⟩ else { p with marks := c :: p.marks }

/-- The canonical form of a text. -/
def compose (cs : List Char) : List Char :=
  ((decompose cs).foldl Progress.add ⟨[], none, []⟩).reversed.reverse

end AuditReminder.Text.Canonical
