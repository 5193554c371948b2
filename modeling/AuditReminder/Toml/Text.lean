/-
Texts of TOML.

A text is written in one of four forms: between one or three quotes, double or single.  Between
double quotes a backslash escapes; between single quotes everything stands for itself.  The writer
takes the first form in which a text can stand without escapes, and escapes only where there is
none.  Main definitions: `Form.of`, `write`, and the readers `basic`, `literal`, `basicLines` and
`literalLines`.
-/
import AuditReminder.Number.Hexadecimal
import AuditReminder.Toml.Value

namespace AuditReminder.Toml

/-- The characters of a key without quotes. -/
def isBare (c : Char) : Bool := c.isAlphanum || c == '_' || c == '-'

/-! ## Writing -/

/-- The forms in which a text can be written. -/
inductive Form where
  /-- Between two double quotes. -/
  | basic
  /-- Between two single quotes. -/
  | literal
  /-- Between three double quotes, over several lines. -/
  | basicLines
  /-- Between three single quotes, over several lines. -/
  | literalLines
deriving DecidableEq

/-- Whether a character must be escaped in every form: a control other than tab and line feed. -/
def needsEscape (c : Char) : Bool :=
  (c.toNat < 0x20 && c != '\t' && c != '\n') || c.toNat == 0x7F

/-- The length of the longest run of a character, `run` of which stand in front. -/
def longestRun (c : Char) (run : Nat) : List Char → Nat
  | [] => run
  | d :: rest => if d = c then longestRun c (run + 1) rest else max run (longestRun c 0 rest)

namespace Form

/-- Whether a text can stand in a form without any escape. -/
def suits (form : Form) (cs : List Char) : Bool :=
  !cs.any needsEscape &&
    match form with
    | basic => !cs.contains '\\' && !cs.contains '"' && !cs.contains '\n'
    | literal => !cs.contains '\x27' && !cs.contains '\n'
    | basicLines => !cs.contains '\\' && longestRun '"' 0 cs ≤ 2
    | literalLines => longestRun '\x27' 0 cs ≤ 2

/-- The form of a text: the first that suits it; a text that none suits is escaped. -/
def of (cs : List Char) : Form :=
  match [basic, literal, basicLines, literalLines].find? (·.suits cs) with
  | some form => form
  | none => if cs.contains '\n' then basicLines else basic

end Form

/-- A character by its code point. -/
def codePoint (c : Char) : List Char :=
  let n := c.toNat
  ['\\', 'u', '0', '0'] ++ (Hexadecimal.byte n).map Char.toUpper

/-- A character between double quotes, other than a quote or a line feed. -/
def escaped (c : Char) : List Char :=
  if c = '\x08' then ['\\', 'b']
  else if c = '\t' then ['\\', 't']
  else if c = '\x0c' then ['\\', 'f']
  else if c = '\r' then ['\\', 'r']
  else if c = '\\' then ['\\', '\\']
  else if needsEscape c then codePoint c
  else [c]

/-- The inside of a text between double quotes. -/
def escapedLine (cs : List Char) : List Char :=
  cs.flatMap fun c =>
    if c = '"' then ['\\', '"'] else if c = '\n' then ['\\', 'n'] else escaped c

/-- The inside of a text between three double quotes: every third quote of a run is escaped.
`run` counts the quotes since the last that was. -/
def escapedLines (run : Nat) : List Char → List Char
  | [] => []
  | c :: rest =>
      if c = '"' then
        if run = 2 then '\\' :: '"' :: escapedLines 0 rest else '"' :: escapedLines (run + 1) rest
      else if c = '\n' then '\n' :: escapedLines 0 rest
      else escaped c ++ escapedLines 0 rest

/-- Three double quotes. -/
def tripleQuote : List Char := ['"', '"', '"']

/-- Three single quotes. -/
def tripleApostrophe : List Char := ['\x27', '\x27', '\x27']

/-- A text in its form. -/
def writeText (s : String) : List Char :=
  let cs := s.toList
  match Form.of cs with
  | .basic => '"' :: escapedLine cs ++ ['"']
  | .literal => '\x27' :: cs ++ ['\x27']
  | .basicLines => tripleQuote ++ '\n' :: escapedLines 0 cs ++ tripleQuote
  | .literalLines => tripleApostrophe ++ '\n' :: cs ++ tripleApostrophe

/-! ## Reading -/

/-- Takes a value from the front of a text and gives the rest, or gives the place where it
stopped. -/
abbrev Reader (α : Type) := List Char → Except (List Char) (α × List Char)

/-- Puts characters in front of what was read. -/
def prepend (before : List Char) :
    Except (List Char) (List Char × List Char) → Except (List Char) (List Char × List Char)
  | .ok (cs, rest) => .ok (before ++ cs, rest)
  | .error stop => .error stop

/-- Characters that stand for themselves in any text: the tab, and all that is no control. -/
def isPlain (c : Char) : Bool := c == '\t' || (0x20 ≤ c.toNat && c.toNat != 0x7F)

/-- The character of a code point given in digits of base sixteen. -/
def charOfHex? (digits : List Char) : Option Char := do
  let n ← Hexadecimal.number? digits
  if n < 0xD800 ∨ (0xDFFF < n ∧ n < 0x110000) then some (Char.ofNat n) else none

/-- The character of an escape by one letter. -/
def charOfLetter? : Char → Option Char
  | 'b' => some '\x08'
  | 't' => some '\t'
  | 'n' => some '\n'
  | 'f' => some '\x0c'
  | 'r' => some '\r'
  | '"' => some '"'
  | '\\' => some '\\'
  | _ => none

/-- The character of an escape by code point, and the rest. -/
def numberedEscape (count : Nat) (cs : List Char) : Option (Char × List Char) :=
  if cs.length < count then none
  else (charOfHex? (cs.take count)).map fun c => (c, cs.drop count)

/-- The character of an escape, given what follows its backslash. -/
def escape? : List Char → Option (Char × List Char)
  | [] => none
  | c :: rest =>
      if c = 'u' then numberedEscape 4 rest
      else if c = 'U' then numberedEscape 8 rest
      else (charOfLetter? c).map fun d => (d, rest)

theorem length_of_escape? {cs rest : List Char} {c : Char} (h : escape? cs = some (c, rest)) :
    rest.length < cs.length := by
  cases cs with
  | nil => simp [escape?] at h
  | cons d ds =>
    have numbered : ∀ n, numberedEscape n ds = some (c, rest) → rest.length < (d :: ds).length := by
      intro n h
      rw [numberedEscape] at h
      split at h
      · simp at h
      · simp only [Option.map_eq_some_iff, Prod.mk.injEq] at h
        obtain ⟨_, _, _, rfl⟩ := h
        simp only [List.length_drop, List.length_cons]
        omega
    rw [escape?] at h
    split at h
    · exact numbered _ h
    · split at h
      · exact numbered _ h
      · simp only [Option.map_eq_some_iff, Prod.mk.injEq] at h
        obtain ⟨_, _, _, rfl⟩ := h
        simp

/-- A text between double quotes, after the first. -/
def basic : Reader (List Char)
  | [] => .error []
  | c :: rest =>
      if c = '"' then .ok ([], rest)
      else if c = '\\' then
        match h : escape? rest with
        | none => .error (c :: rest)
        | some (d, after) =>
            have := length_of_escape? h
            prepend [d] (basic after)
      else if isPlain c then prepend [c] (basic rest)
      else .error (c :: rest)
termination_by cs => cs.length

/-- A text between single quotes, after the first. -/
def literal : Reader (List Char)
  | [] => .error []
  | c :: rest =>
      if c = '\x27' then .ok ([], rest)
      else if isPlain c then prepend [c] (literal rest)
      else .error (c :: rest)

/-- The line break that may follow three opening quotes. -/
def dropBreak : List Char → List Char
  | '\n' :: rest => rest
  | '\r' :: '\n' :: rest => rest
  | cs => cs

/-- What follows three quotes that may close a text: up to two more belong to the text. -/
def closing (quote : Char) (cs : List Char) : List Char × List Char :=
  let extra := (cs.takeWhile (· == quote)).take 2
  (extra, cs.drop extra.length)

/-- The blanks of a line. -/
def isSpace (c : Char) : Bool := c == ' ' || c == '\t'

/-- What follows a backslash at the end of a line: the next character that is no blank and no
line break. -/
def continued? (cs : List Char) : Option (List Char) :=
  match cs.dropWhile isSpace with
  | '\n' :: rest => some (pass rest)
  | '\r' :: '\n' :: rest => some (pass rest)
  | _ => none
where
  /-- Passes over blanks and line breaks. -/
  pass : List Char → List Char
    | '\r' :: '\n' :: rest => pass rest
    | c :: rest => if isSpace c || c == '\n' then pass rest else c :: rest
    | [] => []

theorem length_pass_le : ∀ cs : List Char, (continued?.pass cs).length ≤ cs.length := by
  intro cs
  fun_induction continued?.pass cs with
  | case1 rest ih => simp only [List.length_cons]; omega
  | case2 c rest _ _ ih => simp only [List.length_cons]; omega
  | case3 => simp
  | case4 => simp

theorem length_of_continued? {cs rest : List Char} (h : continued? cs = some rest) :
    rest.length < cs.length := by
  have drop : (cs.dropWhile isSpace).length ≤ cs.length := (List.dropWhile_suffix _).length_le
  rw [continued?] at h
  split at h
  · next after e =>
    cases h
    have := length_pass_le after
    rw [e] at drop
    simp only [List.length_cons] at drop
    omega
  · next after e =>
    cases h
    have := length_pass_le after
    rw [e] at drop
    simp only [List.length_cons] at drop
    omega
  · simp at h

/-- A text between three double quotes, after them and the line break there. -/
def basicLines : Reader (List Char)
  | [] => .error []
  | '"' :: '"' :: '"' :: rest => .ok (closing '"' rest)
  | '\r' :: '\n' :: rest => prepend ['\n'] (basicLines rest)
  | c :: rest =>
      if c = '\\' then
        match h : continued? rest with
        | some after =>
            have := length_of_continued? h
            basicLines after
        | none =>
            match h' : escape? rest with
            | none => .error (c :: rest)
            | some (d, after) =>
                have := length_of_escape? h'
                prepend [d] (basicLines after)
      else if c = '\n' || isPlain c then prepend [c] (basicLines rest)
      else .error (c :: rest)
termination_by cs => cs.length

/-- A text between three single quotes, after them and the line break there. -/
def literalLines : Reader (List Char)
  | [] => .error []
  | '\x27' :: '\x27' :: '\x27' :: rest => .ok (closing '\x27' rest)
  | '\r' :: '\n' :: rest => prepend ['\n'] (literalLines rest)
  | c :: rest =>
      if c = '\n' || isPlain c then prepend [c] (literalLines rest) else .error (c :: rest)

/-- A text in any form, from its first quote on. -/
def readText : Reader String := fun cs =>
  let body : Except (List Char) (List Char × List Char) :=
    match cs with
    | '"' :: '"' :: '"' :: rest => basicLines (dropBreak rest)
    | '"' :: rest => basic rest
    | '\x27' :: '\x27' :: '\x27' :: rest => literalLines (dropBreak rest)
    | '\x27' :: rest => literal rest
    | _ => .error cs
  match body with
  | .ok (inside, rest) => .ok (String.ofList inside, rest)
  | .error stop => .error stop

end AuditReminder.Toml
