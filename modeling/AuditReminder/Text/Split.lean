/-
Texts in parts.

A text is split at each place where a separator stands; the parts may be empty, and there is always
at least one.  Main statement: `join_split`, by which joining the parts gives the text back.
-/

namespace AuditReminder.Text

/-- The parts between the separators. -/
def split (separator : Char) : List Char → List (List Char)
  | [] => [[]]
  | c :: cs =>
      if c = separator then [] :: split separator cs
      else match split separator cs with
        | [] => [[c]]
        | part :: parts => (c :: part) :: parts

/-- Parts with a separator between them. -/
def join (separator : Char) : List (List Char) → List Char
  | [] => []
  | [part] => part
  | part :: parts => part ++ separator :: join separator parts

theorem split_ne_nil (separator : Char) (cs : List Char) : split separator cs ≠ [] := by
  cases cs with
  | nil => simp [split]
  | cons c cs =>
    rw [split]
    split
    · simp
    · split <;> simp

theorem join_split (separator : Char) (cs : List Char) :
    join separator (split separator cs) = cs := by
  induction cs with
  | nil => rfl
  | cons c cs ih =>
    rw [split]
    have some := split_ne_nil separator cs
    split
    · next h =>
      cases e : split separator cs with
      | nil => exact absurd e some
      | cons part parts =>
        rw [e] at ih
        simp [join, ih, h]
    · cases e : split separator cs with
      | nil => exact absurd e some
      | cons part parts =>
        rw [e] at ih
        cases parts with
        | nil => simpa [join] using ih
        | cons next parts => simpa [join] using ih

/-- No part holds the separator. -/
theorem not_mem_of_mem_split {separator : Char} {cs part : List Char}
    (h : part ∈ split separator cs) : separator ∉ part := by
  induction cs generalizing part with
  | nil => simp_all [split]
  | cons c cs ih =>
    rw [split] at h
    split at h
    · rcases List.mem_cons.1 h with rfl | h
      · simp
      · exact ih h
    · next ne =>
      cases e : split separator cs with
      | nil => exact absurd e (split_ne_nil separator cs)
      | cons first parts =>
        rw [e] at h ih
        rcases List.mem_cons.1 h with rfl | h
        · have := ih List.mem_cons_self
          simp [this, Ne.symm ne]
        · exact ih (List.mem_cons_of_mem _ h)

/-- The parts of a text as texts. -/
def parts (separator : Char) (s : String) : List String :=
  (split separator s.toList).map String.ofList

end AuditReminder.Text
