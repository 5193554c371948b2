/-
Templates.

A template is text with placeholders between double braces.  `expand` copies the text and puts
in what `lookup` gives for the trimmed text of each placeholder, from the left; what is put in
is not looked at again.  A placeholder that is never closed is a fault at the byte where it
opens.  `TemplatePair.check` tells, without a request, whether a pair can be expanded for a kind
of notice.
-/
import AuditReminder.Text.Blank
import AuditReminder.Text.Bytes
import AuditReminder.Tier

namespace AuditReminder

/-- Why a notice cannot be rendered. -/
inductive RenderFault where
  | unknownVariable (name : String)
  | variableNotAvailable (name : String)
  | unterminated (position : Nat)
  | invalidDateFormat (format : String)
deriving DecidableEq

namespace RenderFault

def message : RenderFault → String
  | unknownVariable name => "Unknown template variable '" ++ name ++ "'"
  | variableNotAvailable name =>
      "Template variable '" ++ name ++ "' is not available for this notification kind"
  | unterminated position =>
      "Unterminated placeholder at byte " ++ Decimal.text position
  | invalidDateFormat format => "Invalid date format '" ++ format ++ "'"

end RenderFault

namespace Template

/-- The text before the first place where `mark` stands twice, and the text after that pair. -/
def breakAtPair (mark : Char) : List Char → Option (List Char × List Char)
  | a :: b :: rest =>
      if a = mark ∧ b = mark then some ([], rest)
      else (breakAtPair mark (b :: rest)).map fun (before, after) => (a :: before, after)
  | _ => none

/-- Breaking a text takes the pair out and nothing else. -/
theorem eq_of_breakAtPair {mark : Char} {cs before after : List Char}
    (h : breakAtPair mark cs = some (before, after)) : cs = before ++ mark :: mark :: after := by
  fun_induction breakAtPair mark cs generalizing before after with
  | case1 a b rest hmark =>
    simp only [Option.some.injEq, Prod.mk.injEq] at h
    obtain ⟨rfl, rfl⟩ := h
    simp [hmark]
  | case2 a b rest hmark ih =>
    simp only [Option.map_eq_some_iff, Prod.mk.injEq, Prod.exists] at h
    obtain ⟨before', after', h', rfl, rfl⟩ := h
    simp [ih h']
  | case3 => simp at h

theorem length_of_breakAtPair {mark : Char} {cs before after : List Char}
    (h : breakAtPair mark cs = some (before, after)) : after.length < cs.length := by
  rw [eq_of_breakAtPair h]
  simp only [List.length_append, List.length_cons]
  omega

/-- Copies a template and puts in the value of each placeholder; `position` is the byte at which
the text starts within its template, and `unterminated` makes the fault of a placeholder that is
never closed. -/
def expandFrom {ε : Type} (unterminated : Nat → ε) (lookup : String → Except ε String)
    (position : Nat) (template : List Char) : Except ε (List Char) :=
  match h : breakAtPair '\x7b' template with
  | none => .ok template
  | some (before, after) =>
      match h' : breakAtPair '\x7d' after with
      | none => .error (unterminated (position + Text.byteLength before))
      | some (inside, rest) =>
          have : rest.length < template.length :=
            Nat.lt_trans (length_of_breakAtPair h') (length_of_breakAtPair h)
          match lookup (String.ofList (Text.trimBlanks inside)) with
          | .error fault => .error fault
          | .ok value =>
              let position := position + Text.byteLength before + 2 + Text.byteLength inside + 2
              match expandFrom unterminated lookup position rest with
              | .error fault => .error fault
              | .ok tail => .ok (before ++ value.toList ++ tail)
termination_by template.length

/-- The text of a template with every placeholder filled. -/
def expand {ε : Type} (unterminated : Nat → ε) (lookup : String → Except ε String)
    (template : String) : Except ε String :=
  (expandFrom unterminated lookup 0 template.toList).map String.ofList

/-- The names that every notice may use. -/
def commonVariables : List String := ["group", "url", "ends_at", "tier"]

/-- Whether a name may stand in a placeholder of a kind of notice. -/
def variableFault? (kind : Kind) (name : String) : Option RenderFault :=
  if name ∈ commonVariables then none
  else if name = "days_left" then
    if kind = .reminder then none else some (.variableNotAvailable name)
  else some (.unknownVariable name)

end Template

/-- The subject and the body of one kind of notice. -/
structure TemplatePair where
  subject : String
  body : String
deriving DecidableEq

namespace TemplatePair

/-- Stands for a value where only the name of a placeholder matters. -/
def probe (kind : Kind) (name : String) : Except RenderFault String :=
  match Template.variableFault? kind name with
  | some fault => .error fault
  | none => .ok ""

/-- The first fault of the subject, else of the body. -/
def check (pair : TemplatePair) (kind : Kind) : Except RenderFault Unit := do
  let _ ← Template.expand .unterminated (probe kind) pair.subject
  let _ ← Template.expand .unterminated (probe kind) pair.body
  return ()

end TemplatePair

end AuditReminder
