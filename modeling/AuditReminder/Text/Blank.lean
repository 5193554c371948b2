/-
Blank text.

A character is blank when Unicode gives it the property White_Space.  Names, groups and
addresses are refused when nothing but blanks is left of them, and the name inside a template
placeholder is taken without the blanks around it.  Main definitions: `isBlank`, `trimBlanks`
and `allBlank`.
-/

namespace AuditReminder.Text

/-- The characters with the property White_Space. -/
def isBlank (c : Char) : Bool :=
  (0x09 ≤ c.toNat && c.toNat ≤ 0x0D) || c.toNat == 0x20 || c.toNat == 0x85 || c.toNat == 0xA0 ||
  c.toNat == 0x1680 || (0x2000 ≤ c.toNat && c.toNat ≤ 0x200A) || c.toNat == 0x2028 ||
  c.toNat == 0x2029 || c.toNat == 0x202F || c.toNat == 0x205F || c.toNat == 0x3000

/-- The characters left once the leading blanks are gone. -/
def dropBlanks (cs : List Char) : List Char := cs.dropWhile isBlank

/-- The characters left once the blanks at the end are gone. -/
def dropBlanksEnd (cs : List Char) : List Char := (cs.reverse.dropWhile isBlank).reverse

/-- The characters between the blanks at either end. -/
def trimBlanks (cs : List Char) : List Char := dropBlanksEnd (dropBlanks cs)

/-- A text is blank when it holds blanks only; the empty text is blank. -/
def allBlank (s : String) : Bool := s.toList.all isBlank

end AuditReminder.Text
