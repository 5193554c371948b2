/-
Texts shown between double quotes.

Where a text is shown as a value it stands between double quotes; quotes and backslashes in it
are escaped, breaks have letters of their own, and what cannot be seen is shown by its code
point.  Main definition: `quotedText`.
-/
import AuditReminder.Number.Hexadecimal
import AuditReminder.Text.Unseen

namespace AuditReminder.Text

/-- A character as it stands between the quotes. -/
def quotedChar (c : Char) : List Char :=
  if c = '"' then ['\\', '"']
  else if c = '\\' then ['\\', '\\']
  else if c = '\n' then ['\\', 'n']
  else if c = '\r' then ['\\', 'r']
  else if c = '\t' then ['\\', 't']
  else if c = '\x00' then ['\\', '0']
  else if isUnseen c then '\\' :: 'u' :: '\x7b' :: Hexadecimal.digits c.toNat ++ ['\x7d']
  else [c]

/-- A text between double quotes. -/
def quotedText (s : String) : String :=
  String.ofList ('"' :: s.toList.flatMap quotedChar ++ ['"'])

end AuditReminder.Text
