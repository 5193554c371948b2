/-
Texts in columns.

A text is filled up with spaces at its end; one that is longer than its column stands as it is.
-/

namespace AuditReminder.Text

/-- A text with spaces after it up to a number of characters. -/
def column (width : Nat) (s : String) : String :=
  String.ofList (s.toList ++ List.replicate (width - s.toList.length) ' ')

end AuditReminder.Text
