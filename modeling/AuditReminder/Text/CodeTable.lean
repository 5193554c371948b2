/-
Tables of code points.

A table gives values to ranges of code points, in their order.  It is written as text: each range in
base sixteen, then the text of its value, with blanks between the ranges.  Main definitions:
`CodeTable.read` and `CodeTable.find?`.  Main statement: `exists_of_find?`, by which a value that
is found is that of a range with the character in it.
-/
import AuditReminder.Number.Hexadecimal
import AuditReminder.Text.Split

namespace AuditReminder

/-- The code points from the first to the last, and what they stand for. -/
structure CodeRange (α : Type) where
  first : Nat
  last : Nat
  value : α

/-- Ranges in the order of code points. -/
structure CodeTable (α : Type) where
  ranges : Array (CodeRange α)

namespace CodeTable

/-- The number at the start of a text, and the rest. -/
def number (cs : List Char) : Nat × List Char :=
  let digits := cs.takeWhile fun c => (Hexadecimal.value? c).isSome
  ((Hexadecimal.number? digits).getD 0, cs.drop digits.length)

/-- A range: one code point, or two with a hyphen between them; then its value. -/
def readRange (value : List Char → α) (cs : List Char) : CodeRange α :=
  let (first, rest) := number cs
  match rest with
  | '-' :: rest =>
      let (last, rest) := number rest
      ⟨first, last, value rest⟩
  | _ => ⟨first, first, value rest⟩

/-- The table of a text. -/
def read (value : List Char → α) (text : String) : CodeTable α :=
  let words := Text.split ' ' (text.toList.map fun c => if c = '\n' then ' ' else c)
  ⟨((words.filter (· ≠ [])).map (readRange value)).toArray⟩

/-- Looks for a code point between two places. -/
def search (ranges : Array (CodeRange α)) (code low high : Nat) : Option α :=
  if low < high then
    match ranges[(low + high) / 2]? with
    | none => none
    | some range =>
        if code < range.first then search ranges code low ((low + high) / 2)
        else if range.last < code then search ranges code ((low + high) / 2 + 1) high
        else some range.value
  else none
termination_by high - low

/-- What is found is the value of a range that holds the code point. -/
theorem exists_of_search {ranges : Array (CodeRange α)} {code low high : Nat} {value : α}
    (h : search ranges code low high = some value) :
    ∃ range ∈ ranges, range.first ≤ code ∧ code ≤ range.last ∧ range.value = value := by
  fun_induction search ranges code low high with
  | case1 => cases h
  | case2 _ _ _ _ _ _ ih => exact ih h
  | case3 _ _ _ _ _ _ _ ih => exact ih h
  | case4 low high _ range found notBefore notAfter =>
    exact ⟨range, Array.mem_of_getElem? found, Nat.le_of_not_lt notBefore,
      Nat.le_of_not_lt notAfter, Option.some.inj h⟩
  | case5 => cases h

/-- What a character stands for. -/
def find? (table : CodeTable α) (c : Char) : Option α :=
  search table.ranges c.toNat 0 table.ranges.size

theorem exists_of_find? {table : CodeTable α} {c : Char} {value : α}
    (h : table.find? c = some value) :
    ∃ range ∈ table.ranges, range.first ≤ c.toNat ∧ c.toNat ≤ range.last ∧ range.value = value :=
  exists_of_search h

/-- Whether a character is in one of the ranges. -/
def contains (table : CodeTable α) (c : Char) : Bool := (table.find? c).isSome

/-- The set of the code points of a text. -/
def readSet (text : String) : CodeTable Unit := read (fun _ => ()) text

end CodeTable

end AuditReminder
