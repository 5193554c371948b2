/-
Values in JSON.

The compact text of a value is read as that value, as long as it is made of texts, whole numbers of
64 bits, lists and objects and does not nest too deep (`Plain`).  Reading gives a document whose
parts carry places, so what is kept of it is a relation, `Shows`: the document is the value, wherever
its parts were read.

Lists and objects are read part by part, with one unit of fuel for each part and one for each level.
Each of them costs characters of the text as well, so twice as much fuel as characters is enough.
A number has no closing mark of its own, so what is read behind a value must end one; within lists
and objects that is always so (`endsNumber_afterItem`, `endsNumber_afterField`).

Main statements: `source_of_shows`, by which what is decoded wherever a value is read is decoded
from its text, `newline_not_mem_compact`, and `NameSet.source_compact`.
-/
import AuditReminder.Proofs.Json.Numbers
import AuditReminder.Proofs.Json.Texts

namespace AuditReminder

namespace Json

open Document

/-! ## Values made of texts and numbers -/

mutual

/-- The value is made of texts, whole numbers, lists and objects, and nests less than so many levels
deep. -/
def Plain : Nat → Json → Prop
  | _, .text _ => True
  | _, .integer n => Whole n
  | levels, .list items => 1 < levels ∧ PlainItems (levels - 1) items
  | levels, .object fields => 1 < levels ∧ PlainFields (levels - 1) fields
  | _, _ => False

def PlainItems : Nat → List Json → Prop
  | _, [] => True
  | levels, item :: rest => item.Plain levels ∧ PlainItems levels rest

def PlainFields : Nat → List (String × Json) → Prop
  | _, [] => True
  | levels, field :: rest => field.2.Plain levels ∧ PlainFields levels rest

end

mutual

/-- The document is the value, wherever its parts were read. -/
def Shows : Json → Node → Prop
  | .text s, node => ∃ after, node = .atom (.text s) after
  | .integer n, node => ∃ after, node = .atom (.integer n) after
  | .list items, node => ∃ nodes before, node = .list nodes .closed before ∧ ShowsItems items nodes
  | .object fields, node =>
      ∃ parts before, node = .record parts .closed before ∧ ShowsFields fields parts
  | _, _ => False

def ShowsItems : List Json → List Node → Prop
  | [], nodes => nodes = []
  | item :: rest, nodes =>
      ∃ node others, nodes = node :: others ∧ item.Shows node ∧ ShowsItems rest others

def ShowsFields : List (String × Json) → List (Key × Node) → Prop
  | [], parts => parts = []
  | field :: rest, parts =>
      ∃ node others, parts = (.ok field.1, node) :: others ∧ field.2.Shows node ∧
        ShowsFields rest others

end

theorem plainFields_iff {levels : Nat} {fields : List (String × Json)} :
    PlainFields levels fields ↔ ∀ field ∈ fields, field.2.Plain levels := by
  induction fields with
  | nil => simp [PlainFields]
  | cons first rest ih => simp [PlainFields, ih]

mutual

theorem Plain.mono : ∀ {v : Json} {m n : Nat}, m ≤ n → v.Plain m → v.Plain n
  | .text _, _, _, _, _ => trivial
  | .integer _, _, _, _, hv => hv
  | .list _, _, _, h, hv =>
      ⟨Nat.lt_of_lt_of_le hv.1 h, PlainItems.mono (Nat.sub_le_sub_right h 1) hv.2⟩
  | .object _, _, _, h, hv =>
      ⟨Nat.lt_of_lt_of_le hv.1 h, PlainFields.mono (Nat.sub_le_sub_right h 1) hv.2⟩
  | .null, _, _, _, hv => hv.elim
  | .bool _, _, _, _, hv => hv.elim
  | .float _, _, _, _, hv => hv.elim

theorem PlainItems.mono : ∀ {items : List Json} {m n : Nat}, m ≤ n → PlainItems m items →
    PlainItems n items
  | [], _, _, _, _ => trivial
  | _ :: _, _, _, h, hv => ⟨Plain.mono h hv.1, PlainItems.mono h hv.2⟩

theorem PlainFields.mono : ∀ {fields : List (String × Json)} {m n : Nat}, m ≤ n →
    PlainFields m fields → PlainFields n fields
  | [], _, _, _, _ => trivial
  | _ :: _, _, _, h, hv => ⟨Plain.mono h hv.1, PlainFields.mono h hv.2⟩

end

/-! ## The first character -/

variable {levels fuel : Nat} {rest : List Char} {p : Position}

theorem not_space_of_signed {n : Int} {c : Char} (h : c ∈ Decimal.signed n) :
    Cursor.isSpace c = false ∧ c ≠ ']' := by
  rcases Decimal.mem_signed h with rfl | hdigit
  · exact ⟨by decide, by decide⟩
  · have hne {d : Char} (hd : d.isDigit = false) : c ≠ d := by
      rintro rfl
      rw [hd] at hdigit
      cases hdigit
    exact ⟨by simp [Cursor.isSpace, hne (d := ' ') rfl, hne (d := '\n') rfl, hne (d := '\t') rfl,
      hne (d := '\r') rfl], hne rfl⟩

theorem compactChars_head {v : Json} (hv : v.Plain levels) :
    ∃ c cs, compactChars v = c :: cs ∧ Cursor.isSpace c = false ∧ c ≠ ']' := by
  cases v with
  | text s => exact ⟨'"', _, rfl, by decide, by decide⟩
  | list items => exact ⟨'[', _, by rw [compactChars], by decide, by decide⟩
  | object fields => exact ⟨'\x7b', _, by rw [compactChars], by decide, by decide⟩
  | integer n =>
      have hchars : compactChars (.integer n) = Decimal.signed n := rfl
      rw [hchars]
      rcases hsigned : Decimal.signed n with _ | ⟨c, cs⟩
      · exact (Decimal.signed_ne_nil n hsigned).elim
      · obtain ⟨hspace, hbracket⟩ := not_space_of_signed (hsigned ▸ List.mem_cons_self)
        exact ⟨c, cs, rfl, hspace, hbracket⟩
  | null | bool | float => exact hv.elim

theorem passSpaces_cons {c : Char} {cs : List Char} (h : Cursor.isSpace c = false) :
    Cursor.passSpaces ⟨c :: cs, p⟩ = ⟨c :: cs, p⟩ := by
  simp [Cursor.passSpaces, Cursor.pass, Cursor.placeAfter, h]

theorem quote_append (name : String) (rest : List Char) :
    quote name ++ rest = '"' :: (name.toList.flatMap escape ++ '"' :: rest) := by
  simp [quote]

/-- What follows an item: the bracket, or a comma and the other items. -/
theorem compactItems_cons (item : Json) (items : List Json) :
    compactItems (item :: items)
      = compactChars item ++ if items.isEmpty then [']'] else ',' :: compactItems items := by
  cases items <;> simp [compactItems]

theorem compactFields_cons (field : String × Json) (fields : List (String × Json)) :
    compactFields (field :: fields) = quote field.1 ++ ':' :: (compactChars field.2 ++
      if fields.isEmpty then ['\x7d'] else ',' :: compactFields fields) := by
  cases fields <;> simp [compactFields]

/-! ## Reading one part -/

/-- The value was read as it is, up to the rest. -/
def ReadsAs (v : Json) (rest : List Char) (reading : Reading Node) : Prop :=
  ∃ node place, reading = (node, some ⟨rest, place⟩) ∧ v.Shows node

def ReadsItems (items : List Json) (rest : List Char)
    (reading : List Node × Ending × Option Cursor) : Prop :=
  ∃ nodes place, reading = (nodes, .closed, some ⟨rest, place⟩) ∧ ShowsItems items nodes

def ReadsFields (fields : List (String × Json)) (rest : List Char)
    (reading : List (Key × Node) × Ending × Option Cursor) : Prop :=
  ∃ parts place, reading = (parts, .closed, some ⟨rest, place⟩) ∧ ShowsFields fields parts

theorem readsAs_text (s : String) :
    ReadsAs (.text s) rest (readValue (fuel + 1) ⟨quote s ++ rest, p⟩) := by
  obtain ⟨place, hread⟩ := readText_escaped s.toList [] (p.next '"') rest
  refine ⟨.atom (.text s) (some place), place, ?_, some place, rfl⟩
  rw [quote_append, readValue, passSpaces_cons (by decide)]
  simp only [textNode, hread, Except.map, atomNode, List.reverse_nil, List.nil_append,
    String.ofList_toList]
  rfl

theorem readsAs_integer {n : Int} (h : Whole n) (hrest : EndsNumber rest) :
    ReadsAs (.integer n) rest (readValue (fuel + 1) ⟨Decimal.signed n ++ rest, p⟩) := by
  obtain ⟨place, hread⟩ := readNumber_signed (p := p) h hrest
  refine ⟨.atom (.integer n) (some place), place, ?_, some place, rfl⟩
  have hnode : numberNode ⟨Decimal.signed n ++ rest, p⟩
      = (.atom (.integer n) (some place), some ⟨rest, place⟩) := by
    rw [numberNode, hread]
    rfl
  rcases hsigned : Decimal.signed n with _ | ⟨c, cs⟩
  · exact (Decimal.signed_ne_nil n hsigned).elim
  · have hc : c ∈ Decimal.signed n := hsigned ▸ List.mem_cons_self
    have hspace := (not_space_of_signed hc).1
    have hsign : c = '-' ∨ c.isDigit = true := Decimal.mem_signed hc
    have hne {d : Char} (hd : d.isDigit = false) (hminus : d ≠ '-') : c ≠ d := by
      rintro rfl
      rcases hsign with rfl | hdigit
      · exact hminus rfl
      · rw [hd] at hdigit
        cases hdigit
    rw [hsigned] at hnode
    rw [List.cons_append] at hnode ⊢
    rw [readValue, passSpaces_cons hspace]
    simp only [if_neg (hne (d := 'n') rfl (by decide)), if_neg (hne (d := 't') rfl (by decide)),
      if_neg (hne (d := 'f') rfl (by decide)), if_neg (hne (d := '"') rfl (by decide)),
      if_pos hsign, hnode]

theorem readsItems_close {first : Bool} :
    ReadsItems [] rest (readItems (fuel + 1) first ⟨']' :: rest, p⟩) := by
  refine ⟨[], p.next ']', ?_, rfl⟩
  rw [readItems, passSpaces_cons (by decide)]
  rfl

theorem readsFields_close {first : Bool} :
    ReadsFields [] rest (readFields (fuel + 1) first ⟨'\x7d' :: rest, p⟩) := by
  refine ⟨[], p.next '\x7d', ?_, rfl⟩
  rw [readFields, passSpaces_cons (by decide)]
  rfl

/-- An item is expected where the list starts. -/
theorem readItems_first {item : Json} {cs : List Char} (hv : item.Plain levels) :
    readItems (fuel + 1) true ⟨compactChars item ++ cs, p⟩
      = readItems.itemThenRest fuel ⟨compactChars item ++ cs, p⟩ := by
  obtain ⟨c, tail, hhead, hspace, hbracket⟩ := compactChars_head hv
  rw [hhead, List.cons_append, readItems, passSpaces_cons hspace]
  simp only [if_neg hbracket, if_true]

/-- Behind a comma a list goes on as it starts. -/
theorem readItems_comma {item : Json} {cs : List Char} (hv : item.Plain levels) :
    readItems (fuel + 1) false ⟨',' :: (compactChars item ++ cs), p⟩
      = readItems (fuel + 1) true ⟨compactChars item ++ cs, p.next ','⟩ := by
  rw [readItems_first hv]
  obtain ⟨c, tail, hhead, hspace, hbracket⟩ := compactChars_head hv
  rw [hhead, List.cons_append, readItems, passSpaces_cons (by decide)]
  simp only [passSpaces_cons hspace, if_neg hbracket]
  rfl

/-- A name is expected where the object starts. -/
theorem readFields_first (name : String) {cs : List Char} :
    readFields (fuel + 1) true ⟨quote name ++ cs, p⟩
      = readFields.fieldThenRest fuel ⟨name.toList.flatMap escape ++ '"' :: cs, p.next '"'⟩ := by
  rw [quote_append, readFields, passSpaces_cons (by decide)]
  rfl

/-- Behind a comma an object goes on as it starts. -/
theorem readFields_comma (name : String) {cs : List Char} :
    readFields (fuel + 1) false ⟨',' :: (quote name ++ cs), p⟩
      = readFields (fuel + 1) true ⟨quote name ++ cs, p.next ','⟩ := by
  rw [readFields_first, quote_append, readFields, passSpaces_cons (by decide)]
  simp only [passSpaces_cons (c := '"') (by decide)]
  rfl

/-- An item is read, and then those after it. -/
theorem readsItems_cons {item : Json} {items : List Json} {cs : List Char} {here : Cursor}
    (hitem : ReadsAs item cs (readValue fuel here))
    (hitems : ∀ p, ReadsItems items rest (readItems fuel false ⟨cs, p⟩)) :
    ReadsItems (item :: items) rest (readItems.itemThenRest fuel here) := by
  obtain ⟨node, place, hread, hshows⟩ := hitem
  obtain ⟨nodes, place', hreads, hshown⟩ := hitems place
  refine ⟨node :: nodes, place', ?_, node, nodes, rfl, hshows, hshown⟩
  rw [readItems.itemThenRest, hread]
  simp only [hreads]

/-- A field is read behind its name and the colon, and then those after it. -/
theorem readsFields_cons {field : String × Json} {fields : List (String × Json)}
    {cs cs' : List Char}
    (hfield : ∀ p, ReadsAs field.2 cs' (readValue fuel ⟨cs, p⟩))
    (hfields : ∀ p, ReadsFields fields rest (readFields fuel false ⟨cs', p⟩)) :
    ReadsFields (field :: fields) rest
      (readFields.fieldThenRest fuel ⟨field.1.toList.flatMap escape ++ '"' :: ':' :: cs, p⟩) := by
  obtain ⟨after, hkey⟩ := readText_escaped field.1.toList [] p (':' :: cs)
  obtain ⟨colon, hpassed⟩ := passText_escaped field.1.toList p (':' :: cs)
  obtain ⟨node, place, hread, hshows⟩ := hfield (colon.next ':')
  obtain ⟨parts, place', hreads, hshown⟩ := hfields place
  refine ⟨(.ok field.1, node) :: parts, place', ?_, node, parts, rfl, hshows, hshown⟩
  rw [readFields.fieldThenRest]
  simp only [hkey, hpassed, passSpaces_cons (c := ':') (by decide), if_true, hread, hreads,
    Except.map, List.reverse_nil, List.nil_append, String.ofList_toList]

/-- What follows an item is read, if the items are read from their start. -/
theorem readsItems_after {items : List Json} (hv : PlainItems levels items)
    (hitems : ∀ p,
      ReadsItems items rest (readItems (fuel + 1) true ⟨compactItems items ++ rest, p⟩))
    (p : Position) :
    ReadsItems items rest (readItems (fuel + 1) false
      ⟨(if items.isEmpty then [']'] else ',' :: compactItems items) ++ rest, p⟩) := by
  cases items with
  | nil => exact readsItems_close
  | cons item items =>
      have hfirst := hitems (p.next ',')
      rw [compactItems_cons, List.append_assoc, ← readItems_comma hv.1,
        ← List.append_assoc, ← compactItems_cons] at hfirst
      exact hfirst

theorem readsFields_after {fields : List (String × Json)}
    (hfields : ∀ p,
      ReadsFields fields rest (readFields (fuel + 1) true ⟨compactFields fields ++ rest, p⟩))
    (p : Position) :
    ReadsFields fields rest (readFields (fuel + 1) false
      ⟨(if fields.isEmpty then ['\x7d'] else ',' :: compactFields fields) ++ rest, p⟩) := by
  cases fields with
  | nil => exact readsFields_close
  | cons field fields =>
      have hfirst := hfields (p.next ',')
      rw [compactFields_cons, List.append_assoc, ← readFields_comma,
        ← List.append_assoc, ← compactFields_cons] at hfirst
      exact hfirst

/-! ## Reading a value -/

/-- Behind an item stands a bracket or a comma, and neither belongs to a number. -/
theorem endsNumber_afterItem (items : List Json) :
    EndsNumber ((if items.isEmpty then [']'] else ',' :: compactItems items) ++ rest) := by
  cases items with
  | nil => exact endsNumber_cons (by decide) (by decide) (by decide) (by decide)
  | cons item items => exact endsNumber_cons (by decide) (by decide) (by decide) (by decide)

theorem endsNumber_afterField (fields : List (String × Json)) :
    EndsNumber ((if fields.isEmpty then ['\x7d'] else ',' :: compactFields fields) ++ rest) := by
  cases fields with
  | nil => exact endsNumber_cons (by decide) (by decide) (by decide) (by decide)
  | cons field fields => exact endsNumber_cons (by decide) (by decide) (by decide) (by decide)

theorem length_compactItems_pos (items : List Json) : 0 < (compactItems items).length := by
  cases items with
  | nil => exact Nat.one_pos
  | cons item items =>
      rw [compactItems_cons, List.length_append]
      split <;> simp only [List.length_cons] <;> omega

theorem length_compactFields_pos (fields : List (String × Json)) :
    0 < (compactFields fields).length := by
  cases fields with
  | nil => exact Nat.one_pos
  | cons field fields =>
      simp only [compactFields_cons, List.length_append, List.length_cons]
      omega

mutual

/-- A value is read as it is, with fuel for twice its characters. -/
theorem readsAs_compact : ∀ (v : Json) (levels fuel : Nat) (p : Position) (rest : List Char),
    v.Plain levels → EndsNumber rest → 2 * (compactChars v).length ≤ fuel →
      ReadsAs v rest (readValue fuel ⟨compactChars v ++ rest, p⟩)
  | .integer n, _, fuel, p, rest, hv, hrest, hfuel => by
      have hpos := List.length_pos_iff.mpr (Decimal.signed_ne_nil n)
      obtain ⟨fuel, rfl⟩ : ∃ n, fuel = n + 1 := ⟨fuel - 1, by
        simp only [compactChars, atomChars] at hfuel
        omega⟩
      exact readsAs_integer hv hrest
  | .text s, _, fuel, p, rest, _, _, hfuel => by
      obtain ⟨fuel, rfl⟩ : ∃ n, fuel = n + 1 := ⟨fuel - 1, by
        simp only [compactChars, atomChars, quote, List.length_append, List.length_cons] at hfuel
        omega⟩
      exact readsAs_text s
  | .list items, levels, fuel, p, rest, hv, _, hfuel => by
      rw [compactChars, List.length_cons] at hfuel
      obtain ⟨fuel, rfl⟩ : ∃ n, fuel = n + 1 := ⟨fuel - 1, by omega⟩
      obtain ⟨nodes, place, hread, hshows⟩ := readsItems_compact items (levels - 1) fuel
        (p.next '[') rest hv.2 (by omega)
      refine ⟨.list nodes .closed (some p), place, ?_, nodes, some p, rfl, hshows⟩
      rw [compactChars, List.cons_append, readValue, passSpaces_cons (by decide)]
      simp only [hread]
      rfl
  | .object fields, levels, fuel, p, rest, hv, _, hfuel => by
      rw [compactChars, List.length_cons] at hfuel
      obtain ⟨fuel, rfl⟩ : ∃ n, fuel = n + 1 := ⟨fuel - 1, by omega⟩
      obtain ⟨parts, place, hread, hshows⟩ := readsFields_compact fields (levels - 1) fuel
        (p.next '\x7b') rest hv.2 (by omega)
      refine ⟨.record parts .closed (some p), place, ?_, parts, some p, rfl, hshows⟩
      rw [compactChars, List.cons_append, readValue, passSpaces_cons (by decide)]
      simp only [hread]
      rfl
  | .null, _, _, _, _, hv, _, _ => hv.elim
  | .bool _, _, _, _, _, hv, _, _ => hv.elim
  | .float _, _, _, _, _, hv, _, _ => hv.elim

/-- The items of a list are read from its start. -/
theorem readsItems_compact : ∀ (items : List Json) (levels fuel : Nat) (p : Position)
    (rest : List Char), PlainItems levels items → 2 * (compactItems items).length ≤ fuel →
      ReadsItems items rest (readItems fuel true ⟨compactItems items ++ rest, p⟩)
  | [], _, fuel, p, rest, _, hfuel => by
      obtain ⟨fuel, rfl⟩ : ∃ n, fuel = n + 1 := ⟨fuel - 1, by
        have := length_compactItems_pos []
        omega⟩
      exact readsItems_close
  | item :: items, levels, fuel, p, rest, hv, hfuel => by
      have hpos := length_compactItems_pos items
      rw [compactItems_cons, List.length_append] at hfuel
      obtain ⟨c, tail, hhead, -, -⟩ := compactChars_head hv.1
      have hitem : 0 < (compactChars item).length := by simp [hhead]
      have hafter : (compactItems items).length
          ≤ (if items.isEmpty then [']'] else ',' :: compactItems items).length := by
        cases items <;> simp [compactItems]
      obtain ⟨fuel, rfl⟩ : ∃ n, fuel = n + 2 := ⟨fuel - 2, by omega⟩
      rw [compactItems_cons, List.append_assoc, readItems_first hv.1]
      exact readsItems_cons
        (readsAs_compact item levels (fuel + 1) p _ hv.1 (endsNumber_afterItem items) (by omega))
        (readsItems_after hv.2 fun p =>
          readsItems_compact items levels (fuel + 1) p rest hv.2 (by omega))

theorem readsFields_compact : ∀ (fields : List (String × Json)) (levels fuel : Nat) (p : Position)
    (rest : List Char), PlainFields levels fields → 2 * (compactFields fields).length ≤ fuel →
      ReadsFields fields rest (readFields fuel true ⟨compactFields fields ++ rest, p⟩)
  | [], _, fuel, p, rest, _, hfuel => by
      obtain ⟨fuel, rfl⟩ : ∃ n, fuel = n + 1 := ⟨fuel - 1, by
        have := length_compactFields_pos []
        omega⟩
      exact readsFields_close
  | field :: fields, levels, fuel, p, rest, hv, hfuel => by
      have hpos := length_compactFields_pos fields
      rw [compactFields_cons, List.length_append, List.length_cons, List.length_append] at hfuel
      have hafter : (compactFields fields).length
          ≤ (if fields.isEmpty then ['\x7d'] else ',' :: compactFields fields).length := by
        cases fields <;> simp [compactFields]
      obtain ⟨fuel, rfl⟩ : ∃ n, fuel = n + 2 := ⟨fuel - 2, by omega⟩
      rw [compactFields_cons, List.append_assoc, readFields_first, List.cons_append,
        List.append_assoc]
      exact readsFields_cons
        (fun p => readsAs_compact field.2 levels (fuel + 1) p _ hv.1
          (endsNumber_afterField fields) (by omega))
        (readsFields_after fun p =>
          readsFields_compact fields levels (fuel + 1) p rest hv.2 (by omega))

end

/-! ## Decoding -/

mutual

theorem json_of_shows : ∀ (v : Json) (levels : Nat) (node : Node), v.Plain levels → v.Shows node →
    Decode.json levels node = .ok v
  | .text s, _, _, _, ⟨_, rfl⟩ => by rw [Decode.json]
  | .integer n, _, _, _, ⟨_, rfl⟩ => by rw [Decode.json]
  | .list items, levels, _, hv, ⟨nodes, before, rfl, hshows⟩ => by
      rw [Decode.json, if_neg (Nat.not_le.mpr hv.1),
        jsonItems_of_shows items (levels - 1) nodes hv.2 hshows]
  | .object fields, levels, _, hv, ⟨parts, before, rfl, hshows⟩ => by
      rw [Decode.json, if_neg (Nat.not_le.mpr hv.1),
        jsonFields_of_shows fields (levels - 1) parts hv.2 hshows]
  | .null, _, _, hv, _ => hv.elim
  | .bool _, _, _, hv, _ => hv.elim
  | .float _, _, _, hv, _ => hv.elim

theorem jsonItems_of_shows : ∀ (items : List Json) (levels : Nat) (nodes : List Node),
    PlainItems levels items → ShowsItems items nodes → Decode.jsonItems levels nodes = .ok items
  | [], _, _, _, rfl => by rw [Decode.jsonItems]
  | item :: items, levels, _, hv, ⟨node, others, rfl, hshows, hothers⟩ => by
      rw [Decode.jsonItems, json_of_shows item levels node hv.1 hshows]
      simp only [jsonItems_of_shows items levels others hv.2 hothers, Except.map]

theorem jsonFields_of_shows : ∀ (fields : List (String × Json)) (levels : Nat)
    (parts : List (Key × Node)), PlainFields levels fields → ShowsFields fields parts →
      Decode.jsonFields levels parts = .ok fields
  | [], _, _, _, rfl => by rw [Decode.jsonFields]
  | field :: fields, levels, _, hv, ⟨node, others, rfl, hshows, hothers⟩ => by
      rw [Decode.jsonFields]
      simp only [json_of_shows field.2 levels node hv.1 hshows,
        jsonFields_of_shows fields levels others hv.2 hothers, Except.map]

end

/-- The text of a value is read as this value, with nothing left over. -/
theorem read_compact {v : Json} (hv : v.Plain levels) :
    ∃ node, read v.compact = ⟨node, none⟩ ∧ v.Shows node := by
  have hchars : v.compact.toList = compactChars v ++ [] := by
    rw [compact, String.toList_ofList, List.append_nil]
  obtain ⟨node, place, hread, hshows⟩ := readsAs_compact v levels
    (2 * (compactChars v ++ []).length + 2) .start [] hv endsNumber_nil
    (by rw [List.append_nil]; omega)
  refine ⟨node, ?_, hshows⟩
  rw [read, hchars]
  simp only [hread]
  rfl

/-- What is decoded wherever a value is read is decoded from its text. -/
theorem source_of_shows {α : Type} {decode : Decoder α} {v : Json} {a : α} (hv : v.Plain levels)
    (h : ∀ node, v.Shows node → decode .text node = .ok a) :
    Decode.source decode v.compact = .ok a := by
  obtain ⟨node, hread, hshows⟩ := read_compact hv
  rw [Decode.source, hread]
  simp only [h node hshows]
  rfl

/-- A value is decoded from its text. -/
theorem source_compact {v : Json} (hv : v.Plain Decode.maxLevels) :
    Decode.source (fun _ node => Decode.json Decode.maxLevels node) v.compact = .ok v :=
  source_of_shows hv fun node hshows => json_of_shows v _ node hv hshows

/-! ## Newlines -/

mutual

/-- A value on one line holds no newline. -/
theorem newline_not_mem_compactChars : ∀ (v : Json) (levels : Nat), v.Plain levels →
    '\n' ∉ compactChars v
  | .text s, _, _ => newline_not_mem_quote s
  | .integer n, _, _ => fun hmem => by
      have hspace : Cursor.isSpace '\n' = false := (not_space_of_signed hmem).1
      cases hspace
  | .list items, levels, hv => by
      rw [compactChars, List.mem_cons, not_or]
      exact ⟨by decide, newline_not_mem_compactItems items (levels - 1) hv.2⟩
  | .object fields, levels, hv => by
      rw [compactChars, List.mem_cons, not_or]
      exact ⟨by decide, newline_not_mem_compactFields fields (levels - 1) hv.2⟩
  | .null, _, hv => hv.elim
  | .bool _, _, hv => hv.elim
  | .float _, _, hv => hv.elim

theorem newline_not_mem_compactItems : ∀ (items : List Json) (levels : Nat),
    PlainItems levels items → '\n' ∉ compactItems items
  | [], _, _ => by simp [compactItems]
  | item :: items, levels, hv => by
      have hrest := newline_not_mem_compactItems items levels hv.2
      rw [compactItems_cons, List.mem_append, not_or]
      refine ⟨newline_not_mem_compactChars item levels hv.1, ?_⟩
      split <;> simp [hrest]

theorem newline_not_mem_compactFields : ∀ (fields : List (String × Json)) (levels : Nat),
    PlainFields levels fields → '\n' ∉ compactFields fields
  | [], _, _ => by simp [compactFields]
  | field :: fields, levels, hv => by
      have hrest := newline_not_mem_compactFields fields levels hv.2
      have hvalue := newline_not_mem_compactChars field.2 levels hv.1
      rw [compactFields_cons, List.mem_append, List.mem_cons, List.mem_append, not_or, not_or,
        not_or]
      refine ⟨newline_not_mem_quote field.1, by decide, hvalue, ?_⟩
      split <;> simp [hrest]

end

theorem newline_not_mem_compact {v : Json} (hv : v.Plain levels) : '\n' ∉ v.compact.toList := by
  rw [compact, String.toList_ofList]
  exact newline_not_mem_compactChars v levels hv

/-! ## Lists -/

section Lists

variable {α : Type} {toJson : α → Json} {values : List α}

theorem plainItems_map (h : ∀ value ∈ values, (toJson value).Plain levels) :
    PlainItems levels (values.map toJson) := by
  induction values with
  | nil => trivial
  | cons value rest ih =>
      exact ⟨h value List.mem_cons_self, ih fun other ho => h other (List.mem_cons_of_mem _ ho)⟩

/-- A list is decoded if each of its items is. -/
theorem items_of_shows {decode : Node → Except Fault α} {nodes : List Node}
    (h : ∀ value ∈ values, ∀ node, (toJson value).Shows node → decode node = .ok value)
    (hshows : ShowsItems (values.map toJson) nodes) : Decode.items decode nodes = .ok values := by
  induction values generalizing nodes with
  | nil =>
      obtain rfl : nodes = [] := hshows
      rfl
  | cons value rest ih =>
      obtain ⟨node, others, rfl, hnode, hothers⟩ := hshows
      rw [Decode.items, h value List.mem_cons_self node hnode,
        ih (fun other ho => h other (List.mem_cons_of_mem _ ho)) hothers]
      rfl

theorem list_of_shows {decode : Decoder α} {dialect : Dialect} {node : Node}
    (h : ∀ value ∈ values, ∀ node, (toJson value).Shows node → decode dialect node = .ok value)
    (hshows : (Json.list (values.map toJson)).Shows node) :
    Decode.list decode dialect node = .ok values := by
  obtain ⟨nodes, before, rfl, hitems⟩ := hshows
  rw [Decode.list, items_of_shows h hitems]
  rfl

end Lists

/-- A text is decoded wherever it is read. -/
theorem text_of_shows {s : String} {dialect : Dialect} {node : Node}
    (h : (Json.text s).Shows node) : Decode.text dialect node = .ok s := by
  obtain ⟨after, rfl⟩ := h
  rfl

end Json

/-! ## Sets of names -/

namespace NameSet

open Document

/-- A name past all others is put at the end. -/
theorem place_of_last {name : String} {names : List String} (h : ∀ other ∈ names, other < name) :
    place name names = names ++ [name] := by
  induction names with
  | nil => rfl
  | cons head rest ih =>
      have hhead : head < name := h head List.mem_cons_self
      have hne : name ≠ head := fun he => String.lt_irrefl _ (he ▸ hhead)
      rw [place, if_neg (String.lt_asymm hhead), if_neg hne,
        ih fun other hother => h other (List.mem_cons_of_mem _ hother)]
      rfl

theorem foldl_insert_names {names : List String} (s : NameSet)
    (h : (s.names ++ names).Pairwise (· < ·)) :
    (names.foldl (fun s name => s.insert name) s).names = s.names ++ names := by
  induction names generalizing s with
  | nil => exact (List.append_nil _).symm
  | cons name names ih =>
      have hlast : ∀ other ∈ s.names, other < name := fun other hother =>
        (List.pairwise_append.mp h).2.2 other hother name List.mem_cons_self
      have hinsert : (s.insert name).names = s.names ++ [name] := place_of_last hlast
      have hsplit : (s.insert name).names ++ names = s.names ++ name :: names := by
        rw [hinsert, List.append_assoc]
        rfl
      rw [List.foldl_cons, ih _ (hsplit ▸ h), hsplit]

/-- A set is the set of its names. -/
theorem ofList_names (s : NameSet) : ofList s.names = s := by
  have hnames := foldl_insert_names empty s.increasing
  cases h : ofList s.names with
  | mk names increasing =>
      obtain rfl : names = s.names := by
        rw [ofList] at h
        rw [h] at hnames
        exact hnames
      rfl

theorem plain_toJson {levels : Nat} (h : 1 < levels) (s : NameSet) : s.toJson.Plain levels :=
  ⟨h, Json.plainItems_map fun _ _ => trivial⟩

theorem decode_of_shows {s : NameSet} {dialect : Dialect} {node : Node} (h : s.toJson.Shows node) :
    Exchange.nameSet dialect node = .ok s := by
  have hlist : Decode.list Decode.text dialect node = .ok s.names :=
    Json.list_of_shows (fun _ _ _ => Json.text_of_shows) h
  rw [Exchange.nameSet, hlist, Except.map, ofList_names]

/-- A set of names is decoded from its text. -/
theorem source_compact (s : NameSet) :
    Decode.source Exchange.nameSet s.toJson.compact = .ok s :=
  Json.source_of_shows (plain_toJson (show 1 < 2 by decide) s) fun _ => decode_of_shows

end NameSet

end AuditReminder
