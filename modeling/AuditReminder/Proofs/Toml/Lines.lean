/-
Lines of a TOML document.

A line that was written is read by itself, whatever follows it: a field goes to the table that was
named last, and a header names the next one (`readLine_field`, `readLine_tableHeader`,
`readLine_elementHeader`).  `Reads draft cs draft'` says that reading comes from one draft to
another over some lines, with any lines behind them, so that what is read of a document can be put
together line by line and block by block.
-/
import AuditReminder.Proofs.Toml.Values

namespace AuditReminder.Toml

/-! ## Keys -/

/-- A key begins with a bare character or with a quote. -/
theorem head_writeKey (key : String) :
    ∃ c more, writeKey key = c :: more ∧ (isBare c = true ∨ c = '"') := by
  unfold writeKey
  split
  · next h =>
    obtain ⟨hsome, hbare⟩ := h
    rcases hkey : key.toList with _ | ⟨c, more⟩
    · exact (hsome (String.toList_eq_nil_iff.mp hkey)).elim
    · rw [hkey] at hbare
      exact ⟨c, more, rfl, Or.inl (List.all_eq_true.mp hbare c List.mem_cons_self)⟩
  · exact ⟨'"', _, rfl, Or.inr rfl⟩

/-- A character that begins no key. -/
theorem head_writeKey_ne {key : String} {c d : Char} {more : List Char}
    (h : writeKey key = c :: more) (hbare : isBare d = false) (hquote : d ≠ '"') : c ≠ d := by
  rintro rfl
  obtain ⟨c', more', he, hc⟩ := head_writeKey key
  obtain ⟨rfl, -⟩ := List.cons.inj (h.symm.trans he)
  rcases hc with hc | hc
  · rw [hbare] at hc
    cases hc
  · exact hquote hc

theorem dropSpaces_of_head {c : Char} (h : isSpace c = false) (cs : List Char) :
    dropSpaces (c :: cs) = c :: cs := by
  rw [dropSpaces, List.dropWhile_cons_of_neg (by simp [h])]

theorem dropSpaces_writeKey (key : String) (rest : List Char) :
    dropSpaces (writeKey key ++ rest) = writeKey key ++ rest := by
  obtain ⟨c, more, he, -⟩ := head_writeKey key
  have hspace : c ≠ ' ' := head_writeKey_ne he (by decide) (by decide)
  have htab : c ≠ '\t' := head_writeKey_ne he (by decide) (by decide)
  rw [he]
  exact dropSpaces_of_head (by simp [isSpace, hspace, htab]) _

/-- A key is read back up to a character that is not bare. -/
theorem readKey_writeKey (key : String) {c : Char} (hc : isBare c = false) (rest : List Char) :
    readKey (writeKey key ++ c :: rest) = .ok (key, c :: rest) := by
  unfold writeKey
  split
  · next h =>
    obtain ⟨hsome, hbare⟩ := h
    have htake : (key.toList ++ c :: rest).takeWhile isBare = key.toList := by
      rw [List.takeWhile_append_of_pos (List.all_eq_true.mp hbare),
        List.takeWhile_cons_of_neg (by simp [hc]), List.append_nil]
    have hhead (quote : Char) (hquote : isBare quote = false) (more : List Char) :
        key.toList ++ c :: rest ≠ quote :: more := by
      intro he
      rcases hkey : key.toList with _ | ⟨d, ds⟩
      · exact hsome (String.toList_eq_nil_iff.mp hkey)
      · rw [hkey] at he hbare
        have hd := List.all_eq_true.mp hbare d List.mem_cons_self
        rw [(List.cons.inj he).1, hquote] at hd
        cases hd
    rw [readKey]
    · have hne : key.toList ≠ [] := fun hnil => hsome (String.toList_eq_nil_iff.mp hnil)
      simp only [htake, if_neg hne, String.ofList_toList, List.drop_left]
    · exact fun more => hhead '"' (by decide) more
    · exact fun more => hhead '\x27' (by decide) more
  · have hline := basic_escapedLine key.toList (c :: rest)
    simp only [List.cons_append, List.append_assoc, List.nil_append, readKey, hline, Except.map,
      String.ofList_toList]

/-! ## Paths -/

theorem writePath_cons (key : String) {path : List String} (h : path ≠ []) :
    writePath (key :: path) = writeKey key ++ '.' :: writePath path := by
  cases path with
  | nil => exact (h rfl).elim
  | cons next path => rfl

/-- A path is read back up to a character that is not bare, with the blanks behind it. -/
theorem readPath_writePath (path : List String) (key : String) {fuel : Nat}
    (hfuel : path.length < fuel) {c : Char} (hc : isBare c = false) {rest : List Char}
    (hstop : ∀ more, dropSpaces (c :: rest) ≠ '.' :: more) :
    readPath fuel (writePath (path ++ [key]) ++ c :: rest)
      = .ok ((path, key), dropSpaces (c :: rest)) := by
  induction path generalizing fuel with
  | nil =>
      obtain ⟨fuel, rfl⟩ := Nat.exists_eq_succ_of_ne_zero (Nat.ne_of_gt hfuel)
      show readPath (fuel + 1) (writeKey key ++ c :: rest) = _
      rw [readPath, dropSpaces_writeKey, readKey_writeKey key hc]
      simp only [bind, Except.bind]
      rfl
  | cons step path ih =>
      obtain ⟨fuel, rfl⟩ := Nat.exists_eq_succ_of_ne_zero (Nat.ne_of_gt (Nat.zero_lt_of_lt hfuel))
      have hpath : path ++ [key] ≠ [] := List.append_ne_nil_of_right_ne_nil _ (List.cons_ne_nil _ _)
      have hlength : path.length < fuel := by simpa using hfuel
      rw [List.cons_append, writePath_cons step hpath, List.append_assoc, readPath,
        dropSpaces_writeKey, List.cons_append, readKey_writeKey step (by decide)]
      simp only [bind, Except.bind]
      rw [dropSpaces_of_head (by decide)]
      simp only [ih hlength]
      rfl

/-! ## Fields and headers -/

/-- The head of a path, on which the reader of a line decides. -/
theorem head_writePath (path : List String) (key : String) :
    ∃ first more, writePath (path ++ [key]) = writeKey first ++ more := by
  cases path with
  | nil => exact ⟨key, [], (List.append_nil _).symm⟩
  | cons first path =>
      have hpath : path ++ [key] ≠ [] := List.append_ne_nil_of_right_ne_nil _ (List.cons_ne_nil _ _)
      exact ⟨first, _, writePath_cons first hpath⟩

theorem lineEnd_break (rest : List Char) : lineEnd ('\n' :: rest) = .ok ((), rest) := rfl

/-- The path in a header is read up to the closing bracket. -/
theorem readPath_header {path : List String} (key : String) (hlength : path.length < maxDepth)
    (rest : List Char) :
    readPath maxDepth (writePath (path ++ [key]) ++ ']' :: rest)
      = .ok ((path, key), ']' :: rest) :=
  readPath_writePath path key hlength (by decide) fun more he => by cases he

/-- A field is read as it was written. -/
theorem readField_writeLine (key : String) {value : Toml} (h : value.IsPlainValue) (depth : Nat)
    (rest : List Char) :
    readField (readValue (depth + 1)) (writeLine (key, value) ++ rest)
      = .ok (([], key, value), '\n' :: rest) := by
  have hline : writeLine (key, value) ++ rest
      = writeKey key ++ ' ' :: '=' :: ' ' :: (inline value ++ '\n' :: rest) := by
    simp [writeLine]
  have hpath : readPath maxDepth
      (writeKey key ++ ' ' :: '=' :: ' ' :: (inline value ++ '\n' :: rest))
        = .ok (([], key), '=' :: ' ' :: (inline value ++ '\n' :: rest)) :=
    readPath_writePath [] key (by decide) (by decide) fun more he => by cases he
  have hvalue : readValue (depth + 1) (dropSpaces (' ' :: (inline value ++ '\n' :: rest)))
      = .ok (value, '\n' :: rest) := by
    obtain ⟨c, more, he, hspace⟩ := head_inline h
    have hdrop : dropSpaces (' ' :: (inline value ++ '\n' :: rest))
        = inline value ++ '\n' :: rest := by
      rw [he]
      exact dropSpaces_of_head hspace _
    rw [hdrop, readValue_inline h]
  rw [hline, readField, hpath]
  simp only [bind, Except.bind, expect, if_pos]
  rw [hvalue]
  rfl

/-! ## Lines -/

variable {draft : Draft} {parts : Parts}

theorem readLine_break (draft : Draft) (rest : List Char) :
    readLine draft ('\n' :: rest) = .ok (draft, rest) := rfl

/-- A line that begins with a key is a field. -/
theorem readLine_key (draft : Draft) (key : String) (rest : List Char) :
    readLine draft (writeKey key ++ rest) = readEntry draft (writeKey key ++ rest) := by
  obtain ⟨c, more, he, -⟩ := head_writeKey key
  have hne {d : Char} (hbare : isBare d = false) (hquote : d ≠ '"') (tail : List Char) :
      writeKey key ++ rest ≠ d :: tail := by
    rw [he]
    exact fun hcons => head_writeKey_ne he hbare hquote (List.cons.inj hcons).1
  have hnil : writeKey key ++ rest ≠ [] := by
    rw [he]
    exact List.cons_ne_nil _ _
  rw [readLine, dropSpaces_writeKey]
  split
  · next hcs => exact (hnil hcs).elim
  · next hcs => exact (hne (by decide) (by decide) _ hcs).elim
  · next hcs => exact (hne (by decide) (by decide) _ hcs).elim
  · next hcs => exact (hne (by decide) (by decide) _ hcs).elim
  · next hcs => exact (hne (by decide) (by decide) _ hcs).elim
  · next hcs => exact (hne (by decide) (by decide) _ hcs).elim
  · rfl

/-- A field is added to the table that was named last. -/
theorem readLine_field {key : String} {value : Toml} (h : value.IsPlainValue)
    (hput : draft.parts.within (Parts.insertDotted key value []) draft.current = some parts)
    (rest : List Char) :
    readLine draft (writeLine (key, value) ++ rest)
      = .ok ({ draft with parts := parts }, rest) := by
  have hentry : readEntry draft (writeLine (key, value) ++ rest)
      = .ok ({ draft with parts := parts }, rest) := by
    rw [readEntry, readField_writeLine key h]
    simp only [bind, Except.bind, lineEnd_break, hput]
    rfl
  have hline : writeLine (key, value) ++ rest
      = writeKey key ++ ([' ', '=', ' '] ++ inline value ++ ['\n'] ++ rest) := by
    simp [writeLine]
  rw [hline] at hentry ⊢
  rw [readLine_key, hentry]

/-- A header names a table. -/
theorem readLine_tableHeader {path : List String} {key : String} (hlength : path.length < maxDepth)
    (hput : draft.parts.within (Parts.openTable key) path = some parts) (rest : List Char) :
    readLine draft (tableHeader (path ++ [key]) ++ rest)
      = .ok (⟨parts, path ++ [key]⟩, rest) := by
  have hheader : readTableHeader draft (writePath (path ++ [key]) ++ ']' :: '\n' :: rest)
      = .ok (⟨parts, path ++ [key]⟩, rest) := by
    rw [readTableHeader, readPath_header key hlength]
    simp only [bind, Except.bind, expect, if_pos, lineEnd_break, hput]
    rfl
  have hline : tableHeader (path ++ [key]) ++ rest
      = '[' :: (writePath (path ++ [key]) ++ ']' :: '\n' :: rest) := by
    simp [tableHeader]
  rw [hline, readLine, dropSpaces_of_head (by decide)]
  obtain ⟨first, more, he⟩ := head_writePath path key
  obtain ⟨c, tail, hkey, -⟩ := head_writeKey first
  split
  · next hcs => cases hcs
  · next hcs => cases hcs
  · next hcs => cases hcs
  · next hcs => cases hcs
  · next hcs =>
    -- a key does not begin with a bracket
    rw [he, hkey] at hcs
    exact (head_writeKey_ne hkey (by decide) (by decide)
      (List.cons.inj (List.cons.inj hcs).2).1).elim
  · next hcs =>
    rw [← (List.cons.inj hcs).2, hheader]
  · next hother => exact (hother _ rfl).elim

/-- A header between double brackets starts the next table of a list. -/
theorem readLine_elementHeader {path : List String} {key : String}
    (hlength : path.length < maxDepth)
    (hput : draft.parts.within (Parts.openElement key) path = some parts) (rest : List Char) :
    readLine draft (elementHeader (path ++ [key]) ++ rest)
      = .ok (⟨parts, path ++ [key]⟩, rest) := by
  have hheader : readElementHeader draft (writePath (path ++ [key]) ++ ']' :: ']' :: '\n' :: rest)
      = .ok (⟨parts, path ++ [key]⟩, rest) := by
    rw [readElementHeader, readPath_header key hlength]
    simp only [bind, Except.bind, expect, if_pos, lineEnd_break, hput]
    rfl
  have hline : elementHeader (path ++ [key]) ++ rest
      = '[' :: '[' :: (writePath (path ++ [key]) ++ ']' :: ']' :: '\n' :: rest) := by
    simp [elementHeader]
  rw [hline, readLine, dropSpaces_of_head (by decide)]
  exact hheader

/-! ## Runs of lines -/

/-- Reading comes from one draft to another over some lines, whatever follows them. -/
def Reads (draft : Draft) (cs : List Char) (draft' : Draft) : Prop :=
  ∀ rest, readLines draft (cs ++ rest) = readLines draft' rest

namespace Reads

variable {draft' draft'' : Draft} {cs ds : List Char}

theorem nil (draft : Draft) : Reads draft [] draft := fun _ => rfl

theorem append (hcs : Reads draft cs draft') (hds : Reads draft' ds draft'') :
    Reads draft (cs ++ ds) draft'' := by
  intro rest
  rw [List.append_assoc, hcs, hds]

/-- A line that is read by itself. -/
theorem line (hsome : cs ≠ []) (h : ∀ rest, readLine draft (cs ++ rest) = .ok (draft', rest)) :
    Reads draft cs draft' := by
  intro rest
  have hshorter : rest.length < (cs ++ rest).length := by
    rw [List.length_append]
    have hpos := List.length_pos_iff.mpr hsome
    omega
  rw [readLines, if_neg (List.append_ne_nil_of_left_ne_nil hsome rest)]
  simp only [h, dif_pos hshorter]

theorem blank (draft : Draft) : Reads draft ['\n'] draft :=
  line (List.cons_ne_nil _ _) (readLine_break draft)

end Reads

end AuditReminder.Toml
