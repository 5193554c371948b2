/-
Documents of TOML.

A document that was written is read back as it was (`read_write`): tables within tables and lists of
tables, with texts and numbers in them.  A table can only be written with its plain fields in front
of its tables, so this is asked of every table (`Kept`).

The reader holds the whole tree while it reads and finds the table of a field anew from the root.
`Focus path plug` says that it finds what `plug` puts there; then reading goes on in that table as
if it were the root.  What has been read is compared with what was written by `Parts.toFields`, so
that nothing need be said of how its tables came to be.
-/
import AuditReminder.Proofs.Toml.Lines

namespace AuditReminder.Toml

/-! ## Parts -/

namespace Parts

variable {key : String} {parts before : Parts}

theorem find?_of_free (h : key ∉ parts.map Prod.fst) : parts.find? key = none := by
  induction parts with
  | nil => rfl
  | cons entry rest ih =>
      rw [List.map_cons, List.mem_cons, not_or] at h
      rw [find?, if_neg fun he => h.1 he.symm]
      exact ih h.2

theorem find?_last (h : key ∉ before.map Prod.fst) (part : Part) :
    Parts.find? key (before ++ [(key, part)]) = some part := by
  induction before with
  | nil => exact if_pos rfl
  | cons entry rest ih =>
      rw [List.map_cons, List.mem_cons, not_or] at h
      rw [List.cons_append, find?, if_neg fun he => h.1 he.symm]
      exact ih h.2

/-- A key that is not among these and not the last one either. -/
theorem not_mem_keys_last {other : String} (h : other ∉ before.map Prod.fst) (hother : other ≠ key)
    (part : Part) : other ∉ (before ++ [(key, part)]).map Prod.fst := by
  rw [List.map_append, List.mem_append, not_or]
  exact ⟨h, fun hmem => hother (List.mem_singleton.mp hmem)⟩

theorem put_last (h : key ∉ before.map Prod.fst) (old new : Part) :
    Parts.put key new (before ++ [(key, old)]) = before ++ [(key, new)] := by
  induction before with
  | nil => exact if_pos rfl
  | cons entry rest ih =>
      rw [List.map_cons, List.mem_cons, not_or] at h
      rw [List.cons_append, put, if_neg fun he => h.1 he.symm, ih h.2]
      rfl

theorem toFields_append (first rest : Parts) :
    toFields (first ++ rest) = toFields first ++ toFields rest := by
  induction first with
  | nil => rfl
  | cons entry first ih =>
      rw [List.cons_append, toFields, toFields, ih]
      rfl

theorem keys_toFields (parts : Parts) : (toFields parts).map Prod.fst = parts.map Prod.fst := by
  induction parts with
  | nil => rfl
  | cons entry rest ih =>
      rw [toFields, List.map_cons, List.map_cons, ih]

theorem toTables_append (first rest : List Parts) :
    toTables (first ++ rest) = toTables first ++ toTables rest := by
  induction first with
  | nil => rfl
  | cons parts first ih =>
      rw [List.cons_append, toTables, toTables, ih]
      rfl

/-- The end of a path is found step by step. -/
theorem within_append (change : Parts → Option Parts) (path rest : List String) (parts : Parts) :
    within change (path ++ rest) parts = within (within change rest) path parts := by
  induction path generalizing parts with
  | nil => rfl
  | cons step path ih =>
      rw [List.cons_append, within, within]
      split
      · rw [ih]
      · rw [ih]
      · rw [ih]
      · rfl

end Parts

/-! ## Places in the tree -/

/-- Whatever is put into `plug` is found at the path, and what becomes of it is put back. -/
def Focus (path : List String) (plug : Parts → Parts) : Prop :=
  ∀ change inner, Parts.within change path (plug inner) = (change inner).map plug

namespace Focus

variable {path : List String} {plug : Parts → Parts} {key : String} {before : Parts}

theorem root : Focus [] id := by
  intro change inner
  rw [Option.map_id]
  rfl

/-- A place within a place that is found. -/
theorem within {path' : List String} {plug' : Parts → Parts} (h : Focus path plug)
    (h' : Focus path' plug') : Focus (path ++ path') (plug ∘ plug') := by
  intro change inner
  show Parts.within change (path ++ path') (plug (plug' inner)) = _
  rw [Parts.within_append, h, h', Option.map_map]

/-- The last table of a table. -/
theorem table (hfree : key ∉ before.map Prod.fst) (origin : Origin) :
    Focus [key] fun inner => before ++ [(key, .table origin inner)] := by
  intro change inner
  rw [Parts.within, Parts.find?_last hfree]
  simp only [Parts.put_last hfree]
  rfl

/-- The last table of a list of tables. -/
theorem element (hfree : key ∉ before.map Prod.fst) (done : List Parts) :
    Focus [key] fun inner => before ++ [(key, .tables done inner)] := by
  intro change inner
  rw [Parts.within, Parts.find?_last hfree]
  simp only [Parts.put_last hfree]
  rfl

end Focus

/-! ## Fields of a table -/

/-- Plain fields as the parts that they are read to. -/
def plainParts (fields : List (String × Toml)) : Parts :=
  fields.map fun field => (field.1, .value field.2)

theorem toFields_plainParts (fields : List (String × Toml)) :
    Parts.toFields (plainParts fields) = fields := by
  induction fields with
  | nil => rfl
  | cons field rest ih =>
      show (field.1, field.2) :: Parts.toFields (plainParts rest) = _
      rw [ih]

/-- Plain fields are read into the table in focus, one by one. -/
theorem reads_fields {path : List String} {plug : Parts → Parts} (hfocus : Focus path plug)
    {fields : List (String × Toml)} (hplain : ∀ field ∈ fields, field.2.IsPlainValue)
    (hkeys : (fields.map Prod.fst).Nodup) {before : Parts}
    (hfree : ∀ field ∈ fields, field.1 ∉ before.map Prod.fst) :
    Reads ⟨plug before, path⟩ (fields.flatMap writeLine)
      ⟨plug (before ++ plainParts fields), path⟩ := by
  induction fields generalizing before with
  | nil =>
      show Reads _ [] ⟨plug (before ++ []), path⟩
      rw [List.append_nil]
      exact Reads.nil _
  | cons field rest ih =>
      obtain ⟨key, value⟩ := field
      rw [List.map_cons, List.nodup_cons] at hkeys
      have hput : Parts.within (Parts.insertDotted key value []) path (plug before)
          = some (plug (before ++ [(key, .value value)])) := by
        rw [hfocus, Parts.insertDotted, Parts.insert,
          Parts.find?_of_free (hfree _ List.mem_cons_self)]
        rfl
      have hline : Reads ⟨plug before, path⟩ (writeLine (key, value))
          ⟨plug (before ++ [(key, .value value)]), path⟩ := by
        refine Reads.line ?_ fun rest => readLine_field (hplain _ List.mem_cons_self) hput rest
        simp [writeLine]
      have hfree' : ∀ field ∈ rest,
          field.1 ∉ (before ++ [(key, Part.value value)]).map Prod.fst := by
        intro field hf
        refine Parts.not_mem_keys_last (hfree field (List.mem_cons_of_mem _ hf)) ?_ _
        rintro rfl
        exact hkeys.1 (List.mem_map.mpr ⟨field, hf, rfl⟩)
      have hrest := ih (fun field hf => hplain field (List.mem_cons_of_mem _ hf)) hkeys.2 hfree'
      rw [List.append_assoc] at hrest
      exact hline.append hrest

/-! ## Documents that are kept -/

/-- The plain fields of a table stand in front of its tables, and no two fields have one name. -/
structure InOrder (fields : List (String × Toml)) : Prop where
  keys : (fields.map Prod.fst).Nodup
  plainFirst : (fields.filter fun field => !hasHeader field.2) ++
    (fields.filter fun field => hasHeader field.2) = fields

mutual

/-- A value that is kept: texts, numbers of 64 bits, and tables and lists of tables, which nest less
than so many levels deep. -/
def Kept : Nat → Toml → Prop
  | _, .text _ => True
  | _, .integer n => isInt64 n = true
  | levels, .table fields => 0 < levels ∧ InOrder fields ∧ KeptFields (levels - 1) fields
  | levels, .list items => 0 < levels ∧ items ≠ [] ∧ KeptItems (levels - 1) items
  | _, _ => False

def KeptFields : Nat → List (String × Toml) → Prop
  | _, [] => True
  | levels, field :: rest => Kept levels field.2 ∧ KeptFields levels rest

def KeptItems : Nat → List Toml → Prop
  | _, [] => True
  | levels, .table fields :: rest =>
      InOrder fields ∧ KeptFields levels fields ∧ KeptItems levels rest
  | _, _ :: _ => False

end

theorem kept_of_mem {levels : Nat} {fields : List (String × Toml)} (h : KeptFields levels fields)
    {field : String × Toml} (hf : field ∈ fields) : Kept levels field.2 := by
  induction fields with
  | nil => cases hf
  | cons first rest ih =>
      rcases List.mem_cons.mp hf with rfl | hf
      · exact h.1
      · exact ih h.2 hf

/-- What is kept without a header stands on the line of its key. -/
theorem isPlainValue_of_kept {levels : Nat} {value : Toml} (h : Kept levels value)
    (hplain : hasHeader value = false) : value.IsPlainValue := by
  cases value with
  | text s => trivial
  | integer n => exact h
  | table fields => cases hplain
  | list items =>
      obtain ⟨-, hsome, hitems⟩ := h
      cases items with
      | nil => exact (hsome rfl).elim
      | cons item rest =>
          cases item with
          | table fields => cases hplain
          | text | integer | float | bool | moment | list => exact hitems.elim
  | float | bool | moment => exact h.elim

/-! ## Reading tables -/

/-- The blocks of a document with the empty line in front of each. -/
def spaced (blocks : List (List Char)) : List Char := blocks.flatMap ('\n' :: ·)

/-- The tables of these fields are read, in order, into the table in focus. -/
def ReadsTables (path : List String) (fields : List (String × Toml)) : Prop :=
  ∀ (plug : Parts → Parts) (before : Parts) (current : List String), Focus path plug →
    (∀ field ∈ fields, hasHeader field.2 = true → field.1 ∉ before.map Prod.fst) →
      ∃ after current', Parts.toFields after
          = Parts.toFields before ++ fields.filter (fun field => hasHeader field.2) ∧
        Reads ⟨plug before, current⟩ (spaced (tableBlocks path fields)) ⟨plug after, current'⟩

/-- A value with a header is read under its key, behind what is in the table in focus. -/
def ReadsValue (path : List String) (value : Toml) : Prop :=
  ∀ (plug : Parts → Parts) (before : Parts) (current : List String) (key : String),
    Focus path plug → key ∉ before.map Prod.fst →
      ∃ part current', Part.toToml part = value ∧
        Reads ⟨plug before, current⟩ (spaced (valueBlocks (path ++ [key]) value))
          ⟨plug (before ++ [(key, part)]), current'⟩

/-- The items of a list of tables are read behind those that were read before. -/
def ReadsItems (path : List String) (items : List Toml) : Prop :=
  ∀ (plug : Parts → Parts) (before : Parts) (current : List String) (key : String),
    Focus path plug → key ∉ before.map Prod.fst → ∀ (done : List Parts) (last : Parts),
      ∃ done' last' current',
        Parts.toTables (done' ++ [last']) = Parts.toTables (done ++ [last]) ++ items ∧
          Reads ⟨plug (before ++ [(key, .tables done last)]), current⟩
            (spaced (itemBlocks (path ++ [key]) items))
            ⟨plug (before ++ [(key, .tables done' last')]), current'⟩

theorem spaced_cons (block : List Char) (blocks : List (List Char)) :
    spaced (block :: blocks) = ['\n'] ++ block ++ spaced blocks := by
  simp [spaced]

theorem spaced_append (first rest : List (List Char)) :
    spaced (first ++ rest) = spaced first ++ spaced rest := List.flatMap_append

/-- A table is read behind the header that brings it into focus. -/
theorem reads_table {path : List String} {plug : Parts → Parts} {start : Draft}
    {header : List Char} {levels : Nat} {fields : List (String × Toml)} (hfocus : Focus path plug)
    (hheader : Reads start header ⟨plug [], path⟩) (horder : InOrder fields)
    (hkept : KeptFields levels fields) (htables : ReadsTables path fields) :
    ∃ inner current, Parts.toFields inner = fields ∧
      Reads start (spaced ((header ++ writeLines fields) :: tableBlocks path fields))
        ⟨plug inner, current⟩ := by
  have hkeys := horder.keys
  rw [← horder.plainFirst, List.map_append, List.nodup_append] at hkeys
  obtain ⟨hplainKeys, -, hapart⟩ := hkeys
  have hplain : ∀ field ∈ fields.filter (fun field => !hasHeader field.2),
      field.2.IsPlainValue := by
    intro field hf
    obtain ⟨hmem, hheader⟩ := List.mem_filter.mp hf
    exact isPlainValue_of_kept (kept_of_mem hkept hmem) (by simpa using hheader)
  have hlines : Reads ⟨plug [], path⟩ (writeLines fields)
      ⟨plug (plainParts (fields.filter fun field => !hasHeader field.2)), path⟩ :=
    reads_fields hfocus hplain hplainKeys fun _ _ hmem => by cases hmem
  have hfree : ∀ field ∈ fields, hasHeader field.2 = true →
      field.1 ∉ (plainParts (fields.filter fun field => !hasHeader field.2)).map Prod.fst := by
    intro field hf hheader hmem
    rw [← Parts.keys_toFields, toFields_plainParts] at hmem
    have hlast : field.1 ∈ (fields.filter fun field => hasHeader field.2).map Prod.fst :=
      List.mem_map_of_mem (List.mem_filter.mpr ⟨hf, hheader⟩)
    exact hapart _ hmem _ hlast rfl
  obtain ⟨inner, current, hfields, htables⟩ := htables plug _ path hfocus hfree
  refine ⟨inner, current, ?_, ?_⟩
  · rw [hfields, toFields_plainParts, horder.plainFirst]
  · rw [spaced_cons, ← List.append_assoc]
    exact (((Reads.blank start).append hheader).append hlines).append htables

theorem valueBlocks_plain {value : Toml} (h : value.IsPlainValue) (path : List String) :
    valueBlocks path value = [] := by
  cases value with
  | text | integer => rfl
  | float | bool | moment | list | table => exact h.elim

/-- The header of a table brings it into focus. -/
theorem reads_tableHeader {path : List String} {plug : Parts → Parts} {before : Parts}
    {key : String} (hfocus : Focus path plug) (hfree : key ∉ before.map Prod.fst)
    (hlength : path.length < maxDepth) (current : List String) :
    Reads ⟨plug before, current⟩ (tableHeader (path ++ [key]))
      ⟨plug (before ++ [(key, .table .header [])]), path ++ [key]⟩ := by
  refine Reads.line (List.cons_ne_nil _ _) fun rest => readLine_tableHeader hlength ?_ rest
  show Parts.within _ path (plug before) = _
  rw [hfocus, Parts.openTable, Parts.find?_of_free hfree]
  rfl

/-- The header of the first item of a list brings it into focus. -/
theorem reads_firstHeader {path : List String} {plug : Parts → Parts} {before : Parts}
    {key : String} (hfocus : Focus path plug) (hfree : key ∉ before.map Prod.fst)
    (hlength : path.length < maxDepth) (current : List String) :
    Reads ⟨plug before, current⟩ (elementHeader (path ++ [key]))
      ⟨plug (before ++ [(key, .tables [] [])]), path ++ [key]⟩ := by
  refine Reads.line (List.cons_ne_nil _ _) fun rest => readLine_elementHeader hlength ?_ rest
  show Parts.within _ path (plug before) = _
  rw [hfocus, Parts.openElement, Parts.find?_of_free hfree]
  rfl

/-- The header of a later item brings that one into focus. -/
theorem reads_nextHeader {path : List String} {plug : Parts → Parts} {before : Parts}
    {key : String} (hfocus : Focus path plug) (hfree : key ∉ before.map Prod.fst)
    (hlength : path.length < maxDepth) (current : List String) (done : List Parts) (last : Parts) :
    Reads ⟨plug (before ++ [(key, .tables done last)]), current⟩ (elementHeader (path ++ [key]))
      ⟨plug (before ++ [(key, .tables (done ++ [last]) [])]), path ++ [key]⟩ := by
  refine Reads.line (List.cons_ne_nil _ _) fun rest => readLine_elementHeader hlength ?_ rest
  show Parts.within _ path (plug (before ++ [(key, .tables done last)])) = _
  rw [hfocus, Parts.openElement, Parts.find?_last hfree]
  simp only [Parts.put_last hfree]
  rfl

mutual

theorem reads_tables : ∀ (fields : List (String × Toml)) (levels : Nat) (path : List String),
    KeptFields levels fields → (fields.map Prod.fst).Nodup → path.length + levels ≤ maxDepth →
      ReadsTables path fields
  | [], _, _, _, _, _ => by
      intro plug before current _ _
      exact ⟨before, current, (List.append_nil _).symm, Reads.nil _⟩
  | (key, value) :: rest, levels, path, hkept, hkeys, hdepth => by
      intro plug before current hfocus hfree
      rw [List.map_cons, List.nodup_cons] at hkeys
      have hrest := reads_tables rest levels path hkept.2 hkeys.2 hdepth
      cases hheader : hasHeader value with
      | false =>
          obtain ⟨after, current', hafter, hreads⟩ := hrest plug before current hfocus
            fun field hf => hfree field (List.mem_cons_of_mem _ hf)
          refine ⟨after, current', ?_, ?_⟩
          · rw [hafter, List.filter_cons_of_neg (by simp [hheader])]
          · rw [tableBlocks, valueBlocks_plain (isPlainValue_of_kept hkept.1 hheader)]
            exact hreads
      | true =>
          obtain ⟨part, middle, hpart, hvalue⟩ := reads_value value levels path hkept.1 hheader
            hdepth plug before current key hfocus (hfree _ List.mem_cons_self hheader)
          have hfree' : ∀ field ∈ rest, hasHeader field.2 = true →
              field.1 ∉ (before ++ [(key, part)]).map Prod.fst := by
            intro field hf hfieldHeader
            have hbefore := hfree field (List.mem_cons_of_mem _ hf) hfieldHeader
            refine Parts.not_mem_keys_last hbefore ?_ _
            rintro rfl
            exact hkeys.1 (List.mem_map.mpr ⟨field, hf, rfl⟩)
          obtain ⟨after, current', hafter, hreads⟩ := hrest plug _ middle hfocus hfree'
          refine ⟨after, current', ?_, ?_⟩
          · rw [hafter, Parts.toFields_append, List.filter_cons_of_pos (by simp [hheader])]
            show _ ++ [(key, part.toToml)] ++ _ = _
            rw [hpart, List.append_assoc]
            rfl
          · rw [tableBlocks, spaced_append]
            exact hvalue.append hreads

theorem reads_value : ∀ (value : Toml) (levels : Nat) (path : List String),
    Kept levels value → hasHeader value = true → path.length + levels ≤ maxDepth →
      ReadsValue path value
  | .table fields, levels, path, ⟨hlevels, horder, hkept⟩, _, hdepth => by
      intro plug before current key hfocus hfree
      have hpath : (path ++ [key]).length + (levels - 1) ≤ maxDepth := by
        rw [List.length_append, List.length_singleton]
        omega
      have htables := reads_tables fields (levels - 1) (path ++ [key]) hkept horder.keys hpath
      obtain ⟨inner, current', hinner, hreads⟩ := reads_table (hfocus.within (.table hfree .header))
        (reads_tableHeader hfocus hfree (by omega) current) horder hkept htables
      exact ⟨.table .header inner, current', congrArg Toml.table hinner, hreads⟩
  | .list (.table fields :: rest), levels, path, ⟨hlevels, _, horder, hkept, hrest⟩, _, hdepth => by
      intro plug before current key hfocus hfree
      have hpath : (path ++ [key]).length + (levels - 1) ≤ maxDepth := by
        rw [List.length_append, List.length_singleton]
        omega
      have htables := reads_tables fields (levels - 1) (path ++ [key]) hkept horder.keys hpath
      obtain ⟨inner, middle, hinner, hfirst⟩ := reads_table (hfocus.within (.element hfree []))
        (reads_firstHeader hfocus hfree (by omega) current) horder hkept htables
      obtain ⟨done, last, current', hitems, hothers⟩ := reads_items rest (levels - 1) path hrest
        (by omega) plug before middle key hfocus hfree [] inner
      refine ⟨.tables done last, current', ?_, ?_⟩
      · show Toml.list (Parts.toTables done ++ Parts.toTables [last]) = _
        rw [← Parts.toTables_append, hitems]
        show Toml.list (Toml.table (Parts.toFields inner) :: rest) = _
        rw [hinner]
      · rw [valueBlocks, itemBlocks, spaced_append]
        exact hfirst.append hothers
  | .list [], _, _, _, hheader, _ => by cases hheader
  | .list (.text _ :: _), _, _, _, hheader, _ => by cases hheader
  | .list (.integer _ :: _), _, _, _, hheader, _ => by cases hheader
  | .list (.float _ :: _), _, _, _, hheader, _ => by cases hheader
  | .list (.bool _ :: _), _, _, _, hheader, _ => by cases hheader
  | .list (.moment _ :: _), _, _, _, hheader, _ => by cases hheader
  | .list (.list _ :: _), _, _, _, hheader, _ => by cases hheader
  | .text _, _, _, _, hheader, _ => by cases hheader
  | .integer _, _, _, _, hheader, _ => by cases hheader
  | .float _, _, _, hkept, _, _ => hkept.elim
  | .bool _, _, _, hkept, _, _ => hkept.elim
  | .moment _, _, _, hkept, _, _ => hkept.elim

theorem reads_items : ∀ (items : List Toml) (levels : Nat) (path : List String),
    KeptItems levels items → path.length + (levels + 1) ≤ maxDepth → ReadsItems path items
  | [], _, _, _, _ => by
      intro plug before current key _ _ done last
      exact ⟨done, last, current, (List.append_nil _).symm, Reads.nil _⟩
  | .table fields :: rest, levels, path, ⟨horder, hkept, hrest⟩, hdepth => by
      intro plug before current key hfocus hfree done last
      have hpath : (path ++ [key]).length + levels ≤ maxDepth := by
        rw [List.length_append, List.length_singleton]
        omega
      have htables := reads_tables fields levels (path ++ [key]) hkept horder.keys hpath
      obtain ⟨inner, middle, hinner, hnext⟩ :=
        reads_table (hfocus.within (.element hfree (done ++ [last])))
          (reads_nextHeader hfocus hfree (by omega) current done last) horder hkept htables
      obtain ⟨done', last', current', hitems, hothers⟩ := reads_items rest levels path hrest hdepth
        plug before middle key hfocus hfree (done ++ [last]) inner
      refine ⟨done', last', current', ?_, ?_⟩
      · rw [hitems, Parts.toTables_append]
        show _ ++ [Toml.table (Parts.toFields inner)] ++ rest = _
        rw [hinner, List.append_assoc]
        rfl
      · rw [itemBlocks, spaced_append]
        exact hnext.append hothers
  | .text _ :: _, _, _, hkept, _ => hkept.elim
  | .integer _ :: _, _, _, hkept, _ => hkept.elim
  | .float _ :: _, _, _, hkept, _ => hkept.elim
  | .bool _ :: _, _, _, hkept, _ => hkept.elim
  | .moment _ :: _, _, _, hkept, _ => hkept.elim
  | .list _ :: _, _, _, hkept, _ => hkept.elim

end

/-! ## Whole documents -/

theorem readLines_break (draft : Draft) (rest : List Char) :
    readLines draft ('\n' :: rest) = readLines draft rest := Reads.blank draft rest

theorem cons_intercalate (block : List Char) (blocks : List (List Char)) :
    '\n' :: List.intercalate ['\n'] (block :: blocks) = spaced (block :: blocks) := by
  induction blocks generalizing block with
  | nil => simp [spaced, List.intercalate]
  | cons next rest ih =>
      rw [spaced_cons, ← ih next]
      simp [List.intercalate]

/-- Empty lines in front of the first block do not matter, so a document is read as if one stood
there, be there fields in front of its tables or not. -/
theorem readLines_write (draft : Draft) (fields : List (String × Toml)) :
    readLines draft (write fields)
      = readLines draft (spaced (writeLines fields :: tableBlocks [] fields)) := by
  rw [write]
  by_cases hfirst : writeLines fields = []
  · rw [if_pos hfirst, hfirst]
    cases tableBlocks [] fields with
    | nil => exact (readLines_break draft []).symm
    | cons block blocks =>
        rw [spaced_cons, ← cons_intercalate]
        show _ = readLines draft ('\n' :: '\n' :: _)
        rw [readLines_break, readLines_break]
  · rw [if_neg hfirst, ← cons_intercalate, readLines_break]

/-- No line begins with the mark of a document. -/
theorem dropMark_of_readLines {draft draft' : Draft} {cs : List Char}
    (h : readLines draft cs = .ok draft') : dropMark cs = cs := by
  unfold dropMark
  split
  · next rest =>
    have hline : readLine draft ('\ufeff' :: rest) = .error ('\ufeff' :: rest) := by
      rw [readLine, dropSpaces_of_head (by decide)]
      rfl
    rw [readLines, if_neg (List.cons_ne_nil _ _), hline] at h
    cases h
  · rfl

/-- A document that was written is read back as it was. -/
theorem read_write {fields : List (String × Toml)} (horder : InOrder fields)
    (hkept : KeptFields maxDepth fields) :
    read (String.ofList (write fields)) = .ok (.table fields) := by
  have htables : ReadsTables [] fields :=
    reads_tables fields maxDepth [] hkept horder.keys (Nat.le_of_eq (Nat.zero_add _))
  obtain ⟨parts, current, hparts, hreads⟩ :=
    reads_table Focus.root (Reads.nil _) horder hkept htables
  have hlines : readLines ⟨[], []⟩ (write fields) = .ok ⟨parts, current⟩ := by
    have hblocks := hreads []
    rw [List.append_nil] at hblocks
    rw [readLines_write]
    refine hblocks.trans ?_
    rw [readLines, if_pos rfl]
    rfl
  rw [read, String.toList_ofList, dropMark_of_readLines hlines]
  simp only [hlines, hparts]

end AuditReminder.Toml
