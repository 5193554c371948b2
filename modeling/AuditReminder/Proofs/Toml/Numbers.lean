/-
Numbers of a document of TOML.

Whole numbers of TOML have 64 bits, and every one that the reader takes from a document does: each
value is bounded as it is read, and so is what it is put into (`bounded_read`).
-/
import AuditReminder.Proofs.Document
import AuditReminder.Toml.Reader

namespace AuditReminder.Toml

open Document

/-- Every whole number in the value has 64 bits. -/
def Bounded (value : Toml) : Prop := value.toNode.Bounded

theorem bounded_list_iff {items : List Toml} :
    (Toml.list items).Bounded ↔ ∀ item ∈ items, item.Bounded := by
  show Node.BoundedItems (toNodes items) ↔ _
  induction items with
  | nil => simp [toNodes, Node.BoundedItems]
  | cons item rest ih => simp [toNodes, Node.BoundedItems, ih, Bounded]

theorem bounded_table_iff {fields : List (String × Toml)} :
    (Toml.table fields).Bounded ↔ ∀ field ∈ fields, field.2.Bounded := by
  show Node.BoundedFields (Toml.toFields fields) ↔ _
  induction fields with
  | nil => simp [Toml.toFields, Node.BoundedFields]
  | cons field rest ih => simp [Toml.toFields, Node.BoundedFields, ih, Bounded]

/-! ## Parts -/

namespace Parts

variable {key : String} {part : Part} {parts parts' : Parts} {value : Toml}

/-- The table that the parts are read to is bounded. -/
def Bounded (parts : Parts) : Prop := (Toml.table (toFields parts)).Bounded

theorem bounded_iff : Bounded parts ↔ ∀ entry ∈ parts, entry.2.toToml.Bounded := by
  have hmap : toFields parts = parts.map fun entry => (entry.1, entry.2.toToml) := by
    induction parts with
    | nil => rfl
    | cons entry rest ih => rw [toFields, ih, List.map_cons]
  rw [Bounded, bounded_table_iff, hmap]
  constructor
  · intro h entry hentry
    exact h _ (List.mem_map_of_mem hentry)
  · intro h field hfield
    obtain ⟨entry, hentry, rfl⟩ := List.mem_map.mp hfield
    exact h entry hentry

theorem bounded_nil : Bounded [] := bounded_iff.mpr fun _ hentry => by cases hentry

theorem bounded_tables_iff {before : List Parts} {last : Parts} :
    (Part.tables before last).toToml.Bounded ↔
      (∀ parts ∈ before, Bounded parts) ∧ Bounded last := by
  have hmap : toTables before = before.map fun parts => .table (toFields parts) := by
    induction before with
    | nil => rfl
    | cons parts rest ih => rw [toTables, ih, List.map_cons]
  show (Toml.list (toTables before ++ [.table (toFields last)])).Bounded ↔ _
  rw [bounded_list_iff, hmap]
  simp [or_imp, forall_and, Bounded]

theorem bounded_find? (h : Bounded parts) (hfind : parts.find? key = some part) :
    part.toToml.Bounded := by
  rw [bounded_iff] at h
  induction parts with
  | nil => cases hfind
  | cons entry rest ih =>
      rw [find?] at hfind
      split at hfind
      · cases hfind
        exact h entry List.mem_cons_self
      · exact ih (fun entry hentry => h entry (List.mem_cons_of_mem _ hentry)) hfind

theorem bounded_put (h : Bounded parts) (hpart : part.toToml.Bounded) :
    Bounded (parts.put key part) := by
  rw [bounded_iff] at h ⊢
  induction parts with
  | nil => simpa [put] using hpart
  | cons entry rest ih =>
      have hrest := ih fun entry hentry => h entry (List.mem_cons_of_mem _ hentry)
      rw [put]
      split
      · intro entry hentry
        rcases List.mem_cons.mp hentry with rfl | hentry
        · exact hpart
        · exact h entry (List.mem_cons_of_mem _ hentry)
      · intro entry' hentry
        rcases List.mem_cons.mp hentry with rfl | hentry
        · exact h entry' List.mem_cons_self
        · exact hrest entry' hentry

theorem bounded_last (h : Bounded parts) (hpart : part.toToml.Bounded) :
    Bounded (parts ++ [(key, part)]) := by
  rw [bounded_iff] at h ⊢
  intro entry hentry
  rcases List.mem_append.mp hentry with hentry | hentry
  · exact h entry hentry
  · cases List.mem_singleton.mp hentry
    exact hpart

/-- Whether a change of parts keeps them bounded. -/
def Keeps (change : Parts → Option Parts) : Prop :=
  ∀ parts parts', Bounded parts → change parts = some parts' → Bounded parts'

theorem keeps_within {change : Parts → Option Parts} (h : Keeps change) (path : List String) :
    Keeps (within change path) := by
  induction path with
  | nil => exact h
  | cons key path ih =>
      intro parts parts' hparts hchange
      rw [within] at hchange
      split at hchange
      · obtain ⟨inner, hinner, rfl⟩ := Option.map_eq_some_iff.mp hchange
        exact bounded_put hparts (ih [] inner bounded_nil hinner)
      · next origin inner hfind =>
        obtain ⟨inner', hinner, rfl⟩ := Option.map_eq_some_iff.mp hchange
        exact bounded_put hparts (ih inner inner' (bounded_find? hparts hfind) hinner)
      · next before last hfind =>
        obtain ⟨last', hlast, rfl⟩ := Option.map_eq_some_iff.mp hchange
        obtain ⟨hbefore, hbounded⟩ := bounded_tables_iff.mp (bounded_find? hparts hfind)
        exact bounded_put hparts (bounded_tables_iff.mpr ⟨hbefore, ih last last' hbounded hlast⟩)
      · cases hchange

theorem keeps_insert (hvalue : value.Bounded) : Keeps (insert key value) := by
  intro parts parts' hparts hchange
  rw [insert] at hchange
  split at hchange
  · cases hchange
    exact bounded_last hparts hvalue
  · cases hchange

theorem keeps_insertDotted (hvalue : value.Bounded) (path : List String) :
    Keeps (insertDotted key value path) := by
  induction path with
  | nil => exact keeps_insert hvalue
  | cons step path ih =>
      intro parts parts' hparts hchange
      rw [insertDotted] at hchange
      split at hchange
      · obtain ⟨inner, hinner, rfl⟩ := Option.map_eq_some_iff.mp hchange
        exact bounded_put hparts (ih [] inner bounded_nil hinner)
      · next origin inner hfind =>
        split at hchange
        · cases hchange
        · obtain ⟨inner', hinner, rfl⟩ := Option.map_eq_some_iff.mp hchange
          exact bounded_put hparts (ih inner inner' (bounded_find? hparts hfind) hinner)
      · next before last hfind =>
        split at hchange
        · cases hchange
        · obtain ⟨last', hlast, rfl⟩ := Option.map_eq_some_iff.mp hchange
          obtain ⟨hbefore, hbounded⟩ := bounded_tables_iff.mp (bounded_find? hparts hfind)
          exact bounded_put hparts (bounded_tables_iff.mpr ⟨hbefore, ih last last' hbounded hlast⟩)
      · cases hchange

theorem keeps_openTable : Keeps (openTable key) := by
  intro parts parts' hparts hchange
  rw [openTable] at hchange
  split at hchange
  · cases hchange
    exact bounded_last hparts bounded_nil
  · next inner hfind =>
    cases hchange
    have hinner : Bounded inner := bounded_find? hparts hfind
    exact bounded_put hparts hinner
  · cases hchange

theorem keeps_openElement : Keeps (openElement key) := by
  intro parts parts' hparts hchange
  rw [openElement] at hchange
  split at hchange
  · cases hchange
    exact bounded_last hparts (bounded_tables_iff.mpr ⟨List.forall_mem_nil _, bounded_nil⟩)
  · next before last hfind =>
    cases hchange
    obtain ⟨hbefore, hlast⟩ := bounded_tables_iff.mp (bounded_find? hparts hfind)
    refine bounded_put hparts (bounded_tables_iff.mpr ⟨?_, bounded_nil⟩)
    intro inner hmem
    rcases List.mem_append.mp hmem with hmem | hmem
    · exact hbefore inner hmem
    · cases List.mem_singleton.mp hmem
      exact hlast
  · cases hchange

end Parts

/-! ## Values -/

/-- What a reader gives has a property. -/
def Gives {α : Type} (reader : Reader α) (P : α → Prop) : Prop :=
  ∀ cs value rest, reader cs = .ok (value, rest) → P value

theorem bounded_checked? {n : Int} {value : Toml} (h : checked? n = some value) :
    value.Bounded := by
  unfold checked? at h
  split at h
  · next hn =>
    cases h
    exact hn
  · cases h

theorem bounded_based? {base : Nat} {cs : List Char} {value : Toml}
    (h : based? base cs = some value) : value.Bounded := by
  obtain ⟨digits, -, h⟩ := Option.bind_eq_some_iff.mp h
  obtain ⟨values, -, h⟩ := Option.bind_eq_some_iff.mp h
  exact bounded_checked? h

theorem bounded_integer? {cs : List Char} {value : Toml} (h : integer? cs = some value) :
    value.Bounded := by
  unfold integer? at h
  split at h
  · exact bounded_based? h
  · exact bounded_based? h
  · exact bounded_based? h
  · obtain ⟨n, -, h⟩ := Option.bind_eq_some_iff.mp h
    exact bounded_checked? h

theorem bounded_ofToken? {cs : List Char} {value : Toml} (h : ofToken? cs = some value) :
    value.Bounded := by
  unfold ofToken? at h
  split at h
  · cases h
    trivial
  · split at h
    · cases h
      trivial
    · split at h
      · cases h
        exact ⟨trivial, trivial⟩
      · rcases Option.or_eq_some_iff.mp h with h | ⟨-, h⟩
        · unfold float? at h
          simp only at h
          split at h
          · cases h
            trivial
          · cases h
        · exact bounded_integer? h

theorem gives_readScalar : Gives readScalar Bounded := by
  intro cs value rest h
  unfold readScalar at h
  simp only at h
  split at h
  · next found hfound =>
    cases h
    exact bounded_ofToken? hfound
  · cases h

section Containers

variable {item : Reader Toml}

theorem gives_readItems (hitem : Gives item Bounded) (fuel : Nat) :
    Gives (readItems item fuel) fun items => (Toml.list items).Bounded := by
  induction fuel with
  | zero => intro cs items rest h; cases h
  | succ fuel ih =>
      intro cs items rest h
      rw [readItems] at h
      split at h
      · cases h
        exact trivial
      · obtain ⟨⟨value, after⟩, hvalue, h⟩ := Except.bind_eq_ok_iff.mp h
        simp only at h
        split at h
        · obtain ⟨⟨values, after'⟩, hvalues, h⟩ := Except.bind_eq_ok_iff.mp h
          cases h
          exact ⟨hitem _ _ _ hvalue, ih _ _ _ hvalues⟩
        · cases h
          exact ⟨hitem _ _ _ hvalue, trivial⟩
        · cases h

theorem gives_readField (hitem : Gives item Bounded) :
    Gives (readField item) fun field => field.2.2.Bounded := by
  intro cs field rest h
  obtain ⟨⟨⟨path, key⟩, afterKey⟩, -, h⟩ := Except.bind_eq_ok_iff.mp h
  obtain ⟨⟨⟨⟩, afterSign⟩, -, h⟩ := Except.bind_eq_ok_iff.mp h
  obtain ⟨⟨value, after⟩, hvalue, h⟩ := Except.bind_eq_ok_iff.mp h
  cases h
  exact hitem _ _ _ hvalue

theorem gives_readFields (hitem : Gives item Bounded) (fuel : Nat) {parts : Parts}
    (hparts : Parts.Bounded parts) : Gives (readFields item parts fuel) Parts.Bounded := by
  induction fuel generalizing parts with
  | zero => intro cs fields rest h; cases h
  | succ fuel ih =>
      intro cs fields rest h
      rw [readFields] at h
      obtain ⟨⟨⟨path, key, value⟩, after⟩, hfield, h⟩ := Except.bind_eq_ok_iff.mp h
      have hvalue := gives_readField hitem _ _ _ hfield
      simp only at h
      split at h
      · next inner hinner =>
        have hbounded := Parts.keeps_insertDotted hvalue path parts inner hparts hinner
        split at h
        · exact ih hbounded _ _ _ h
        · cases h
          exact hbounded
        · cases h
      · cases h

end Containers

theorem gives_readText : Gives (fun cs => (readText cs).map fun (s, rest) => (Toml.text s, rest))
    Bounded := by
  intro cs value rest h
  obtain ⟨⟨s, after⟩, -, h⟩ := Except.map_eq_ok_iff.mp h
  cases h
  trivial

theorem gives_readValue (depth : Nat) : Gives (readValue depth) Bounded := by
  induction depth with
  | zero => intro cs value rest h; cases h
  | succ depth ih =>
      intro cs value rest h
      unfold readValue at h
      split at h
      · exact gives_readText _ _ _ h
      · exact gives_readText _ _ _ h
      · split at h
        · cases h
        · obtain ⟨⟨items, after⟩, hitems, h⟩ := Except.map_eq_ok_iff.mp h
          cases h
          exact gives_readItems ih _ _ _ _ hitems
      · split at h
        · cases h
        · split at h
          · cases h
            trivial
          · obtain ⟨⟨parts, after⟩, hparts, h⟩ := Except.map_eq_ok_iff.mp h
            cases h
            exact gives_readFields ih _ Parts.bounded_nil _ _ _ hparts
      · exact gives_readScalar _ _ _ h

/-! ## Lines -/

/-- Reading goes on from bounded parts to bounded parts. -/
def KeepsDraft (line : Draft → Reader Draft) : Prop :=
  ∀ draft, Parts.Bounded draft.parts → Gives (line draft) fun draft' => Parts.Bounded draft'.parts

theorem keepsDraft_readElementHeader : KeepsDraft readElementHeader := by
  intro draft hdraft cs draft' rest h
  obtain ⟨⟨path, after⟩, -, h⟩ := Except.bind_eq_ok_iff.mp h
  obtain ⟨⟨⟨⟩, after⟩, -, h⟩ := Except.bind_eq_ok_iff.mp h
  obtain ⟨⟨⟨⟩, after⟩, -, h⟩ := Except.bind_eq_ok_iff.mp h
  obtain ⟨⟨⟨⟩, after⟩, -, h⟩ := Except.bind_eq_ok_iff.mp h
  simp only at h
  split at h
  · next parts hparts =>
    cases h
    exact Parts.keeps_within Parts.keeps_openElement path.1 _ _ hdraft hparts
  · cases h

theorem keepsDraft_readTableHeader : KeepsDraft readTableHeader := by
  intro draft hdraft cs draft' rest h
  obtain ⟨⟨path, after⟩, -, h⟩ := Except.bind_eq_ok_iff.mp h
  obtain ⟨⟨⟨⟩, after⟩, -, h⟩ := Except.bind_eq_ok_iff.mp h
  obtain ⟨⟨⟨⟩, after⟩, -, h⟩ := Except.bind_eq_ok_iff.mp h
  simp only at h
  split at h
  · next parts hparts =>
    cases h
    exact Parts.keeps_within Parts.keeps_openTable path.1 _ _ hdraft hparts
  · cases h

theorem keepsDraft_readEntry : KeepsDraft readEntry := by
  intro draft hdraft cs draft' rest h
  obtain ⟨⟨⟨path, key, value⟩, after⟩, hfield, h⟩ := Except.bind_eq_ok_iff.mp h
  obtain ⟨⟨⟨⟩, after⟩, -, h⟩ := Except.bind_eq_ok_iff.mp h
  have hvalue := gives_readField (gives_readValue _) _ _ _ hfield
  simp only at h
  split at h
  · next parts hparts =>
    cases h
    exact Parts.keeps_within (Parts.keeps_insertDotted hvalue path) _ _ _ hdraft hparts
  · cases h

theorem keepsDraft_readLine : KeepsDraft readLine := by
  intro draft hdraft cs draft' rest h
  unfold readLine at h
  split at h
  · cases h
    exact hdraft
  · cases h
    exact hdraft
  · cases h
    exact hdraft
  · obtain ⟨⟨⟨⟩, after⟩, -, h⟩ := Except.map_eq_ok_iff.mp h
    cases h
    exact hdraft
  · exact keepsDraft_readElementHeader draft hdraft _ _ _ h
  · exact keepsDraft_readTableHeader draft hdraft _ _ _ h
  · exact keepsDraft_readEntry draft hdraft _ _ _ h

theorem bounded_readLines {draft draft' : Draft} {cs : List Char}
    (h : readLines draft cs = .ok draft') (hdraft : Parts.Bounded draft.parts) :
    Parts.Bounded draft'.parts := by
  fun_induction readLines draft cs with
  | case1 draft =>
      cases h
      exact hdraft
  | case2 draft cs hsome stop hline => cases h
  | case3 draft cs hsome next rest hline hshorter ih =>
      exact ih h (keepsDraft_readLine draft hdraft _ _ _ hline)
  | case4 draft cs hsome next rest hline hlonger => cases h

/-- What is read is a table, and every whole number in it has 64 bits. -/
theorem bounded_read {s : String} {document : Toml} (h : read s = .ok document) :
    ∃ fields, document = .table fields ∧ (Toml.table fields).Bounded := by
  unfold read at h
  simp only at h
  split at h
  · next draft hdraft =>
    cases h
    exact ⟨_, rfl, bounded_readLines hdraft Parts.bounded_nil⟩
  · cases h

end AuditReminder.Toml
