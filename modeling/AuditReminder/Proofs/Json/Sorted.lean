/-
Fields in the order of their names.

Where no two fields of an object have one name, sorting them loses none (`sortFields_perm`), so what
is found under a name stays (`field?_sortKeys`).  What is sorted is in order, and sorting it again
changes nothing (`sortKeys_sortKeys`).
-/
import AuditReminder.Proofs.Json.Values

namespace AuditReminder

open Document

namespace Json

variable {name : String} {value : Json} {placed fields : List (String × Json)}
  {field : String × Json}

/-! ## The fields that are there -/

theorem mem_placeField (h : field ∈ placeField name value placed) :
    field = (name, value) ∨ field ∈ placed := by
  induction placed with
  | nil => exact Or.inl (List.mem_singleton.mp h)
  | cons first rest ih =>
      rw [placeField] at h
      split at h
      · exact List.mem_cons.mp h
      · split at h
        · rcases List.mem_cons.mp h with h | h
          · exact Or.inl h
          · exact Or.inr (List.mem_cons_of_mem _ h)
        · rcases List.mem_cons.mp h with rfl | h
          · exact Or.inr List.mem_cons_self
          · rcases ih h with h | h
            · exact Or.inl h
            · exact Or.inr (List.mem_cons_of_mem _ h)

theorem mem_sortFields (h : field ∈ sortFields placed fields) :
    field ∈ placed ∨ ∃ given ∈ fields, field = (given.1, given.2.sortKeys) := by
  induction fields generalizing placed with
  | nil => exact Or.inl h
  | cons first rest ih =>
      rcases ih h with hplaced | ⟨given, hgiven, rfl⟩
      · rcases mem_placeField hplaced with rfl | hplaced
        · exact Or.inr ⟨first, List.mem_cons_self, rfl⟩
        · exact Or.inl hplaced
      · exact Or.inr ⟨given, List.mem_cons_of_mem _ hgiven, rfl⟩

theorem mem_toFields {key : Key} {node : Node} (h : (key, node) ∈ toFields fields) :
    ∃ field ∈ fields, key = .ok field.1 ∧ node = field.2.toNode := by
  induction fields with
  | nil => cases h
  | cons first rest ih =>
      rcases List.mem_cons.mp h with h | h
      · cases h
        exact ⟨first, List.mem_cons_self, rfl, rfl⟩
      · obtain ⟨field, hfield, hkey⟩ := ih h
        exact ⟨field, List.mem_cons_of_mem _ hfield, hkey⟩

theorem toFields_eq_map (fields : List (String × Json)) :
    toFields fields = fields.map fun field => (.ok field.1, field.2.toNode) := by
  induction fields with
  | nil => rfl
  | cons field rest ih => rw [toFields, ih, List.map_cons]

/-- A field of a new name is put between the others. -/
theorem placeField_perm (h : name ∉ placed.map Prod.fst) :
    (placeField name value placed).Perm ((name, value) :: placed) := by
  induction placed with
  | nil => exact List.Perm.refl _
  | cons first rest ih =>
      rw [List.map_cons, List.mem_cons, not_or] at h
      rw [placeField]
      split
      · exact List.Perm.refl _
      · rw [if_neg h.1]
        exact ((ih h.2).cons first).trans (List.Perm.swap _ _ _)

theorem sortFields_append_perm (h : ((placed ++ fields).map Prod.fst).Nodup) :
    (sortFields placed fields).Perm
      (placed ++ fields.map fun field => (field.1, field.2.sortKeys)) := by
  induction fields generalizing placed with
  | nil => simp [sortFields]
  | cons first rest ih =>
      rw [List.map_append, List.map_cons] at h
      have hnew : first.1 ∉ placed.map Prod.fst := fun hmem =>
        (List.nodup_append.mp h).2.2 _ hmem _ List.mem_cons_self rfl
      have hplace : (placeField first.1 first.2.sortKeys placed).Perm
          ((first.1, first.2.sortKeys) :: placed) := placeField_perm hnew
      have hnames : ((placeField first.1 first.2.sortKeys placed ++ rest).map Prod.fst).Nodup := by
        have hperm := (hplace.append_right rest).map Prod.fst
        refine hperm.nodup_iff.mpr ?_
        rw [List.cons_append, List.map_cons, List.map_append]
        exact List.perm_middle.nodup_iff.mp h
      refine (ih hnames).trans ?_
      exact (hplace.append_right _).trans List.perm_middle.symm

/-- Fields of different names are all kept. -/
theorem sortFields_perm (h : (fields.map Prod.fst).Nodup) :
    (sortFields [] fields).Perm (fields.map fun field => (field.1, field.2.sortKeys)) :=
  sortFields_append_perm h

/-! ## What is found under a name -/

theorem field?_cons :
    field? name (.object (field :: fields))
      = if field.1 = name then some field.2 else field? name (.object fields) := by
  by_cases h : field.1 = name <;> simp [field?, h]

theorem mem_of_field? (h : field? name (.object fields) = some value) : (name, value) ∈ fields := by
  obtain ⟨found, hfound, rfl⟩ := Option.map_eq_some_iff.mp h
  obtain rfl : found.1 = name := by simpa using List.find?_some hfound
  exact List.mem_of_find?_eq_some hfound

/-- A field is found if there is no other of its name. -/
theorem field?_eq_some_iff (h : (fields.map Prod.fst).Nodup) :
    field? name (.object fields) = some value ↔ (name, value) ∈ fields := by
  refine ⟨mem_of_field?, fun hmem => ?_⟩
  induction fields with
  | nil => cases hmem
  | cons first rest ih =>
      obtain ⟨hfirst, hrest⟩ := List.nodup_cons.mp h
      rw [field?_cons]
      rcases List.mem_cons.mp hmem with rfl | hmem
      · exact if_pos rfl
      · have hne : first.1 ≠ name := fun he => hfirst (he ▸ List.mem_map_of_mem hmem)
        rw [if_neg hne]
        exact ih hrest hmem

theorem nodup_sortFields (h : (fields.map Prod.fst).Nodup) :
    ((sortFields [] fields).map Prod.fst).Nodup := by
  have hperm := (sortFields_perm h).map Prod.fst
  rw [List.map_map] at hperm
  exact hperm.nodup_iff.mpr h

/-- Under a name the same is found, sorted in turn. -/
theorem field?_sortKeys (h : (fields.map Prod.fst).Nodup) (name : String) :
    field? name (Json.object fields).sortKeys = (field? name (.object fields)).map sortKeys := by
  rw [sortKeys]
  ext value
  rw [field?_eq_some_iff (nodup_sortFields h), (sortFields_perm h).mem_iff,
    Option.map_eq_some_iff]
  constructor
  · intro hmem
    obtain ⟨given, hgiven, heq⟩ := List.mem_map.mp hmem
    cases heq
    exact ⟨given.2, (field?_eq_some_iff h).mpr hgiven, rfl⟩
  · rintro ⟨given, hgiven, rfl⟩
    exact List.mem_map.mpr ⟨(name, given), mem_of_field? hgiven, rfl⟩

/-! ## Sorting twice -/

/-- The fields stand in the order of their names. -/
def Ordered (fields : List (String × Json)) : Prop :=
  fields.Pairwise fun a b => a.1 < b.1

theorem ordered_placeField (h : Ordered placed) : Ordered (placeField name value placed) := by
  induction placed with
  | nil => exact List.pairwise_singleton _ _
  | cons first rest ih =>
      obtain ⟨hfirst, hrest⟩ := List.pairwise_cons.mp h
      rw [placeField]
      split
      · next hlt =>
        refine List.pairwise_cons.mpr ⟨?_, h⟩
        intro other hother
        rcases List.mem_cons.mp hother with rfl | hother
        · exact hlt
        · exact String.lt_trans hlt (hfirst other hother)
      · next hge =>
        split
        · next heq =>
          refine List.pairwise_cons.mpr ⟨?_, hrest⟩
          intro other hother
          rw [heq]
          exact hfirst other hother
        · next hne =>
          refine List.pairwise_cons.mpr ⟨?_, ih hrest⟩
          intro other hother
          rcases mem_placeField hother with rfl | hother
          · exact Std.lt_of_le_of_ne hge (Ne.symm hne)
          · exact hfirst other hother

theorem ordered_sortFields (h : Ordered placed) : Ordered (sortFields placed fields) := by
  induction fields generalizing placed with
  | nil => exact h
  | cons first rest ih => exact ih (ordered_placeField h)

/-- A field past all others is put at the end. -/
theorem placeField_last (h : ∀ other ∈ placed, other.1 < name) :
    placeField name value placed = placed ++ [(name, value)] := by
  induction placed with
  | nil => rfl
  | cons first rest ih =>
      have hfirst : first.1 < name := h first List.mem_cons_self
      have hne : name ≠ first.1 := fun he => String.lt_irrefl _ (he ▸ hfirst)
      rw [placeField, if_neg (String.lt_asymm hfirst), if_neg hne,
        ih fun other hother => h other (List.mem_cons_of_mem _ hother)]
      rfl

theorem sortFields_of_ordered (h : Ordered (placed ++ fields))
    (hsorted : ∀ field ∈ fields, field.2.sortKeys = field.2) :
    sortFields placed fields = placed ++ fields := by
  induction fields generalizing placed with
  | nil => exact (List.append_nil _).symm
  | cons first rest ih =>
      have hlast : ∀ other ∈ placed, other.1 < first.1 := fun other hother =>
        (List.pairwise_append.mp h).2.2 other hother first List.mem_cons_self
      have hstep : placeField first.1 first.2.sortKeys placed = placed ++ [first] := by
        rw [hsorted first List.mem_cons_self]
        exact placeField_last hlast
      have hsplit : placed ++ [first] ++ rest = placed ++ first :: rest :=
        (List.append_cons placed first rest).symm
      rw [sortFields, hstep, ih (hsplit ▸ h) fun field hfield =>
        hsorted field (List.mem_cons_of_mem _ hfield), hsplit]

mutual

theorem sortKeys_sortKeys : ∀ v : Json, v.sortKeys.sortKeys = v.sortKeys
  | .list items => by rw [sortKeys, sortKeys, sortItems_sortItems items]
  | .object fields => by
      rw [sortKeys, sortKeys, sortFields_of_ordered (ordered_sortFields List.Pairwise.nil)
        (sortKeys_of_mem_sortFields fields fun _ hfield => by cases hfield), List.nil_append]
  | .null | .bool _ | .integer _ | .float _ | .text _ => rfl

theorem sortItems_sortItems : ∀ items : List Json, sortItems (sortItems items) = sortItems items
  | [] => rfl
  | item :: rest => by
      rw [sortItems, sortItems, sortKeys_sortKeys item, sortItems_sortItems rest]

theorem sortKeys_of_mem_sortFields : ∀ (fields : List (String × Json))
    {placed : List (String × Json)}, (∀ field ∈ placed, field.2.sortKeys = field.2) →
      ∀ field ∈ sortFields placed fields, field.2.sortKeys = field.2
  | [], _, h, field, hfield => h field hfield
  | first :: rest, placed, h, field, hfield => by
      refine sortKeys_of_mem_sortFields rest (fun other hother => ?_) field hfield
      rcases mem_placeField hother with rfl | hother
      · exact sortKeys_sortKeys first.2
      · exact h other hother

end

/-- How fields are sorted depends on their values as far as these differ when they are sorted. -/
theorem sortFields_congr {fields' : List (String × Json)}
    (h : fields.map (fun field => (field.1, field.2.sortKeys))
      = fields'.map fun field => (field.1, field.2.sortKeys)) :
    sortFields placed fields = sortFields placed fields' := by
  have hfold (fields placed : List (String × Json)) : sortFields placed fields
      = (fields.map fun field => (field.1, field.2.sortKeys)).foldl
          (fun placed field => placeField field.1 field.2 placed) placed := by
    induction fields generalizing placed with
    | nil => rfl
    | cons first rest ih => exact ih _
  rw [hfold, hfold, h]

/-! ## Sorted values as texts -/

mutual

theorem plain_sortKeys : ∀ {v : Json} {levels : Nat}, v.Plain levels → v.sortKeys.Plain levels
  | .list items, _, hv => ⟨hv.1, plainItems_sortItems hv.2⟩
  | .object fields, _, hv =>
      ⟨hv.1, plainFields_iff.mpr (plain_of_mem_sortFields hv.2 fun _ hfield => by cases hfield)⟩
  | .integer _, _, hv => hv
  | .text _, _, hv => hv
  | .null, _, hv => hv.elim
  | .bool _, _, hv => hv.elim
  | .float _, _, hv => hv.elim

theorem plainItems_sortItems : ∀ {items : List Json} {levels : Nat}, PlainItems levels items →
    PlainItems levels (sortItems items)
  | [], _, _ => trivial
  | _ :: _, _, hv => ⟨plain_sortKeys hv.1, plainItems_sortItems hv.2⟩

theorem plain_of_mem_sortFields : ∀ {fields placed : List (String × Json)} {levels : Nat},
    PlainFields levels fields → (∀ field ∈ placed, field.2.Plain levels) →
      ∀ field ∈ sortFields placed fields, field.2.Plain levels
  | [], _, _, _, h, field, hfield => h field hfield
  | first :: rest, placed, levels, hv, h, field, hfield => by
      refine plain_of_mem_sortFields hv.2 (fun other hother => ?_) field hfield
      rcases mem_placeField hother with rfl | hother
      · exact plain_sortKeys hv.1
      · exact h other hother

end

end Json

end AuditReminder
