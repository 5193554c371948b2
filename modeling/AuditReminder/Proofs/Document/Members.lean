/-
Records made of members.

A record that is exchanged as an object of its parts is given by its members: each says how one part
is decoded and encoded, and where the record keeps it.  Parts that are kept in different places can
be decoded in any order, and two fields of one name are refused.  So each part of a record is what
the field of its name is decoded to (`get_of_record`), and a record is decoded if each of its parts
is (`record_of_get`).
-/
import AuditReminder.Proofs.Document
import AuditReminder.Proofs.Json.Sorted
import Mathlib.Data.List.Nodup

namespace AuditReminder

namespace Document

/-- A part of a record, as it is exchanged under a name. -/
structure Member (α : Type) where
  Part : Type
  name : String
  isRequired : Bool
  decode : Decoder Part
  encode : Part → Json
  get : α → Part
  put : Part → α → α

namespace Member

variable {α : Type}

/-- The slot from which the part is taken. -/
def slot (member : Member α) : Decode.Slot α :=
  ⟨member.name, member.isRequired,
    fun dialect node draft => (member.decode dialect node).map (member.put · draft)⟩

/-- The part of a record under its name. -/
def shown (a : α) (member : Member α) : String × Json := (member.name, member.encode (member.get a))

/-- A record as the object of its parts. -/
def toJson (members : List (Member α)) (a : α) : Json := .object (members.map (shown a))

/-- Each member has a name and a place of its own, and together they make up the record. -/
structure Apart (members : List (Member α)) : Prop where
  names : (members.map name).Nodup
  get_put : ∀ member ∈ members, ∀ part a, member.get (member.put part a) = part
  get_put_of_ne : ∀ member ∈ members, ∀ other ∈ members, member.name ≠ other.name →
    ∀ part a, other.get (member.put part a) = other.get a
  ext : ∀ a b : α, (∀ member ∈ members, member.get a = member.get b) → a = b

variable {members : List (Member α)} {member : Member α} {dialect : Dialect} {label : String}
  {draft a : α} {seen seen' : List String} {parts : List (Key × Node)}
  {before : Option Position}

theorem map_fst_shown (members : List (Member α)) (a : α) :
    (members.map (shown a)).map Prod.fst = members.map name := by
  rw [List.map_map]
  rfl

/-- A slot that is found is that of a member of the name. -/
theorem exists_of_find?_slot {name : String} {slot' : Decode.Slot α}
    (h : (members.map slot).find? (·.name == name) = some slot') :
    ∃ other ∈ members, other.name = name ∧ slot' = other.slot := by
  obtain ⟨other, hother, rfl⟩ := List.mem_map.mp (List.mem_of_find?_eq_some h)
  exact ⟨other, hother, by simpa [slot] using List.find?_some h, rfl⟩

/-- The slot of a name is found. -/
theorem find?_slot (hnames : (members.map name).Nodup) (hmember : member ∈ members) :
    (members.map slot).find? (·.name == member.name) = some member.slot := by
  induction members with
  | nil => cases hmember
  | cons first rest ih =>
      obtain ⟨hfirst, hrest⟩ := List.nodup_cons.mp hnames
      rw [List.map_cons, List.find?_cons]
      rcases List.mem_cons.mp hmember with rfl | hmember
      · simp [slot]
      · have hne : first.name ≠ member.name := fun he => hfirst (he ▸ List.mem_map_of_mem hmember)
        have hslot : (first.slot.name == member.name) = false := by simpa [slot] using hne
        rw [hslot]
        exact ih hrest hmember

/-! ## What was decoded -/

section Decoded

variable (h : Apart members)
include h

/-- A part that was stored is not stored again. -/
theorem get_of_seen (hmember : member ∈ members) (hseen : member.name ∈ seen)
    (hfields : Decode.fields dialect (members.map slot) seen draft parts = .ok (seen', a)) :
    member.get a = member.get draft := by
  induction parts generalizing seen draft with
  | nil =>
      cases hfields
      rfl
  | cons part rest ih =>
      obtain ⟨fault | name, node⟩ := part
      · cases hfields
      · rw [Decode.fields] at hfields
        split at hfields
        · obtain ⟨done, -, hfields⟩ := Except.bind_eq_ok_iff.mp hfields
          exact ih hseen hfields
        · next slot' hslot =>
          obtain ⟨other, hother, rfl, rfl⟩ := exists_of_find?_slot hslot
          split at hfields
          · cases hfields
          · next hnew =>
            obtain ⟨draft', hstore, hfields⟩ := Except.bind_eq_ok_iff.mp hfields
            obtain ⟨value, -, rfl⟩ := Except.map_eq_ok_iff.mp hstore
            have hne : other.name ≠ member.name := fun he => hnew (he ▸ hseen)
            rw [ih (List.mem_cons_of_mem _ hseen) hfields,
              h.get_put_of_ne other hother member hmember hne]

/-- Each part is what its field is decoded to. -/
theorem get_of_fields (hmember : member ∈ members) {node : Node}
    (hnode : (Except.ok member.name, node) ∈ parts)
    (hfields : Decode.fields dialect (members.map slot) seen draft parts = .ok (seen', a)) :
    member.decode dialect node = .ok (member.get a) := by
  induction parts generalizing seen draft with
  | nil => cases hnode
  | cons part rest ih =>
      rcases List.mem_cons.mp hnode with rfl | hmem
      · rw [Decode.fields, find?_slot h.names hmember] at hfields
        simp only at hfields
        split at hfields
        · cases hfields
        · obtain ⟨draft', hstore, hfields⟩ := Except.bind_eq_ok_iff.mp hfields
          obtain ⟨value, hvalue, rfl⟩ := Except.map_eq_ok_iff.mp hstore
          rw [get_of_seen h hmember List.mem_cons_self hfields, h.get_put member hmember]
          exact hvalue
      · obtain ⟨fault | name, other⟩ := part
        · cases hfields
        · rw [Decode.fields] at hfields
          split at hfields
          · obtain ⟨done, -, hfields⟩ := Except.bind_eq_ok_iff.mp hfields
            exact ih hmem hfields
          · split at hfields
            · cases hfields
            · obtain ⟨draft', -, hfields⟩ := Except.bind_eq_ok_iff.mp hfields
              exact ih hmem hfields

/-- Each part of a record is what the field of its name was decoded to. -/
theorem get_of_record (hmember : member ∈ members) {node : Node}
    (hnode : (Except.ok member.name, node) ∈ parts)
    (hrecord : Decode.record label (members.map slot) draft dialect (.record parts .closed before)
      = .ok a) : member.decode dialect node = .ok (member.get a) := by
  obtain ⟨seen, hfields⟩ := Decode.fields_of_record hrecord
  exact get_of_fields h hmember hnode hfields

/-! ## What is decoded -/

/-- Fields of different names that are all decoded are all stored. -/
theorem exists_of_parts (seen : List String) (draft : α)
    (hparts : ∀ part ∈ parts, ∃ member ∈ members, part.1 = .ok member.name ∧
      ∃ value, member.decode dialect part.2 = .ok value)
    (hnames : (parts.map Prod.fst).Nodup) (hnew : ∀ name ∈ seen, .ok name ∉ parts.map Prod.fst) :
    ∃ seen' a, Decode.fields dialect (members.map slot) seen draft parts = .ok (seen', a) ∧
      (∀ name ∈ seen, name ∈ seen') ∧ ∀ name, .ok name ∈ parts.map Prod.fst → name ∈ seen' := by
  induction parts generalizing seen draft with
  | nil => exact ⟨seen, draft, rfl, fun _ hname => hname, fun _ hname => by cases hname⟩
  | cons part rest ih =>
      obtain ⟨key, node⟩ := part
      obtain ⟨member, hmember, rfl, value, hvalue⟩ := hparts (key, node) List.mem_cons_self
      obtain ⟨hfirst, hrest⟩ := List.nodup_cons.mp hnames
      have hunseen : member.name ∉ seen := fun hseen => hnew _ hseen List.mem_cons_self
      have hnew' : ∀ name ∈ member.name :: seen, .ok name ∉ rest.map Prod.fst := by
        intro name hname
        rcases List.mem_cons.mp hname with rfl | hname
        · exact hfirst
        · exact fun hmem => hnew name hname (List.mem_cons_of_mem _ hmem)
      obtain ⟨seen', a, hfields, hkeeps, hadds⟩ := ih (member.name :: seen)
        (member.put value draft) (fun part hpart => hparts part (List.mem_cons_of_mem _ hpart)) hrest hnew'
      refine ⟨seen', a, ?_, fun name hname => hkeeps name (List.mem_cons_of_mem _ hname), ?_⟩
      · rw [Decode.fields_cons (find?_slot h.names hmember) hunseen
          (Decode.store_eq_ok hvalue draft)]
        exact hfields
      · intro name hname
        rcases List.mem_cons.mp hname with hname | hname
        · cases hname
          exact hkeeps _ List.mem_cons_self
        · exact hadds name hname

/-- A record is decoded from fields of its names, in any order, that are decoded to its parts. -/
theorem record_of_get
    (hkeys : (parts.map Prod.fst).Perm (members.map fun member => .ok member.name))
    (hparts : ∀ part ∈ parts, ∃ member ∈ members, part.1 = .ok member.name ∧
      member.decode dialect part.2 = .ok (member.get a)) :
    Decode.record label (members.map slot) draft dialect (.record parts .closed before) = .ok a := by
  have hnames : (parts.map Prod.fst).Nodup := by
    have hmap : members.map (fun member => (Except.ok member.name : Key))
        = (members.map name).map Except.ok := by
      rw [List.map_map]
      rfl
    rw [hkeys.nodup_iff, hmap]
    exact h.names.map fun _ _ he => Except.ok.inj he
  have hall : ∀ member ∈ members, .ok member.name ∈ parts.map Prod.fst := fun member hmember =>
    hkeys.mem_iff.mpr (List.mem_map_of_mem hmember)
  obtain ⟨seen', b, hfields, -, hseen⟩ := exists_of_parts h [] draft
    (fun part hpart => by
      obtain ⟨member, hmember, hname, hvalue⟩ := hparts part hpart
      exact ⟨member, hmember, hname, _, hvalue⟩)
    hnames fun _ hname => by cases hname
  have hsame : b = a := by
    refine h.ext b a fun member hmember => ?_
    obtain ⟨⟨key, node⟩, hpart, rfl⟩ := List.mem_map.mp (hall member hmember)
    obtain ⟨other, hother, hname, hvalue⟩ := hparts _ hpart
    obtain rfl := List.inj_on_of_nodup_map h.names hmember hother (Except.ok.inj hname)
    exact Except.ok.inj ((get_of_fields h hmember hpart hfields).symm.trans hvalue)
  subst hsame
  refine Decode.record_eq_ok hfields ?_
  rw [Decode.missing?, Option.map_eq_none_iff, List.find?_eq_none]
  intro slot' hslot
  obtain ⟨member, hmember, rfl⟩ := List.mem_map.mp hslot
  simp [slot, hseen _ (hall member hmember)]

end Decoded

/-! ## Values as they are read -/

/-- The fields of an object are read in their order, each under its name. -/
theorem parts_of_shows {fields : List (String × Json)} (hshows : Json.ShowsFields fields parts) :
    parts.map Prod.fst = fields.map (fun field => .ok field.1) ∧
      ∀ part ∈ parts, ∃ field ∈ fields, part.1 = .ok field.1 ∧ field.2.Shows part.2 := by
  induction fields generalizing parts with
  | nil =>
      obtain rfl : parts = [] := hshows
      exact ⟨rfl, fun _ hpart => by cases hpart⟩
  | cons field rest ih =>
      obtain ⟨node, others, rfl, hnode, hothers⟩ := hshows
      obtain ⟨hkeys, hparts⟩ := ih hothers
      refine ⟨by rw [List.map_cons, List.map_cons, hkeys], fun part hpart => ?_⟩
      rcases List.mem_cons.mp hpart with rfl | hpart
      · exact ⟨field, List.mem_cons_self, rfl, hnode⟩
      · obtain ⟨other, hother, hpart⟩ := hparts part hpart
        exact ⟨other, List.mem_cons_of_mem _ hother, hpart⟩

/-- A record is decoded wherever the object of its parts is read, if these are. -/
theorem record_of_shows (h : Apart members) {node : Node}
    (hparts : ∀ member ∈ members, ∀ node, (member.encode (member.get a)).Shows node →
      member.decode dialect node = .ok (member.get a))
    (hshows : (toJson members a).Shows node) :
    Decode.record label (members.map slot) draft dialect node = .ok a := by
  obtain ⟨parts, before, rfl, hfields⟩ := hshows
  obtain ⟨hkeys, hshown⟩ := parts_of_shows hfields
  refine record_of_get h ?_ fun part hpart => ?_
  · rw [hkeys, List.map_map]
    exact .refl _
  · obtain ⟨field, hfield, hname, hnode⟩ := hshown part hpart
    obtain ⟨member, hmember, rfl⟩ := List.mem_map.mp hfield
    exact ⟨member, hmember, hname, hparts member hmember part.2 hnode⟩

/-! ## Values whose fields are sorted -/

section Sorted

variable {objects : List (String × Json)}

/-- An object with fields of different names, as it is decoded once it is sorted. -/
theorem toNode_sortKeys (hnames : (objects.map Prod.fst).Nodup) :
    ∃ parts, (Json.object objects).sortKeys.toNode = .record parts .closed none ∧
      parts.Perm (objects.map fun object => (.ok object.1, object.2.sortKeys.toNode)) := by
  refine ⟨Json.toFields (Json.sortFields [] objects), by rw [Json.sortKeys, Json.toNode], ?_⟩
  have hperm := (Json.sortFields_perm hnames).map
    fun object => ((.ok object.1, object.2.toNode) : Key × Node)
  rw [List.map_map] at hperm
  rw [Json.toFields_eq_map]
  exact hperm

/-- A part of a record is what its value in the sorted object was decoded to. -/
theorem get_of_sorted (h : Apart members) (hnames : (objects.map Prod.fst).Nodup)
    (hmember : member ∈ members) {value : Json} (hvalue : (member.name, value) ∈ objects)
    (hrecord : Decode.record label (members.map slot) draft dialect
      (Json.object objects).sortKeys.toNode = .ok a) :
    member.decode dialect value.sortKeys.toNode = .ok (member.get a) := by
  obtain ⟨parts, hnode, hparts⟩ := toNode_sortKeys hnames
  rw [hnode] at hrecord
  refine get_of_record h hmember (hparts.mem_iff.mpr ?_) hrecord
  exact List.mem_map.mpr ⟨(member.name, value), hvalue, rfl⟩

/-- A record is decoded from the sorted object of its parts if these are decoded. -/
theorem record_toJson (h : Apart members)
    (hparts : ∀ member ∈ members,
      member.decode dialect (member.encode (member.get a)).sortKeys.toNode
        = .ok (member.get a)) :
    Decode.record label (members.map slot) draft dialect (toJson members a).sortKeys.toNode
      = .ok a := by
  have hnames : ((members.map (shown a)).map Prod.fst).Nodup := by
    rw [map_fst_shown]
    exact h.names
  obtain ⟨parts, hnode, hperm⟩ := toNode_sortKeys hnames
  rw [toJson, hnode]
  rw [List.map_map] at hperm
  refine record_of_get h ?_ fun part hpart => ?_
  · have hkeys := hperm.map Prod.fst
    rw [List.map_map] at hkeys
    exact hkeys
  · obtain ⟨member, hmember, rfl⟩ := List.mem_map.mp (hperm.mem_iff.mp hpart)
    exact ⟨member, hmember, rfl, hparts member hmember⟩

end Sorted

end Member

end Document

end AuditReminder
