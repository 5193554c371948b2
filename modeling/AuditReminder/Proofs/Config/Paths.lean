/-
Values at the end of paths.

A change at the end of a path puts one value in the place of another, and it is refused as missing
only if there is none (`update_eq`).  A value that is decoded from what it is encoded to is a view
of its encoding (`View`) if a change at one path leaves what is shown off that path, and shows at
that path a text put there for a text, or a number for a number.  Records whose parts are views are
views (`View.record`), so all that is said of a whole configuration is said of its texts, its
numbers and its list.
-/
import AuditReminder.Config.Fields
import AuditReminder.Proofs.Document.Members

namespace AuditReminder.Config

open Document

/-! ## What is found and what is put there -/

/-- A value with another one in the place of what stands at the end of a path. -/
def replaceAt : List String → Json → Json → Json
  | [], new, _ => new
  | part :: path, new, .object fields =>
      match Json.field? part (.object fields) with
      | none => .object fields
      | some value => .object (replaceField part (replaceAt path new value) fields)
  | _ :: _, _, value => value

variable {part name : String} {path other : List String} {value old new : Json}
  {fields : List (String × Json)}

theorem lookUp_cons : lookUp (part :: path) value = (value.field? part).bind (lookUp path) := rfl

theorem replaceAt_object (h : Json.field? part (.object fields) = some value) :
    replaceAt (part :: path) new (.object fields)
      = .object (replaceField part (replaceAt path new value) fields) := by
  rw [replaceAt, h]

section Update

variable {ε : Type} {change : Json → Except ε Json} {missing : ε}

/-- A change at the end of a path puts one value in the place of another. -/
theorem update_eq (path : List String) (value : Json) :
    update change missing path value
      = match lookUp path value with
        | none => .error missing
        | some old => (change old).map fun new => replaceAt path new value := by
  induction path generalizing value with
  | nil =>
      show change value = (change value).map fun new => new
      cases change value <;> rfl
  | cons part path ih =>
      cases value with
      | object fields =>
          rw [update, lookUp_cons]
          rcases hfield : Json.field? part (.object fields) with _ | value
          · rfl
          · simp only [Option.bind_some, ih value]
            rcases lookUp path value with _ | old
            · rfl
            · simp only [replaceAt_object hfield]
              cases change old <;> rfl
      | null | bool | integer | float | text | list => rfl

/-- What a change is refused for is that there is nothing to be changed, or the change itself. -/
theorem update_eq_ok_iff {changed : Json} :
    update change missing path value = .ok changed ↔
      ∃ old new, lookUp path value = some old ∧ change old = .ok new ∧
        changed = replaceAt path new value := by
  rw [update_eq]
  rcases lookUp path value with _ | old
  · simp
  · simp only [Except.map_eq_ok_iff, Option.some.injEq]
    constructor
    · rintro ⟨new, hnew, rfl⟩
      exact ⟨old, new, rfl, hnew, rfl⟩
    · rintro ⟨old', new, rfl, hnew, rfl⟩
      exact ⟨new, hnew, rfl⟩

end Update

theorem map_fst_replaceField (name : String) (value : Json) (fields : List (String × Json)) :
    (replaceField name value fields).map Prod.fst = fields.map Prod.fst := by
  induction fields with
  | nil => rfl
  | cons first rest ih =>
      rw [replaceField]
      split
      · next h => rw [List.map_cons, List.map_cons, h]
      · rw [List.map_cons, List.map_cons, ih]

theorem mem_replaceField_self (h : name ∈ fields.map Prod.fst) :
    (name, value) ∈ replaceField name value fields := by
  induction fields with
  | nil => cases h
  | cons first rest ih =>
      rw [replaceField]
      split
      · exact List.mem_cons_self
      · next hne =>
        rcases List.mem_cons.mp h with heq | h
        · exact (hne heq.symm).elim
        · exact List.mem_cons_of_mem _ (ih h)

theorem mem_replaceField_of_ne {field : String × Json} (h : field ∈ fields)
    (hne : field.1 ≠ name) : field ∈ replaceField name value fields := by
  induction fields with
  | nil => cases h
  | cons first rest ih =>
      rw [replaceField]
      split
      · next heq =>
        rcases List.mem_cons.mp h with rfl | h
        · exact (hne heq).elim
        · exact List.mem_cons_of_mem _ h
      · rcases List.mem_cons.mp h with rfl | h
        · exact List.mem_cons_self
        · exact List.mem_cons_of_mem _ (ih h)

/-- A value that is the same once it is sorted may be put in the place of a field. -/
theorem map_sortKeys_replaceField (hfield : Json.field? name (.object fields) = some old)
    (hnew : new.sortKeys = old.sortKeys) :
    (replaceField name new fields).map (fun field => (field.1, field.2.sortKeys))
      = fields.map fun field => (field.1, field.2.sortKeys) := by
  induction fields with
  | nil => cases hfield
  | cons first rest ih =>
      rw [Json.field?_cons] at hfield
      rw [replaceField]
      split at hfield
      · next hname =>
        cases hfield
        rw [if_pos hname, List.map_cons, List.map_cons, hnew, hname]
      · next hname => rw [if_neg hname, List.map_cons, List.map_cons, ih hfield]

/-- A value that is the same once it is sorted may be put anywhere. -/
theorem sortKeys_replaceAt (hold : lookUp path value = some old)
    (hnew : new.sortKeys = old.sortKeys) :
    (replaceAt path new value).sortKeys = value.sortKeys := by
  induction path generalizing value with
  | nil =>
      cases hold
      exact hnew
  | cons part path ih =>
      obtain ⟨inner, hfield, hinner⟩ := Option.bind_eq_some_iff.mp hold
      cases value with
      | object fields =>
          rw [replaceAt_object hfield, Json.sortKeys, Json.sortKeys]
          exact congrArg Json.object
            (Json.sortFields_congr (map_sortKeys_replaceField hfield (ih hinner)))
      | null | bool | integer | float | text | list => cases hfield

theorem plain_lookUp {levels : Nat} (h : value.Plain levels) (hold : lookUp path value = some old) :
    old.Plain levels := by
  induction path generalizing value with
  | nil =>
      cases hold
      exact h
  | cons part path ih =>
      obtain ⟨inner, hfield, hinner⟩ := Option.bind_eq_some_iff.mp hold
      cases value with
      | object fields =>
          have hfields := Json.plainFields_iff.mp h.2 _ (Json.mem_of_field? hfield)
          exact ih (Json.Plain.mono (Nat.sub_le levels 1) hfields) hinner
      | null | bool | integer | float | text | list => cases hfield

theorem bounded_lookUp (h : value.toNode.Bounded) (hold : lookUp path value = some old) :
    old.toNode.Bounded := by
  induction path generalizing value with
  | nil =>
      cases hold
      exact h
  | cons part path ih =>
      obtain ⟨inner, hfield, hinner⟩ := Option.bind_eq_some_iff.mp hold
      cases value with
      | object fields =>
          refine ih ?_ hinner
          have hmem := Json.mem_of_field? hfield
          rw [Json.toNode, Json.toFields_eq_map] at h
          exact Node.boundedFields_iff.mp h _ (List.mem_map_of_mem hmem)
      | null | bool | integer | float | text | list => cases hfield

/-! ## Views -/

/-- Neither path leads through the end of the other. -/
def Apart (path other : List String) : Prop := ¬ path <+: other ∧ ¬ other <+: path

/-- A text and a text, or a whole number and a whole number. -/
inductive SameLeaf : Json → Json → Prop where
  | text (s t : String) : SameLeaf (.text s) (.text t)
  | integer (m n : Int) : SameLeaf (.integer m) (.integer n)

/-- What is decoded shows what it was decoded from: all of a valid value, and of a valid value that
was changed at the end of a path what is off that path, and a text or a number put there. -/
structure View {α : Type} (decode : Decoder α) (encode : α → Json) (Valid : α → Prop) : Prop where
  sorts : ∀ a path, lookUp path (encode a).sortKeys = (lookUp path (encode a)).map Json.sortKeys
  decodes : ∀ a, Valid a → decode .value (encode a).sortKeys.toNode = .ok a
  keeps : ∀ a a' path old new, Valid a → lookUp path (encode a) = some old →
    decode .value (replaceAt path new (encode a)).sortKeys.toNode = .ok a' →
    ∀ other, Apart path other → lookUp other (encode a') = lookUp other (encode a)
  takes : ∀ a a' path old new, lookUp path (encode a) = some old → SameLeaf old new →
    decode .value (replaceAt path new (encode a)).sortKeys.toNode = .ok a' →
    lookUp path (encode a') = some new

namespace View

variable {α : Type}

theorem lookUp_eq_none_of_leaf (hleaf : ∀ fields, value ≠ .object fields) :
    lookUp (part :: path) value = none ∧ lookUp (part :: path) value.sortKeys = none := by
  cases value with
  | object fields => exact (hleaf fields rfl).elim
  | null | bool | integer | float | text | list => exact ⟨rfl, rfl⟩

/-- A value that is no object is a view if it is decoded and is itself a text or a number where it
is decoded from one. -/
theorem leaf {decode : Decoder α} {encode : α → Json} {Valid : α → Prop}
    (hleaf : ∀ a fields, encode a ≠ .object fields)
    (hdecodes : ∀ a, Valid a → decode .value (encode a).sortKeys.toNode = .ok a)
    (htakes : ∀ a a' new, SameLeaf (encode a) new → decode .value new.sortKeys.toNode = .ok a' →
      encode a' = new) : View decode encode Valid where
  sorts a path := by
    cases path with
    | nil => rfl
    | cons part path =>
        rw [(lookUp_eq_none_of_leaf (hleaf a)).1, (lookUp_eq_none_of_leaf (hleaf a)).2]
        rfl
  decodes := hdecodes
  keeps a a' path old new _ hold _ other hapart := by
    cases path with
    | nil => exact (hapart.1 List.nil_prefix).elim
    | cons part path => cases (lookUp_eq_none_of_leaf (hleaf a)).1.symm.trans hold
  takes a a' path old new hold hsame hdecode := by
    cases path with
    | nil =>
        cases hold
        exact congrArg some (htakes a a' new hsame hdecode)
    | cons part path => cases (lookUp_eq_none_of_leaf (hleaf a)).1.symm.trans hold

section Record

variable {members : List (Member α)} {member : Member α} {a a' : α}

theorem field?_toJson (h : Member.Apart members) {v : Json} :
    Json.field? part (Member.toJson members a) = some v ↔
      ∃ member ∈ members, member.name = part ∧ v = member.encode (member.get a) := by
  have hnames : ((members.map (Member.shown a)).map Prod.fst).Nodup := by
    rw [Member.map_fst_shown]
    exact h.names
  rw [Member.toJson, Json.field?_eq_some_iff hnames, List.mem_map]
  constructor
  · rintro ⟨member, hmember, heq⟩
    cases heq
    exact ⟨member, hmember, rfl, rfl⟩
  · rintro ⟨member, hmember, rfl, rfl⟩
    exact ⟨member, hmember, rfl⟩

/-- A path into a record leads on into its part. -/
theorem lookUp_toJson (h : Member.Apart members) (hmember : member ∈ members) (path : List String) :
    lookUp (member.name :: path) (Member.toJson members a)
      = lookUp path (member.encode (member.get a)) := by
  rw [lookUp_cons, (field?_toJson h).mpr ⟨member, hmember, rfl, rfl⟩]
  rfl

theorem exists_of_lookUp_toJson (h : Member.Apart members)
    (hold : lookUp (part :: path) (Member.toJson members a) = some old) :
    ∃ member ∈ members, member.name = part ∧ lookUp path (member.encode (member.get a)) = some old := by
  obtain ⟨v, hv, hold⟩ := Option.bind_eq_some_iff.mp hold
  obtain ⟨member, hmember, hname, rfl⟩ := (field?_toJson h).mp hv
  exact ⟨member, hmember, hname, hold⟩

/-- A record that was changed behind one member has that part from what was put there, and the other
parts from what they are encoded to. -/
theorem decode_of_replaceAt (h : Member.Apart members) (hmember : member ∈ members) {label : String}
    {draft : α}
    (hdecode : Decode.record label (members.map Member.slot) draft .value
      (replaceAt (member.name :: path) new (Member.toJson members a)).sortKeys.toNode = .ok a') :
    member.decode .value (replaceAt path new (member.encode (member.get a))).sortKeys.toNode
        = .ok (member.get a') ∧
      ∀ other ∈ members, other.name ≠ member.name →
        other.decode .value (other.encode (other.get a)).sortKeys.toNode = .ok (other.get a') := by
  have hfound := (field?_toJson h (a := a)).mpr ⟨member, hmember, rfl, rfl⟩
  rw [Member.toJson] at hfound
  rw [Member.toJson, replaceAt_object hfound] at hdecode
  have hkeys := map_fst_replaceField member.name
    (replaceAt path new (member.encode (member.get a))) (members.map (Member.shown a))
  rw [Member.map_fst_shown] at hkeys
  have hnames := hkeys ▸ h.names
  refine ⟨?_, fun other hother hne => ?_⟩
  · refine Member.get_of_sorted h hnames hmember (mem_replaceField_self ?_) hdecode
    rw [Member.map_fst_shown]
    exact List.mem_map_of_mem hmember
  · refine Member.get_of_sorted h hnames hother (mem_replaceField_of_ne ?_ hne) hdecode
    exact List.mem_map.mpr ⟨other, hother, rfl⟩

variable (members) in
/-- A record whose parts are views is one. -/
theorem record (label : String) (draft : α) (h : Member.Apart members) {Valid : α → Prop}
    (hviews : ∀ member ∈ members, ∃ ValidPart, View member.decode member.encode ValidPart ∧
      ∀ a, Valid a → ValidPart (member.get a)) :
    View (Decode.record label (members.map Member.slot) draft) (Member.toJson members) Valid where
  sorts a path := by
    cases path with
    | nil => rfl
    | cons part path =>
        have hnames : ((members.map (Member.shown a)).map Prod.fst).Nodup := by
          rw [Member.map_fst_shown]
          exact h.names
        rw [lookUp_cons, lookUp_cons, Member.toJson, Json.field?_sortKeys hnames]
        rcases hv : Json.field? part (.object (members.map (Member.shown a))) with _ | v
        · rfl
        · obtain ⟨member, hmember, -, rfl⟩ := (field?_toJson h).mp hv
          obtain ⟨ValidPart, hview, -⟩ := hviews member hmember
          exact hview.sorts (member.get a) path
  decodes a ha := by
    refine Member.record_toJson h fun member hmember => ?_
    obtain ⟨ValidPart, hview, hvalid⟩ := hviews member hmember
    exact hview.decodes _ (hvalid a ha)
  keeps a a' path old new ha hold hdecode other hapart := by
    rcases path with _ | ⟨part, path⟩
    · exact (hapart.1 List.nil_prefix).elim
    rcases other with _ | ⟨part', other⟩
    · exact (hapart.2 List.nil_prefix).elim
    obtain ⟨member, hmember, rfl, hpart⟩ := exists_of_lookUp_toJson h hold
    obtain ⟨hchanged, hothers⟩ := decode_of_replaceAt h hmember hdecode
    by_cases hname : part' ∈ members.map Member.name
    · obtain ⟨member', hmember', rfl⟩ := List.mem_map.mp hname
      obtain ⟨ValidPart, hview, hvalid⟩ := hviews member' hmember'
      rw [lookUp_toJson h hmember', lookUp_toJson h hmember']
      by_cases hsame : member'.name = member.name
      · -- the other path leads into the part that was changed
        obtain rfl := List.inj_on_of_nodup_map h.names hmember' hmember hsame
        refine hview.keeps _ _ path old new (hvalid a ha) hpart hchanged other ?_
        exact ⟨fun hprefix => hapart.1 (List.cons_prefix_cons.mpr ⟨rfl, hprefix⟩),
          fun hprefix => hapart.2 (List.cons_prefix_cons.mpr ⟨rfl, hprefix⟩)⟩
      · have hdecodes := hview.decodes _ (hvalid a ha)
        rw [Except.ok.inj (hdecodes.symm.trans (hothers member' hmember' hsame))]
    · have hnone (b : α) : lookUp (part' :: other) (Member.toJson members b) = none := by
        rw [Option.eq_none_iff_forall_ne_some]
        intro v hv
        obtain ⟨member', hmember', rfl, -⟩ := exists_of_lookUp_toJson h hv
        exact hname (List.mem_map_of_mem hmember')
      rw [hnone, hnone]
  takes a a' path old new hold hsame hdecode := by
    rcases path with _ | ⟨part, path⟩
    · cases hold
      cases hsame
    · obtain ⟨member, hmember, rfl, hpart⟩ := exists_of_lookUp_toJson h hold
      obtain ⟨hchanged, -⟩ := decode_of_replaceAt h hmember hdecode
      obtain ⟨ValidPart, hview, -⟩ := hviews member hmember
      rw [lookUp_toJson h hmember]
      exact hview.takes _ _ path old new hpart hsame hchanged

end Record

end View

end AuditReminder.Config
