/-
Decoding.

A record is decoded field by field, so a decoder gives back what was put together for it if each
part is given back (`fields_cons`, `record_eq_ok`), and what every part keeps true the whole record
keeps true (`fields_keeps`, `positions_keeps`).  A document is bounded if its whole numbers have 64
bits, and then so have the numbers without a sign that are decoded from it (`isInt64_of_nat64`).
-/
import AuditReminder.Document.Decode

namespace AuditReminder

open Document

/-! ## Steps that all succeed -/

section Steps

variable {ε α β : Type} {x : Except ε α} {b : β}

theorem Except.bind_eq_ok_iff {f : α → Except ε β} :
    x >>= f = .ok b ↔ ∃ a, x = .ok a ∧ f a = .ok b := by
  cases x <;> simp [bind, Except.bind]

theorem Except.map_eq_ok_iff {f : α → β} : x.map f = .ok b ↔ ∃ a, x = .ok a ∧ f a = b := by
  cases x <;> simp [Except.map]

theorem Except.mapError_eq_ok_iff {ε' : Type} {f : ε → ε'} {a : α} {x : Except ε α} :
    x.mapError f = .ok a ↔ x = .ok a := by
  cases x with
  | ok value =>
      constructor
      · intro h
        cases h
        rfl
      · intro h
        cases h
        rfl
  | error fault =>
      constructor
      · intro h
        cases h
      · intro h
        cases h

theorem Except.bind_eq_error_iff {f : α → Except ε β} {e : ε} :
    x >>= f = .error e ↔ x = .error e ∨ ∃ a, x = .ok a ∧ f a = .error e := by
  cases x <;> simp [bind, Except.bind]

theorem Except.mapError_eq_error_iff {ε' : Type} {f : ε → ε'} {e : ε'} :
    x.mapError f = .error e ↔ ∃ e', x = .error e' ∧ f e' = e := by
  cases x with
  | ok value =>
      constructor
      · intro h
        cases h
      · rintro ⟨e', h, -⟩
        cases h
  | error fault =>
      constructor
      · intro h
        cases h
        exact ⟨fault, rfl, rfl⟩
      · rintro ⟨e', h, rfl⟩
        cases h
        rfl

end Steps

/-! ## Bounded documents -/

namespace Document.Node

mutual

/-- Every whole number in the document has 64 bits. -/
def Bounded : Node → Prop
  | .atom (.integer n) _ => isInt64 n = true
  | .list items _ _ => BoundedItems items
  | .record fields _ _ => BoundedFields fields
  | _ => True

def BoundedItems : List Node → Prop
  | [] => True
  | node :: rest => node.Bounded ∧ BoundedItems rest

def BoundedFields : List (Key × Node) → Prop
  | [] => True
  | field :: rest => field.2.Bounded ∧ BoundedFields rest

end

theorem boundedItems_iff {nodes : List Node} :
    BoundedItems nodes ↔ ∀ node ∈ nodes, node.Bounded := by
  induction nodes with
  | nil => simp [BoundedItems]
  | cons node rest ih => simp [BoundedItems, ih]

theorem boundedFields_iff {fields : List (Key × Node)} :
    BoundedFields fields ↔ ∀ field ∈ fields, field.2.Bounded := by
  induction fields with
  | nil => simp [BoundedFields]
  | cons field rest ih => simp [BoundedFields, ih]

end Document.Node

namespace Document.Decode

/-! ## Numbers -/

section Numbers

variable {dialect : Dialect} {after : Option Position}

theorem int64_atom {n : Int} (h : isInt64 n = true) :
    int64 dialect (.atom (.integer n) after) = .ok n :=
  if_pos (isInt64_iff.mp h)

/-- A number of 64 bits with a sign is one without a sign unless it is below zero. -/
theorem nat64_atom {n : Nat} (h : isInt64 n = true) :
    nat64 dialect (.atom (.integer n) after) = .ok n := by
  have hbounds : 0 ≤ (n : Int) ∧ (n : Int) ≤ greatestNat64 :=
    ⟨Int.natCast_nonneg n, Int.le_trans (isInt64_iff.mp h).2 (by decide)⟩
  have hnumber : number 0 greatestNat64 "u64" dialect (.atom (.integer n) after) = .ok (n : Int) :=
    if_pos hbounds
  rw [nat64, hnumber]
  rfl

theorem isInt64_of_nat64 {node : Node} {n : Nat} (h : nat64 dialect node = .ok n)
    (hnode : node.Bounded) : isInt64 n = true := by
  unfold nat64 number at h
  split at h
  · next m after =>
    split at h
    · next hbounds =>
      cases h
      rw [Int.toNat_of_nonneg hbounds.1]
      exact hnode
    · cases h
  · cases h

end Numbers

/-! ## Records -/

section Records

variable {α β : Type} {dialect : Dialect} {slots : List (Slot α)} {seen seen' : List String}
  {draft draft' : α} {node : Node} {nodes : List Node} {fs : List (Key × Node)}

/-- A part that is decoded is stored, must it be there or not. -/
theorem store_eq_ok {name : String} {isRequired : Bool} {decode : Decoder β} {put : β → α → α}
    {value : β} (h : decode dialect node = .ok value) (draft : α) :
    (Slot.mk name isRequired fun dialect node draft =>
      (decode dialect node).map (put · draft)).store dialect node draft
        = .ok (put value draft) := by
  show (decode dialect node).map _ = _
  rw [h]
  rfl

theorem fields_cons {name : String} {slot : Slot α}
    (hslot : slots.find? (·.name == name) = some slot) (hnew : name ∉ seen)
    (hstore : slot.store dialect node draft = .ok draft') :
    fields dialect slots seen draft ((.ok name, node) :: fs)
      = fields dialect slots (name :: seen) draft' fs := by
  rw [fields, hslot]
  simp only [if_neg hnew, hstore]
  rfl

theorem record_eq_ok {label : String} {before : Option Position}
    (hfields : fields dialect slots [] draft fs = .ok (seen, draft'))
    (hall : missing? slots seen = none) :
    record label slots draft dialect (.record fs .closed before) = .ok draft' := by
  unfold record
  simp only [hfields, bind, Except.bind, hall]
  rfl

/-- What is true of a draft stays true if each field keeps it when it is stored. -/
theorem fields_keeps {P : α → Prop}
    (hkeep : ∀ name node, (Except.ok name, node) ∈ fs → ∀ slot,
      slots.find? (·.name == name) = some slot → ∀ draft draft', P draft →
        slot.store dialect node draft = .ok draft' → P draft')
    (h : fields dialect slots seen draft fs = .ok (seen', draft')) (hdraft : P draft) :
    P draft' := by
  induction fs generalizing seen draft with
  | nil =>
      cases h
      exact hdraft
  | cons field rest ih =>
      obtain ⟨name | name, node⟩ := field
      · cases h
      · have hrest := fun name node hmem => hkeep name node (List.mem_cons_of_mem _ hmem)
        rw [fields] at h
        split at h
        · obtain ⟨done, -, h⟩ := Except.bind_eq_ok_iff.mp h
          exact ih hrest h hdraft
        · next slot hslot =>
          split at h
          · cases h
          · obtain ⟨stored, hstore, h⟩ := Except.bind_eq_ok_iff.mp h
            exact ih hrest h (hkeep name node List.mem_cons_self slot hslot _ _ hdraft hstore)

theorem positions_keeps {P : α → Prop}
    (hkeep : ∀ node ∈ nodes, ∀ slot ∈ slots, ∀ draft draft', P draft →
      slot.store dialect node draft = .ok draft' → P draft')
    {expected : String} {index : Nat} {left : List Node}
    (h : positions dialect expected index slots draft nodes = .ok (draft', left))
    (hdraft : P draft) : P draft' := by
  induction slots generalizing index draft nodes with
  | nil =>
      cases h
      exact hdraft
  | cons slot slots ih =>
      cases nodes with
      | nil =>
          rw [positions] at h
          split at h
          · cases h
          · exact ih (fun node hmem => by cases hmem) h hdraft
      | cons node nodes =>
          rw [positions] at h
          obtain ⟨stored, hstore, h⟩ := Except.bind_eq_ok_iff.mp h
          have hstored := hkeep node List.mem_cons_self slot List.mem_cons_self _ _ hdraft hstore
          exact ih (fun node hnode slot hslot => hkeep node (List.mem_cons_of_mem _ hnode) slot
            (List.mem_cons_of_mem _ hslot)) h hstored

variable {label : String} {ending : Ending} {before : Option Position}

/-- A record is what its fields leave of the draft. -/
theorem fields_of_record
    (h : record label slots draft dialect (.record fs ending before) = .ok draft') :
    ∃ seen, fields dialect slots [] draft fs = .ok (seen, draft') := by
  obtain ⟨⟨seen, stored⟩, hfields, h⟩ := Except.bind_eq_ok_iff.mp h
  simp only at h
  split at h
  · cases h
  · split at h
    · cases h
    · cases h
      exact ⟨seen, hfields⟩

/-- A record written as a list is what its items leave of the draft, the missing ones last. -/
theorem positions_of_record
    (h : record label slots draft dialect (.list nodes ending before) = .ok draft') :
    ∃ expected stored left left',
      positions dialect expected 0 (slots.take nodes.length) draft nodes = .ok (stored, left) ∧
        positions dialect expected nodes.length (slots.drop nodes.length) stored []
          = .ok (draft', left') := by
  obtain ⟨⟨stored, left⟩, hgiven, h⟩ := Except.bind_eq_ok_iff.mp h
  simp only at h
  split at h
  · cases h
  · obtain ⟨⟨filled, left'⟩, hmissing, h⟩ := Except.bind_eq_ok_iff.mp h
    simp only at h
    split at h
    · cases h
    · split at h
      · cases h
      · cases h
        exact ⟨_, stored, left, left', hgiven, hmissing⟩

/-- What is true of a draft is true of a record from a bounded document if each bounded part keeps
it. -/
theorem record_keeps {P : α → Prop}
    (hkeep : ∀ slot ∈ slots, ∀ part : Node, part.Bounded → ∀ draft draft', P draft →
      slot.store dialect part draft = .ok draft' → P draft')
    (h : record label slots draft dialect node = .ok draft') (hnode : node.Bounded)
    (hdraft : P draft) : P draft' := by
  cases node with
  | record fs ending before =>
      obtain ⟨seen, hfields⟩ := fields_of_record h
      refine fields_keeps (fun name part hpart slot hslot => ?_) hfields hdraft
      exact hkeep slot (List.mem_of_find?_eq_some hslot) part
        (Node.boundedFields_iff.mp hnode _ hpart)
  | list nodes ending before =>
      obtain ⟨expected, stored, left, left', hgiven, hmissing⟩ := positions_of_record h
      have hstored : P stored := by
        refine positions_keeps (fun part hpart slot hslot => ?_) hgiven hdraft
        exact hkeep slot (List.mem_of_mem_take hslot) part
          (Node.boundedItems_iff.mp hnode _ hpart)
      exact positions_keeps (fun part hpart => by cases hpart) hmissing hstored
  | atom value after => cases h
  | unusable fault asVariant => cases h
  | broken used skipped asVariant => cases h

end Records

end Document.Decode

end AuditReminder
