/-
Sets of names.

Owners, recipients and the tiers already sent are sets of texts.  A set is kept as the strictly
increasing list of its members in the order of their code points, so two sets with the same
members are equal and the order in which they are shown is fixed.  Main statements: `mem_insert`
and `mem_ofList`.
-/

namespace AuditReminder

/-- A set of texts, listed in increasing order. -/
structure NameSet where
  names : List String
  increasing : names.Pairwise (· < ·)
deriving DecidableEq

namespace NameSet

/-- Puts a name at its place in an increasing list, unless it is there already. -/
def place (name : String) : List String → List String
  | [] => [name]
  | head :: rest =>
      if name < head then name :: head :: rest
      else if name = head then head :: rest
      else head :: place name rest

theorem mem_place {x name : String} {names : List String} :
    x ∈ place name names ↔ x = name ∨ x ∈ names := by
  induction names with
  | nil => simp [place]
  | cons head rest ih =>
    rw [place]
    split
    · simp
    · split
      · next h => simp [h]
      · simp only [List.mem_cons, ih]
        constructor
        · rintro (h | h | h) <;> simp [h]
        · rintro (h | h | h) <;> simp [h]

theorem pairwise_place {name : String} {names : List String}
    (h : names.Pairwise (· < ·)) : (place name names).Pairwise (· < ·) := by
  induction names with
  | nil => simp [place]
  | cons head rest ih =>
    rw [place]
    rw [List.pairwise_cons] at h
    split
    · next lt =>
      refine List.pairwise_cons.2 ⟨?_, List.pairwise_cons.2 h⟩
      intro x hx
      rcases List.mem_cons.1 hx with rfl | hx
      · exact lt
      · exact String.lt_trans lt (h.1 x hx)
    · next notLt =>
      split
      · exact List.pairwise_cons.2 h
      · next ne =>
        refine List.pairwise_cons.2 ⟨?_, ih h.2⟩
        intro x hx
        rcases mem_place.1 hx with rfl | hx
        · exact Std.lt_of_le_of_ne notLt (fun e => ne e.symm)
        · exact h.1 x hx

/-- The set without members. -/
def empty : NameSet := ⟨[], List.Pairwise.nil⟩

/-- The set with one more member. -/
def insert (name : String) (s : NameSet) : NameSet :=
  ⟨place name s.names, pairwise_place s.increasing⟩

/-- The set of the names in a list; what is listed twice is a member once. -/
def ofList (names : List String) : NameSet := names.foldl (fun s name => s.insert name) empty

/-- The members in increasing order. -/
def toList (s : NameSet) : List String := s.names

def size (s : NameSet) : Nat := s.names.length

def isEmpty (s : NameSet) : Bool := s.names.isEmpty

instance : Membership String NameSet := ⟨fun s name => name ∈ s.names⟩

instance (name : String) (s : NameSet) : Decidable (name ∈ s) :=
  inferInstanceAs (Decidable (name ∈ s.names))

theorem mem_iff {name : String} {s : NameSet} : name ∈ s ↔ name ∈ s.toList := Iff.rfl

/-- Sets with the same members are equal. -/
theorem eq_of_mem_iff {s t : NameSet} (h : ∀ name, name ∈ s ↔ name ∈ t) : s = t := by
  have hnodup (u : NameSet) : u.names.Nodup :=
    u.increasing.imp fun {a b} (hlt : a < b) (he : a = b) => String.lt_irrefl b (he ▸ hlt)
  have hperm : s.names.Perm t.names := (List.perm_ext_iff_of_nodup (hnodup s) (hnodup t)).mpr h
  have hnames : s.names = t.names := hperm.eq_of_pairwise
    (fun a b _ _ hab hba => (String.lt_asymm hab hba).elim) s.increasing t.increasing
  cases s
  cases t
  cases hnames
  rfl

@[simp] theorem not_mem_empty (name : String) : name ∉ empty := by
  simp [mem_iff, toList, empty]

@[simp] theorem mem_insert {x name : String} {s : NameSet} :
    x ∈ s.insert name ↔ x = name ∨ x ∈ s := mem_place

theorem mem_foldl_insert {x : String} {names : List String} {s : NameSet} :
    x ∈ names.foldl (fun s name => s.insert name) s ↔ x ∈ s ∨ x ∈ names := by
  induction names generalizing s with
  | nil => simp
  | cons name names ih =>
    rw [List.foldl_cons, ih, mem_insert, List.mem_cons]
    constructor
    · rintro ((h | h) | h) <;> simp [h]
    · rintro (h | h | h) <;> simp [h]

@[simp] theorem mem_ofList {x : String} {names : List String} :
    x ∈ ofList names ↔ x ∈ names := by
  simp [ofList, mem_foldl_insert]

end NameSet

end AuditReminder
