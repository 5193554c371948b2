/-
Lists in the order of time.

Audits are listed by their deadlines and records by the instants of their claims, and where instants
agree by a name: the id of the audit, or the tier of the record.  Both orders are `ByTime`.

    ByTime.pairwise_mergeSort      what is sorted by it is in this order
    ByTime.mergeSort_eq_of_perm    values with distinct names are listed in one order only
-/
import AuditReminder.Dispatch
import AuditReminder.Proofs.Time.Stored
import Mathlib.Data.List.Nodup

namespace AuditReminder

theorem Instant.lt_trans {a b c : Instant} (h₁ : a < b) (h₂ : b < c) : a < c := by
  rw [Instant.lt_iff] at h₁ h₂ ⊢
  omega

theorem Instant.lt_irrefl (a : Instant) : ¬ a < a := by
  rw [Instant.lt_iff]
  omega

/-- An earlier instant, or the same instant and no later name. -/
def ByTime {α : Type} (instant : α → Instant) (name : α → String) (a b : α) : Prop :=
  instant a < instant b ∨ instant a = instant b ∧ name a ≤ name b

namespace ByTime

variable {α : Type} {instant : α → Instant} {name : α → String} {a b c : α}

theorem trans (h₁ : ByTime instant name a b) (h₂ : ByTime instant name b c) :
    ByTime instant name a c := by
  rcases h₁ with h₁ | ⟨h₁, hname₁⟩
  · rcases h₂ with h₂ | ⟨h₂, -⟩
    · exact Or.inl (Instant.lt_trans h₁ h₂)
    · exact Or.inl (h₂ ▸ h₁)
  · rcases h₂ with h₂ | ⟨h₂, hname₂⟩
    · exact Or.inl (h₁ ▸ h₂)
    · exact Or.inr ⟨h₁.trans h₂, String.le_trans hname₁ hname₂⟩

theorem total (instant : α → Instant) (name : α → String) (a b : α) :
    ByTime instant name a b ∨ ByTime instant name b a := by
  by_cases hab : instant a < instant b
  · exact Or.inl (Or.inl hab)
  · by_cases hba : instant b < instant a
    · exact Or.inr (Or.inl hba)
    · have heq : instant a = instant b := Instant.eq_iff_not_lt.mpr ⟨hab, hba⟩
      rcases String.le_total (name a) (name b) with hname | hname
      · exact Or.inl (Or.inr ⟨heq, hname⟩)
      · exact Or.inr (Or.inr ⟨heq.symm, hname⟩)

/-- Values with the same place in a list have the same name. -/
theorem name_eq (h₁ : ByTime instant name a b) (h₂ : ByTime instant name b a) :
    name a = name b := by
  rcases h₁ with h₁ | ⟨h₁, hname₁⟩
  · rcases h₂ with h₂ | ⟨h₂, -⟩
    · exact (Instant.lt_irrefl _ (Instant.lt_trans h₁ h₂)).elim
    · exact (Instant.lt_irrefl _ (h₂ ▸ h₁)).elim
  · rcases h₂ with h₂ | ⟨-, hname₂⟩
    · exact (Instant.lt_irrefl _ (h₁ ▸ h₂)).elim
    · exact String.le_antisymm hname₁ hname₂

section

variable {before : α → α → Bool} (hbefore : ∀ a b, before a b = true ↔ ByTime instant name a b)

include hbefore

theorem pairwise_mergeSort (l : List α) : (l.mergeSort before).Pairwise (ByTime instant name) := by
  have hsorted : (l.mergeSort before).Pairwise fun a b => before a b = true := by
    refine List.pairwise_mergeSort ?_ ?_ l
    · intro a b c
      rw [hbefore, hbefore, hbefore]
      exact trans
    · intro a b
      rw [Bool.or_eq_true, hbefore, hbefore]
      exact total instant name a b
  exact hsorted.imp fun {a b} => (hbefore a b).mp

/-- Whatever order values with distinct names come in, they are listed in the same order. -/
theorem mergeSort_eq_of_perm {l l' : List α} (h : l.Perm l') (hnames : (l'.map name).Nodup) :
    l.mergeSort before = l'.mergeSort before := by
  have hperm : (l.mergeSort before).Perm (l'.mergeSort before) :=
    ((List.mergeSort_perm _ _).trans h).trans (List.mergeSort_perm _ _).symm
  refine hperm.eq_of_pairwise ?_ (pairwise_mergeSort hbefore l) (pairwise_mergeSort hbefore l')
  intro a b ha hb hab hba
  have ha' : a ∈ l' := h.mem_iff.mp ((List.mergeSort_perm _ _).mem_iff.mp ha)
  have hb' : b ∈ l' := (List.mergeSort_perm _ _).mem_iff.mp hb
  exact List.inj_on_of_nodup_map hnames ha' hb' (name_eq hab hba)

end

end ByTime

theorem Audit.listedBefore_iff (a b : Audit) :
    listedBefore a b = true ↔ ByTime endsAt id a b := by
  simp [listedBefore, ByTime]

theorem Record.listedBefore_iff (a b : Record) :
    listedBefore a b = true ↔ ByTime sentAt tier a b := by
  simp [listedBefore, ByTime]

end AuditReminder
