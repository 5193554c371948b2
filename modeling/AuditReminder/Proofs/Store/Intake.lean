/-
What a database takes in.

The audits that are added to a database may all be of one kind, and the claims in it be made at
instants of one kind.  Then what it holds is of these kinds too, whatever else is done with it.
Each operation keeps it so, a pass keeps it so as it claims at its own instant alone, and so do any
calls one after the other (`Database.HoldsOnly.performAll`).
-/
import AuditReminder.Proofs.Store.Contents
import AuditReminder.Proofs.Store.Operations

namespace AuditReminder

/-- Which audits are added, open or closed, and at which instants claims are made. -/
structure Intake where
  audit : Audit → Prop
  instant : Instant → Prop
  closedAt {a : Audit} (id : AuditId) : audit a → audit (a.closedAt id)

/-- A valid audit that the call adds belongs to the intake, and so does the instant of its
claims. -/
def Intake.Admits {ω : Type} (intake : Intake) : Call ω → Prop
  | .add audit => audit.fault? = none → intake.audit audit
  | .claim _ _ now => intake.instant now
  | .pass _ _ _ now => intake.instant now
  | _ => True

namespace Database

variable {ω : Type} {intake : Intake} {db : Database} {c : Connection} {now : Instant}

/-- All that the database holds belongs to the intake. -/
def HoldsOnly (intake : Intake) (db : Database) : Prop :=
  ∃ audits records, db.Holds audits records ∧ (∀ audit ∈ audits, intake.audit audit) ∧
    ∀ record ∈ records, intake.instant record.sentAt

theorem holdsOnly_fresh (intake : Intake) : fresh.HoldsOnly intake := by
  refine ⟨[], [], holds_fresh, ?_, ?_⟩
  · intro audit ha
    cases ha
  · intro record hr
    cases hr

namespace HoldsOnly

/-! ## Operations -/

theorem add (h : db.HoldsOnly intake) {audit : Audit}
    (ha : audit.fault? = none → intake.audit audit) :
    (db.addAudit c audit).2.HoldsOnly intake := by
  obtain ⟨audits, records, hholds, haudits, hrecords⟩ := h
  cases hfault : audit.fault? with
  | some fault =>
      rw [Holds.addAudit_invalid hfault]
      exact ⟨audits, records, hholds, haudits, hrecords⟩
  | none =>
      by_cases hid : audit.id ∈ audits.map Audit.id
      · obtain ⟨fault, hadd⟩ := hholds.addAudit_taken (c := c) hfault hid
        rw [hadd]
        exact ⟨audits, records, hholds, haudits, hrecords⟩
      · obtain ⟨db', hadd, hholds'⟩ := hholds.addAudit_new (c := c) hfault hid
        rw [hadd]
        refine ⟨_, _, hholds', ?_, hrecords⟩
        intro other hother
        rcases List.mem_append.mp hother with hother | hother
        · exact haudits other hother
        · rw [List.mem_singleton.mp hother]
          exact ha hfault

theorem close (h : db.HoldsOnly intake) (id : AuditId) :
    (db.close c id).2.HoldsOnly intake := by
  obtain ⟨audits, records, hholds, haudits, hrecords⟩ := h
  obtain ⟨db', hclose, hholds'⟩ := hholds.close (c := c) id
  rw [hclose]
  refine ⟨_, _, hholds', ?_, ?_⟩
  · intro closed hclosed
    obtain ⟨audit, haudit, rfl⟩ := List.mem_map.mp hclosed
    exact intake.closedAt id (haudits audit haudit)
  · intro record hrecord
    exact hrecords record (List.mem_filter.mp hrecord).1

theorem claim (h : db.HoldsOnly intake) (hnow : intake.instant now) (id : AuditId)
    (tier : String) : (db.claim c id tier now).2.HoldsOnly intake := by
  obtain ⟨audits, records, hholds, haudits, hrecords⟩ := h
  obtain ⟨claimed, db', records', hclaim, hholds', hnew⟩ := hholds.claim (c := c) id tier now
  rw [hclaim]
  refine ⟨_, _, hholds', haudits, ?_⟩
  intro record hrecord
  rcases hnew record hrecord with hold | rfl
  · exact hrecords record hold
  · exact hnow

theorem release (h : db.HoldsOnly intake) (id : AuditId) (tier : String) :
    (db.release c id tier).2.HoldsOnly intake := by
  obtain ⟨audits, records, hholds, haudits, hrecords⟩ := h
  obtain ⟨db', hrelease, hholds'⟩ := hholds.release (c := c) id tier
  rw [hrelease]
  refine ⟨_, _, hholds', haudits, ?_⟩
  intro record hrecord
  exact hrecords record (List.mem_filter.mp hrecord).1

/-! ## Calls -/

/-- A pass is followed beside itself, over equal databases that hold the intake only. -/
theorem related (hnow : intake.instant now) :
    Backend.Related (fun s t : Database => s = t ∧ s.HoldsOnly intake) now (backend c)
      (backend c) where
  listOpen := by
    rintro s t ⟨rfl, -⟩
    rfl
  sentTiers := by
    rintro s t ⟨rfl, -⟩ id
    rfl
  claim := by
    rintro s t ⟨rfl, hs⟩ id tier
    exact ⟨rfl, rfl, hs.claim hnow id tier⟩
  release := by
    rintro s t ⟨rfl, hs⟩ id tier
    exact ⟨rfl, rfl, hs.release id tier⟩

theorem perform {call : Call ω} (hcall : intake.Admits call) {scene : Scene Database ω}
    (h : scene.store.HoldsOnly intake) :
    ((operations c).perform call scene).2.store.HoldsOnly intake := by
  cases call with
  | add audit => exact h.add hcall
  | close id => exact h.close id
  | listOpen | sentTiers | recordsOf => exact h
  | claim id tier now => exact h.claim hcall id tier
  | release id tier => exact h.release id tier
  | pass render send plan now =>
      have hself : Scene.Related (fun s t : Database => s = t ∧ s.HoldsOnly intake) scene scene :=
        ⟨⟨rfl, h⟩, rfl, rfl⟩
      exact ((related (c := c) hcall).run render send plan hself).2.store.2

/-- After calls that the intake admits the database holds nothing else. -/
theorem performAll {calls : List (Call ω)} (hcalls : ∀ call ∈ calls, intake.Admits call)
    {scene : Scene Database ω} (h : scene.store.HoldsOnly intake) :
    ((operations c).performAll calls scene).2.store.HoldsOnly intake := by
  induction calls generalizing scene with
  | nil => exact h
  | cons call calls ih =>
      have hrest : ∀ other ∈ calls, intake.Admits other := fun other hother =>
        hcalls other (List.mem_cons_of_mem _ hother)
      exact ih hrest (perform (hcalls call List.mem_cons_self) h)

end HoldsOnly

end Database

end AuditReminder
