/-
One audit for an id.

The store in memory keeps its audits in the order of their ids, and the table of audits takes no
second row for an id.  Both are kept by every operation, and so they hold of every store that
operations lead to from the empty one (`Memory.Reached.keyed`, `Database.Reached.keyed`).  No two of
the audits that such a store lists have the same id (`Memory.Reached.nodup_openAudits`,
`Database.Reached.nodup_listOpen`).
-/
import AuditReminder.Proofs.Store.Transaction

namespace AuditReminder

/-! ## The store in memory -/

namespace Memory

variable {store store' : Memory} {audit : Audit}

/-- The ids of the audits increase. -/
def Keyed (store : Memory) : Prop := store.audits.Pairwise fun a b => a.id < b.id

theorem keyed_empty : empty.Keyed := .nil

theorem mem_place {audits : List Audit} {a : Audit} (h : a ∈ place audit audits) :
    a = audit ∨ a ∈ audits := by
  induction audits with
  | nil => exact Or.inl (List.mem_singleton.mp h)
  | cons head rest ih =>
      rw [place] at h
      split at h
      · exact List.mem_cons.mp h
      · split at h
        · rcases List.mem_cons.mp h with h | h
          · exact Or.inl h
          · exact Or.inr (List.mem_cons_of_mem _ h)
        · rcases List.mem_cons.mp h with h | h
          · exact Or.inr (h ▸ List.mem_cons_self)
          · exact (ih h).imp_right (List.mem_cons_of_mem _)

theorem keyed_place {audits : List Audit} (h : audits.Pairwise fun a b => a.id < b.id) :
    (place audit audits).Pairwise fun a b => a.id < b.id := by
  induction audits with
  | nil => exact List.pairwise_singleton _ _
  | cons head rest ih =>
      rw [List.pairwise_cons] at h
      rw [place]
      split
      · next hlt =>
        refine .cons ?_ (.cons h.1 h.2)
        intro a ha
        rcases List.mem_cons.mp ha with rfl | ha
        · exact hlt
        · exact String.lt_trans hlt (h.1 a ha)
      · next hnot =>
        split
        · next heq => exact .cons (fun a ha => heq ▸ h.1 a ha) h.2
        · next hne =>
          refine .cons ?_ (ih h.2)
          intro a ha
          rcases mem_place ha with rfl | ha
          · exact Std.lt_of_le_of_ne hnot fun he => hne he.symm
          · exact h.1 a ha

theorem keyed_add (h : store.Keyed) (ha : store.add audit = .ok store') : store'.Keyed := by
  unfold add at ha
  split at ha
  · cases ha
  · cases ha
    exact keyed_place h

theorem keyed_claim (h : store.Keyed) (id : AuditId) (tier : String) (now : Instant) :
    (store.claim id tier now).2.Keyed := by
  unfold claim
  split <;> exact h

theorem keyed_release (h : store.Keyed) (id : AuditId) (tier : String) :
    (store.release id tier).Keyed := h

theorem keyed_close (h : store.Keyed) (id : AuditId) : (store.close id).2.Keyed := by
  refine List.pairwise_map.mpr (h.imp fun {a b} hlt => ?_)
  have hid (c : Audit) : (if c.id == id then c.close else c).id = c.id := by split <;> rfl
  rw [hid a, hid b]
  exact hlt

theorem nodup_openAudits (h : store.Keyed) : (store.openAudits.map Audit.id).Nodup := by
  have hids : (store.audits.map Audit.id).Nodup :=
    List.pairwise_map.mpr (h.imp fun {a b} hlt (he : a.id = b.id) => String.lt_irrefl _ (he ▸ hlt))
  have hperm := (List.mergeSort_perm (store.audits.filter Audit.isOpen)
    Audit.listedBefore).map Audit.id
  exact hperm.nodup_iff.mpr (hids.sublist (List.filter_sublist.map _))

/-- A store that operations lead to from the empty one. -/
inductive Reached : Memory → Prop where
  | empty : Reached .empty
  | add {store store' : Memory} {audit : Audit} (h : Reached store)
      (ha : store.add audit = .ok store') : Reached store'
  | close {store : Memory} (h : Reached store) (id : AuditId) : Reached (store.close id).2
  | claim {store : Memory} (h : Reached store) (id : AuditId) (tier : String) (now : Instant) :
      Reached (store.claim id tier now).2
  | release {store : Memory} (h : Reached store) (id : AuditId) (tier : String) :
      Reached (store.release id tier)

theorem Reached.keyed (h : store.Reached) : store.Keyed := by
  induction h with
  | empty => exact keyed_empty
  | add _ ha ih => exact keyed_add ih ha
  | close _ id ih => exact keyed_close ih id
  | claim _ id tier now ih => exact keyed_claim ih id tier now
  | release _ id tier ih => exact keyed_release ih id tier

theorem Reached.nodup_openAudits (h : store.Reached) : (store.openAudits.map Audit.id).Nodup :=
  Memory.nodup_openAudits h.keyed

end Memory

/-! ## The tables -/

/-- An audit that is read has the id of its row. -/
theorem AuditRow.id_of_decode {row : AuditRow} {audit : Audit} (h : row.decode = .ok audit) :
    audit.id = row.id := by
  unfold decode at h
  split at h
  · rcases hw : decodeOwners row.owners with fault | owners
    · rw [hw] at h
      cases h
    · rcases hs : decodeInstant auditsTable row.startsAt with fault | startsAt
      · rw [hw, hs] at h
        cases h
      · rcases he : decodeInstant auditsTable row.endsAt with fault | endsAt
        · rw [hw, hs, he] at h
          cases h
        · rw [hw, hs, he] at h
          cases h
          rfl
  · cases h

namespace Tables

variable {t t' : Tables}

/-- No two rows of audits have the same id. -/
def Keyed (t : Tables) : Prop := ∀ rows, t.audits = some rows → (rows.map AuditRow.id).Nodup

theorem keyed_congr (h : t.Keyed) (ht : t'.audits = t.audits) : t'.Keyed := fun rows hr =>
  h rows (ht ▸ hr)

/-- A statement that keeps the tables keyed. -/
def KeepsKeyed {α : Type} (statement : Statement α) : Prop :=
  ∀ {t answer t'}, t.Keyed → statement t = .ok (answer, t') → t'.Keyed

/-- A statement on other tables keeps them keyed. -/
theorem keepsKeyed_of_audits {α : Type} {statement : Statement α}
    (hs : ∀ {t answer t'}, statement t = .ok (answer, t') → t'.audits = t.audits) :
    KeepsKeyed statement := fun h ht => keyed_congr h (hs ht)

theorem insertAudit_eq (row : AuditRow) {rows : List AuditRow} (ht : t.audits = some rows) :
    insertAudit row t =
      if rows.any (·.id == row.id) then .error (QueryFault.notUnique (auditsTable ++ ".id"))
      else .ok ((), { t with audits := some (rows ++ [row]) }) := by
  simp only [insertAudit, auditRows, ht]
  rfl

theorem keepsKeyed_insertAudit (row : AuditRow) : KeepsKeyed (insertAudit row) := by
  intro t answer t' h hs
  cases ht : t.audits with
  | none =>
      simp only [insertAudit, auditRows, ht] at hs
      cases hs
  | some rows =>
      rw [insertAudit_eq row ht] at hs
      split at hs
      · cases hs
      · next hnew =>
        cases hs
        rintro rows' ⟨⟩
        have hfresh : row.id ∉ rows.map AuditRow.id := by simpa using hnew
        rw [List.map_append]
        refine List.nodup_append.mpr ⟨h rows ht, List.pairwise_singleton _ _, ?_⟩
        intro id hid other hother he
        obtain rfl := List.mem_singleton.mp hother
        exact hfresh (he ▸ hid)

theorem keepsKeyed_closeAudit (id : AuditId) : KeepsKeyed (closeAudit id) := by
  intro t answer t' h hs
  cases ht : t.audits with
  | none =>
      simp only [closeAudit, auditRows, ht] at hs
      cases hs
  | some rows =>
      simp only [closeAudit, auditRows, ht] at hs
      cases hs
      rintro rows' ⟨⟩
      rw [List.map_map]
      have hids : (AuditRow.id ∘ fun row : AuditRow =>
          if row.id == id then { row with status := AuditStatus.closed.text } else row)
          = AuditRow.id := by
        funext row
        show (if row.id == id then { row with status := AuditStatus.closed.text } else row).id = _
        split <;> rfl
      rw [hids]
      exact h rows ht

theorem keepsKeyed_createVersionTable : KeepsKeyed createVersionTable :=
  keepsKeyed_of_audits fun hs => by
    cases hs
    rfl

theorem keepsKeyed_toFirstVersion : KeepsKeyed toFirstVersion := by
  intro t answer t' h hs
  unfold toFirstVersion setVersion at hs
  split at hs
  · cases hs
    rintro rows ⟨⟩
    cases ht : t.audits with
    | none => exact .nil
    | some rows => exact h rows ht
  · cases hs

theorem keepsKeyed_toSecondVersion : KeepsKeyed toSecondVersion := by
  refine keepsKeyed_of_audits fun {t answer t'} hs => ?_
  unfold toSecondVersion setVersion at hs
  split at hs
  · split at hs
    · cases hs
      rfl
    · cases hs
  · cases hs

theorem deleteRecords_audits {id : AuditId} {count : Nat}
    (h : deleteRecords id t = .ok (count, t')) : t'.audits = t.audits := by
  cases ht : t.records with
  | none =>
      simp only [deleteRecords, recordRows, ht] at h
      cases h
  | some rows =>
      simp only [deleteRecords, recordRows, ht] at h
      cases h
      rfl

theorem decodeRows_ids {rows : List AuditRow} {audits : List Audit}
    (h : decodeRows AuditRow.decode rows = .ok audits) :
    audits.map Audit.id = rows.map AuditRow.id := by
  induction rows generalizing audits with
  | nil =>
      cases h
      rfl
  | cons row rest ih =>
      rw [decodeRows] at h
      rcases hrow : row.decode with fault | audit
      · rw [hrow] at h
        cases h
      · rcases hrest : decodeRows AuditRow.decode rest with fault | others
        · rw [hrow, hrest] at h
          cases h
        · rw [hrow, hrest] at h
          cases h
          rw [List.map_cons, List.map_cons, ih hrest, AuditRow.id_of_decode hrow]

theorem nodup_listOpen {audits : List Audit} (h : t.Keyed) (hl : t.listOpen = .ok audits) :
    (audits.map Audit.id).Nodup := by
  cases ht : t.audits with
  | none =>
      simp only [listOpen, auditRows, ht] at hl
      cases hl
  | some rows =>
      simp only [listOpen, auditRows, ht, select] at hl
      rw [decodeRows_ids hl]
      have hperm := (List.mergeSort_perm
        (rows.filter fun row => row.status == AuditStatus.open.text)
        AuditRow.listedBefore).map AuditRow.id
      exact hperm.nodup_iff.mpr ((h rows ht).sublist (List.filter_sublist.map _))

end Tables

/-! ## The database -/

namespace Database

variable {α β : Type} {db : Database} {c : Connection}

/-- The committed tables are keyed, and so are those of the holder of the lock. -/
def Keyed (db : Database) : Prop :=
  db.committed.Keyed ∧ ∀ holder tables, db.pending = some (holder, tables) → tables.Keyed

theorem keyed_empty : empty.Keyed := by
  constructor
  · rintro rows ⟨⟩
  · rintro holder tables ⟨⟩

theorem keyed_view (h : db.Keyed) (c : Connection) : (db.view c).Keyed := by
  unfold view
  split
  · next holder tables hp =>
    split
    · exact h.2 holder tables hp
    · exact h.1
  · exact h.1

theorem keyed_put (h : db.Keyed) {t : Tables} (ht : t.Keyed) : (db.put c t).Keyed := by
  unfold put
  split
  · refine ⟨h.1, ?_⟩
    rintro holder tables ⟨⟩
    exact ht
  · exact ⟨ht, h.2⟩

theorem keyed_write (h : db.Keyed) {statement : Statement α} (hs : Tables.KeepsKeyed statement) :
    (db.write c statement).2.Keyed := by
  rcases hw : db.write c statement with ⟨fault | answer, db'⟩
  · rw [write_error hw]
    exact h
  · obtain ⟨t, ht, -, rfl⟩ := write_ok hw
    exact keyed_put h (hs (keyed_view h c) ht)

theorem keyed_transact (h : db.Keyed) {first : Statement α} {second : Statement β}
    (h₁ : Tables.KeepsKeyed first) (h₂ : Tables.KeepsKeyed second) :
    (db.transact c first second).2.Keyed := by
  rcases hboth : db.transact c first second with ⟨fault | ⟨a, b⟩, db'⟩
  · rw [transact_error hboth]
    exact h
  · obtain ⟨-, t, t', hfirst, hsecond, rfl⟩ := transact_ok hboth
    refine ⟨h₂ (h₁ h.1 hfirst) hsecond, ?_⟩
    rintro holder tables ⟨⟩

theorem keyed_addAudit (h : db.Keyed) (audit : Audit) : (db.addAudit c audit).2.Keyed := by
  unfold addAudit
  split
  · exact h
  · exact keyed_write h (Tables.keepsKeyed_insertAudit _)

theorem keyed_closeAudit (h : db.Keyed) (id : AuditId) : (db.closeAudit c id).2.Keyed :=
  keyed_transact h (Tables.keepsKeyed_closeAudit id)
    (Tables.keepsKeyed_of_audits Tables.deleteRecords_audits)

theorem keyed_claim (h : db.Keyed) (id : AuditId) (tier : String) (now : Instant) :
    (db.claim c id tier now).2.Keyed :=
  keyed_write h (Tables.keepsKeyed_of_audits Tables.insertRecord_audits)

theorem keyed_release (h : db.Keyed) (id : AuditId) (tier : String) :
    (db.release c id tier).2.Keyed :=
  keyed_write h (Tables.keepsKeyed_of_audits Tables.deleteRecord_audits)

theorem keyed_lock (h : db.Keyed) : (db.lock c).2.Keyed := by
  unfold lock
  split
  · exact h
  · split
    · exact h
    · refine ⟨h.1, ?_⟩
      rintro holder tables ⟨⟩
      exact h.1

theorem keyed_commit (h : db.Keyed) : (db.commit c).2.Keyed := by
  unfold commit
  split
  · next holder tables hp =>
    split
    · refine ⟨h.2 holder tables hp, ?_⟩
      rintro holder tables ⟨⟩
    · exact h
  · exact h

theorem keyed_recover (h : db.Keyed) : db.recover.Keyed := by
  refine ⟨h.1, ?_⟩
  rintro holder tables ⟨⟩

theorem keyed_writeIfNeeded (h : db.Keyed) {statement : Statement Unit}
    (hs : Tables.KeepsKeyed statement) : (db.writeIfNeeded c statement).2.Keyed := by
  unfold writeIfNeeded
  split
  · split
    · exact h
    · exact keyed_write h hs
  · exact keyed_write h hs

theorem keyed_migrateFrom (h : db.Keyed) (version : Int) : (migrateFrom version db c).2.Keyed := by
  have hfirst :
      (if version < 1 then db.write c Tables.toFirstVersion else (.ok (), db)).2.Keyed := by
    split
    · exact keyed_write h Tables.keepsKeyed_toFirstVersion
    · exact h
  unfold migrateFrom
  simp only
  split
  · next hw =>
    rw [hw] at hfirst
    exact hfirst
  · next db' hw =>
    rw [hw] at hfirst
    split
    · exact keyed_write hfirst Tables.keepsKeyed_toSecondVersion
    · exact hfirst

theorem keyed_migrate (h : db.Keyed) : (db.migrate c).2.Keyed := by
  have hcreated := keyed_writeIfNeeded (c := c) h Tables.keepsKeyed_createVersionTable
  unfold migrate
  simp only
  split
  · next hw =>
    rw [hw] at hcreated
    exact hcreated
  · next db' hw =>
    rw [hw] at hcreated
    split
    · exact hcreated
    · next version hversion =>
      split
      · exact hcreated
      · have hmigrated := keyed_migrateFrom (c := c) hcreated version
        split
        · next hw' =>
          rw [hw'] at hmigrated
          exact hmigrated
        · next hw' =>
          rw [hw'] at hmigrated
          exact hmigrated

/-- A database that operations, over any connections, lead to from the empty one. -/
inductive Reached : Database → Prop where
  | empty : Reached .empty
  | migrate {db : Database} (h : Reached db) (c : Connection) : Reached (db.migrate c).2
  | addAudit {db : Database} (h : Reached db) (c : Connection) (audit : Audit) :
      Reached (db.addAudit c audit).2
  | closeAudit {db : Database} (h : Reached db) (c : Connection) (id : AuditId) :
      Reached (db.closeAudit c id).2
  | claim {db : Database} (h : Reached db) (c : Connection) (id : AuditId) (tier : String)
      (now : Instant) : Reached (db.claim c id tier now).2
  | release {db : Database} (h : Reached db) (c : Connection) (id : AuditId) (tier : String) :
      Reached (db.release c id tier).2
  | lock {db : Database} (h : Reached db) (c : Connection) : Reached (db.lock c).2
  | commit {db : Database} (h : Reached db) (c : Connection) : Reached (db.commit c).2
  | recover {db : Database} (h : Reached db) : Reached db.recover

theorem Reached.keyed (h : db.Reached) : db.Keyed := by
  induction h with
  | empty => exact keyed_empty
  | migrate _ c ih => exact keyed_migrate ih
  | addAudit _ c audit ih => exact keyed_addAudit ih audit
  | closeAudit _ c id ih => exact keyed_closeAudit ih id
  | claim _ c id tier now ih => exact keyed_claim ih id tier now
  | release _ c id tier ih => exact keyed_release ih id tier
  | lock _ c ih => exact keyed_lock ih
  | commit _ c ih => exact keyed_commit ih
  | recover _ ih => exact keyed_recover ih

/-- Whatever has been done to a database, no connection is shown two audits of one id. -/
theorem Reached.nodup_listOpen {audits : List Audit} (h : db.Reached)
    (hl : (db.view c).listOpen = .ok audits) : (audits.map Audit.id).Nodup :=
  Tables.nodup_listOpen (keyed_view h.keyed c) hl

end Database

end AuditReminder
