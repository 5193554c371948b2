/-
Changes that fail.

A change to a database adds an audit, closes one, claims a pair or releases it.  A connection makes
it in whatever state it meets: a table or the index may be missing, rows may have been written by
another program, and the write lock may be held by another connection or by itself.  A change that
fails leaves that state as it was, and it fails for these reasons alone
(`Database.change_fails_iff`):

    add              the audit is not valid, its id is taken, or the table of audits is missing
    close            one of the tables is missing, or any connection holds the lock, even itself
    claim, release   the table of records is missing
    all but close    another connection holds the lock

A connection that has begun a transaction and holds no lock yet cannot close an audit, since closing
is a transaction of its own.  Its other changes fail for the same reasons, and no row is then
changed, though the lock may be taken (`Database.changeInTransaction_failed`).

Main statement: `Database.failed_changes_nothing`.
-/
import AuditReminder.Proofs.Store.Closing

namespace AuditReminder

/-! ## Statements that fail -/

namespace Tables

variable {t : Tables} {id : AuditId} {tier : String}

theorem insertAudit_fails_iff {row : AuditRow} :
    (∃ cause, insertAudit row t = .error cause) ↔
      ¬ ∃ rows, t.audits = some rows ∧ ∀ other ∈ rows, other.id ≠ row.id := by
  cases ht : t.audits with
  | none => simp [insertAudit, auditRows, ht, bind, Except.bind]
  | some rows =>
      rw [insertAudit_eq row ht]
      by_cases htaken : rows.any (·.id == row.id)
      · rw [if_pos htaken]
        obtain ⟨other, hother, hid⟩ := List.any_eq_true.mp htaken
        refine iff_of_true ⟨_, rfl⟩ ?_
        rintro ⟨rows', hrows', hfree⟩
        cases hrows'
        exact hfree other hother (eq_of_beq hid)
      · rw [if_neg htaken]
        refine iff_of_false ?_ ?_
        · rintro ⟨cause, hcause⟩
          cases hcause
        · intro hnone
          refine hnone ⟨rows, rfl, fun other hother hid => htaken ?_⟩
          exact List.any_eq_true.mpr ⟨other, hother, beq_iff_eq.mpr hid⟩

theorem insertRecord_fails_iff {row : RecordRow} :
    (∃ cause, insertRecord row t = .error cause) ↔ t.records = none := by
  cases ht : t.records with
  | none =>
      rw [insertRecord_none row ht]
      exact iff_of_true ⟨_, rfl⟩ rfl
  | some rows =>
      rw [insertRecord_eq row ht]
      refine iff_of_false ?_ (by simp)
      rintro ⟨cause, hcause⟩
      split at hcause <;> cases hcause

theorem deleteRecord_fails_iff :
    (∃ cause, deleteRecord id tier t = .error cause) ↔ t.records = none := by
  cases ht : t.records with
  | none => simp [deleteRecord, recordRows, ht, bind, Except.bind]
  | some rows =>
      simp [deleteRecord, recordRows, ht, bind, Except.bind, pure, Except.pure]

end Tables

/-! ## Changes -/

/-- A change to a database. -/
inductive Change where
  | add (audit : Audit)
  | close (id : AuditId)
  | claim (id : AuditId) (tier : String) (now : Instant)
  | release (id : AuditId) (tier : String)
deriving DecidableEq

namespace Database

variable {α : Type} {db : Database} {c : Connection} {id : AuditId}

/-- Makes a change over a connection.  A close tells whether there is such an audit, and a claim
whether the pair was free. -/
def change (db : Database) (c : Connection) : Change → Except AddFault Bool × Database
  | .add audit => ((db.addAudit c audit).1.map fun _ => true, (db.addAudit c audit).2)
  | .close id => ((db.close c id).1.mapError .store, (db.close c id).2)
  | .claim id tier now =>
      ((db.claim c id tier now).1.mapError .store, (db.claim c id tier now).2)
  | .release id tier =>
      (((db.release c id tier).1.map fun _ => true).mapError .store, (db.release c id tier).2)

/-- What keeps a connection from making a change. -/
def Refuses (db : Database) (c : Connection) : Change → Prop
  | .add audit => audit.fault? ≠ none ∨ db.isLockedFor c = true ∨
      ¬ ∃ rows, (db.view c).audits = some rows ∧ ∀ row ∈ rows, row.id ≠ audit.id
  | .close _ => db.pending ≠ none ∨ db.committed.audits = none ∨ db.committed.records = none
  | .claim _ _ _ => db.isLockedFor c = true ∨ (db.view c).records = none
  | .release _ _ => db.isLockedFor c = true ∨ (db.view c).records = none

/-- What a statement answers, as the answer to a change. -/
def answered (result : Except QueryFault α × Database) (yes : α → Bool) :
    Except AddFault Bool × Database :=
  ((result.1.map yes).mapError fun fault => .store (.ofQuery fault), result.2)

/-- Makes a change over a connection that has begun a transaction. -/
def changeInTransaction (db : Database) (c : Connection) :
    Change → Except AddFault Bool × Database
  | .add audit =>
      match audit.fault? with
      | some fault => (.error (.invalid fault), db)
      | none =>
          answered (db.writeInTransaction c (Tables.insertAudit (.ofAudit audit))) fun _ => true
  | .close _ => (.error (.store (.ofQuery .nestedTransaction)), db)
  | .claim id tier now =>
      answered (db.writeInTransaction c (Tables.insertRecord (.ofClaim id tier now))) fun new => new
  | .release id tier =>
      answered (db.writeInTransaction c (Tables.deleteRecord id tier)) fun _ => true

/-! ## Single statements -/

theorem map_fails_iff {ε α β : Type} {result : Except ε α} {f : α → β} :
    (∃ fault, result.map f = .error fault) ↔ ∃ fault, result = .error fault := by
  cases result with
  | ok answer => simp [Except.map]
  | error fault => simp [Except.map]

theorem mapError_fails_iff {ε ε' α : Type} {result : Except ε α} {f : ε → ε'} :
    (∃ fault, result.mapError f = .error fault) ↔ ∃ fault, result = .error fault := by
  cases result with
  | ok answer =>
      constructor
      · rintro ⟨fault, h⟩
        cases h
      · rintro ⟨fault, h⟩
        cases h
  | error fault => exact ⟨fun _ => ⟨fault, rfl⟩, fun _ => ⟨f fault, rfl⟩⟩

theorem asStore_write_failed {statement : Statement α} {fault : StoreFault}
    (h : (asStore (db.write c statement)).1 = .error fault) :
    (asStore (db.write c statement)).2 = db := by
  obtain ⟨cause, hcause⟩ := mapError_fails_iff.mp ⟨fault, h⟩
  exact write_failed hcause

theorem asStore_write_fails_iff {statement : Statement α} :
    (∃ fault, (asStore (db.write c statement)).1 = .error fault) ↔
      db.isLockedFor c = true ∨ ∃ cause, statement (db.view c) = .error cause :=
  mapError_fails_iff.trans write_fails_iff

/-! ## Closing -/

/-- A close that does not fail found both tables there and the lock free. -/
theorem tables_of_close {found : Bool} (h : (db.close c id).1 = .ok found) :
    db.pending = none ∧ ∃ audits records, db.committed.audits = some audits ∧
      db.committed.records = some records := by
  obtain ⟨counts, hcounts, -⟩ := close_ok (Prod.ext h rfl)
  obtain ⟨hpending, t, t', hfirst, hsecond, -⟩ := closeAudit_ok hcounts
  obtain ⟨audits, haudits, -, rfl⟩ := Tables.closeAudit_ok hfirst
  obtain ⟨records, hrecords, -, -⟩ := Tables.deleteRecords_ok hsecond
  exact ⟨hpending, audits, records, haudits, hrecords⟩

/-- A close fails when a table is missing or any connection holds the lock. -/
theorem close_fails_iff :
    (∃ fault, (db.close c id).1 = .error fault) ↔
      db.pending ≠ none ∨ db.committed.audits = none ∨ db.committed.records = none := by
  rcases hclose : (db.close c id).1 with fault | found
  · refine iff_of_true ⟨fault, rfl⟩ ?_
    cases hpending : db.pending with
    | some held => exact Or.inl (Option.some_ne_none held)
    | none =>
        refine Or.inr ?_
        cases haudits : db.committed.audits with
        | none => exact Or.inl rfl
        | some audits =>
            cases hrecords : db.committed.records with
            | none => exact Or.inr rfl
            | some records =>
                rw [close_eq c id hpending haudits hrecords] at hclose
                cases hclose
  · obtain ⟨hpending, audits, records, haudits, hrecords⟩ := tables_of_close hclose
    rw [hpending, haudits, hrecords]
    refine iff_of_false ?_ ?_
    · rintro ⟨fault, hfault⟩
      cases hfault
    · simp

/-! ## Changes that fail -/

/-- An audit that is valid is added by one statement. -/
theorem addAudit_of_valid {audit : Audit} (h : audit.fault? = none) :
    db.addAudit c audit =
      ((asStore (db.write c (Tables.insertAudit (.ofAudit audit)))).1.mapError .store,
        (asStore (db.write c (Tables.insertAudit (.ofAudit audit)))).2) := by
  rw [addAudit, h]

/-- A change fails exactly when something keeps the connection from it. -/
theorem change_fails_iff (change : Change) :
    (∃ fault, (db.change c change).1 = .error fault) ↔ db.Refuses c change := by
  cases change with
  | add audit =>
      show (∃ fault, (db.addAudit c audit).1.map _ = .error fault) ↔ _
      rw [map_fails_iff]
      cases haudit : audit.fault? with
      | some fault =>
          rw [addAudit, haudit]
          exact iff_of_true ⟨_, rfl⟩ (Or.inl (haudit ▸ Option.some_ne_none fault))
      | none =>
          rw [addAudit_of_valid haudit, mapError_fails_iff, asStore_write_fails_iff,
            Tables.insertAudit_fails_iff]
          exact (or_iff_right fun hfault => hfault haudit).symm
  | close id =>
      show (∃ fault, (db.close c id).1.mapError _ = .error fault) ↔ _
      rw [mapError_fails_iff]
      exact close_fails_iff
  | claim id tier now =>
      show (∃ fault, (db.claim c id tier now).1.mapError _ = .error fault) ↔ _
      rw [mapError_fails_iff, claim, asStore_write_fails_iff, Tables.insertRecord_fails_iff]
      rfl
  | release id tier =>
      show (∃ fault, ((db.release c id tier).1.map _).mapError _ = .error fault) ↔ _
      rw [mapError_fails_iff, map_fails_iff, release, asStore_write_fails_iff,
        Tables.deleteRecord_fails_iff]
      rfl

/-- A change that fails leaves the database as it was. -/
theorem change_failed {change : Change} {fault : AddFault}
    (h : (db.change c change).1 = .error fault) : (db.change c change).2 = db := by
  cases change with
  | add audit =>
      obtain ⟨cause, hcause⟩ := map_fails_iff.mp ⟨fault, h⟩
      show (db.addAudit c audit).2 = db
      cases haudit : audit.fault? with
      | some fault => rw [addAudit, haudit]
      | none =>
          rw [addAudit_of_valid haudit] at hcause ⊢
          obtain ⟨cause, hcause⟩ := mapError_fails_iff.mp ⟨cause, hcause⟩
          exact asStore_write_failed hcause
  | close id =>
      obtain ⟨cause, hcause⟩ := mapError_fails_iff.mp ⟨fault, h⟩
      exact close_error (Prod.ext hcause rfl)
  | claim id tier now =>
      obtain ⟨cause, hcause⟩ := mapError_fails_iff.mp ⟨fault, h⟩
      exact asStore_write_failed hcause
  | release id tier =>
      obtain ⟨cause, hcause⟩ := mapError_fails_iff.mp ⟨fault, h⟩
      obtain ⟨cause, hcause⟩ := map_fails_iff.mp ⟨cause, hcause⟩
      exact asStore_write_failed hcause

/-! ## Changes in a transaction -/

theorem answered_write_fails_iff {statement : Statement α} {yes : α → Bool} :
    (∃ fault, (answered (db.writeInTransaction c statement) yes).1 = .error fault) ↔
      db.isLockedFor c = true ∨ ∃ cause, statement (db.view c) = .error cause := by
  rw [← write_fails_iff, ← writeInTransaction_fails_iff]
  exact mapError_fails_iff.trans map_fails_iff

theorem answered_write_failed {statement : Statement α} {yes : α → Bool} {fault : AddFault}
    (h : (answered (db.writeInTransaction c statement) yes).1 = .error fault) :
    (answered (db.writeInTransaction c statement) yes).2.committed = db.committed ∧
      ∀ other, (answered (db.writeInTransaction c statement) yes).2.view other = db.view other := by
  obtain ⟨cause, hcause⟩ := mapError_fails_iff.mp ⟨fault, h⟩
  obtain ⟨cause, hcause⟩ := map_fails_iff.mp ⟨cause, hcause⟩
  exact writeInTransaction_failed hcause

/-- In a transaction a change fails when it would elsewhere, and closing always fails. -/
theorem changeInTransaction_fails_iff (change : Change) :
    (∃ fault, (db.changeInTransaction c change).1 = .error fault) ↔
      db.Refuses c change ∨ ∃ id, change = .close id := by
  cases change with
  | add audit =>
      rw [or_iff_left (fun ⟨id, hid⟩ => nomatch hid)]
      cases haudit : audit.fault? with
      | some fault =>
          rw [changeInTransaction, haudit]
          exact iff_of_true ⟨_, rfl⟩ (Or.inl (haudit ▸ Option.some_ne_none fault))
      | none =>
          rw [changeInTransaction, haudit]
          simp only
          rw [answered_write_fails_iff, Tables.insertAudit_fails_iff]
          exact (or_iff_right fun hfault => hfault haudit).symm
  | close id => exact iff_of_true ⟨_, rfl⟩ (Or.inr ⟨id, rfl⟩)
  | claim id tier now =>
      rw [or_iff_left (fun ⟨id, hid⟩ => nomatch hid)]
      exact answered_write_fails_iff.trans (or_congr_right Tables.insertRecord_fails_iff)
  | release id tier =>
      rw [or_iff_left (fun ⟨id, hid⟩ => nomatch hid)]
      exact answered_write_fails_iff.trans (or_congr_right Tables.deleteRecord_fails_iff)

/-- A change that fails in a transaction leaves every row as it was, for everybody. -/
theorem changeInTransaction_failed {change : Change} {fault : AddFault}
    (h : (db.changeInTransaction c change).1 = .error fault) :
    (db.changeInTransaction c change).2.committed = db.committed ∧
      ∀ other, (db.changeInTransaction c change).2.view other = db.view other := by
  cases change with
  | add audit =>
      cases haudit : audit.fault? with
      | some fault' =>
          rw [changeInTransaction, haudit]
          exact ⟨rfl, fun _ => rfl⟩
      | none =>
          rw [changeInTransaction, haudit] at h ⊢
          exact answered_write_failed h
  | close id => exact ⟨rfl, fun _ => rfl⟩
  | claim id tier now => exact answered_write_failed h
  | release id tier => exact answered_write_failed h

/-! ## Many changes -/

/-- Makes changes one after the other, each over its own connection. -/
def changeAll (db : Database) : List (Connection × Change) → Database
  | [] => db
  | (c, change) :: rest => (db.change c change).2.changeAll rest

/-- Those of the changes that succeed. -/
def succeeding (db : Database) : List (Connection × Change) → List (Connection × Change)
  | [] => []
  | (c, change) :: rest =>
      match (db.change c change).1 with
      | .ok _ => (c, change) :: (db.change c change).2.succeeding rest
      | .error _ => (db.change c change).2.succeeding rest

/-- Many changes come to what those that succeed come to. -/
theorem changeAll_succeeding (changes : List (Connection × Change)) :
    db.changeAll (db.succeeding changes) = db.changeAll changes := by
  induction changes generalizing db with
  | nil => rfl
  | cons first rest ih =>
      obtain ⟨c, change⟩ := first
      rw [changeAll, succeeding]
      rcases hresult : (db.change c change).1 with fault | found
      · rw [change_failed hresult]
        exact ih
      · rw [← ih, changeAll]

/-- In any state of a database, over any connection: a change fails for its reasons alone, and then
nothing has changed.  A close that does not fail sets the status of its audit, removes all of its
records, and touches nothing else.  In a transaction closing always fails, the other changes fail
for the same reasons, and then no table has changed, whoever looks. -/
theorem failed_changes_nothing (db : Database) (c : Connection) :
    (∀ change, (∃ fault, (db.change c change).1 = .error fault) ↔ db.Refuses c change) ∧
    (∀ change fault, (db.change c change).1 = .error fault → (db.change c change).2 = db) ∧
    (∀ id found, (db.close c id).1 = .ok found → ∃ audits records,
      db = ⟨{ db.committed with audits := some audits, records := some records }, none⟩ ∧
        found = decide (∃ row ∈ audits, row.id = id) ∧
        (db.close c id).2 = ⟨{ db.committed with
          audits := some (audits.map fun row =>
            if row.id == id then { row with status := AuditStatus.closed.text } else row)
          records := some (records.filter fun row => row.auditId != id) }, none⟩) ∧
    (∀ change, (∃ fault, (db.changeInTransaction c change).1 = .error fault) ↔
      db.Refuses c change ∨ ∃ id, change = .close id) ∧
    (∀ change fault, (db.changeInTransaction c change).1 = .error fault →
      (db.changeInTransaction c change).2.committed = db.committed ∧
        ∀ other, (db.changeInTransaction c change).2.view other = db.view other) := by
  refine ⟨change_fails_iff, fun change fault => change_failed, ?_, changeInTransaction_fails_iff,
    fun change fault => changeInTransaction_failed⟩
  intro id found hfound
  obtain ⟨hpending, audits, records, haudits, hrecords⟩ := tables_of_close hfound
  have hclose := close_eq c id hpending haudits hrecords
  refine ⟨audits, records, ?_, ?_, ?_⟩
  · obtain ⟨⟨_, _, version, indexed⟩, pending⟩ := db
    cases hpending
    cases haudits
    cases hrecords
    rfl
  · rw [hclose] at hfound
    exact (Except.ok.inj hfound).symm
  · rw [hclose]
    rfl

/-- The database of the sample audit and of these records, or without a table of records. -/
def sampleWith (records : Option (List RecordRow)) : Database :=
  ⟨⟨some [.ofAudit .sample], records, some (some 2), true⟩, none⟩

/-- Where the table of records is missing, the status of the sample audit can be set but its records
cannot be removed, and so the audit is not closed.  Where the table is there it is. -/
theorem close_sample :
    (∃ t, Tables.closeAudit "a" (sampleWith none).committed = .ok (1, t) ∧
      t ≠ (sampleWith none).committed) ∧
    (∃ fault, ((sampleWith none).change 0 (.close "a")).1 = .error fault) ∧
    ((sampleWith none).change 0 (.close "a")).2 = sampleWith none ∧
    ((sampleWith (some [.ofClaim "a" "overdue" .epoch])).close 0 "a").1 = .ok true ∧
    ((sampleWith (some [.ofClaim "a" "overdue" .epoch])).close 0 "a").2
      = ⟨⟨some [{ AuditRow.ofAudit .sample with status := "CLOSED" }], some [], some (some 2),
          true⟩, none⟩ := by
  obtain ⟨hwhy, hsame, -⟩ := failed_changes_nothing (sampleWith none) 0
  obtain ⟨fault, hfault⟩ := (hwhy (.close "a")).mpr (Or.inr (Or.inr rfl))
  obtain ⟨-, -, hclosed, -, -⟩ :=
    failed_changes_nothing (sampleWith (some [.ofClaim "a" "overdue" .epoch])) 0
  have hfound : ((sampleWith (some [.ofClaim "a" "overdue" .epoch])).close 0 "a").1 = .ok true :=
    rfl
  obtain ⟨audits, records, hbefore, -, hafter⟩ := hclosed "a" true hfound
  refine ⟨⟨_, rfl, by decide +kernel⟩, ⟨fault, hfault⟩, hsame (.close "a") fault hfault, hfound, ?_⟩
  rw [hafter]
  cases hbefore
  rfl

end Database

end AuditReminder
