/-
Transactions.

    the first write    takes the write lock; what it wrote the connection alone sees
    a commit           makes that the committed tables, and gives the lock back
    a roll back        drops it, and gives the lock back

A transaction of two statements is rolled back when either fails.  So it succeeds only where nobody
holds the lock, and then both statements have happened; where it fails, neither has
(`Database.transact_cases`).

A connection that has begun a transaction and not yet written holds no lock, and the lock does not
tell such a connection from the others.  Its statements fail when those of the others do
(`Database.writeInTransaction_fails_iff`), but one that fails may have taken the lock
(`Database.writeInTransaction_failed`).
-/
import AuditReminder.Proofs.Store.Kept

namespace AuditReminder.Database

variable {α β : Type} {db db' : Database} {c : Connection}

/-! ## Statements and the lock -/

/-- A statement on a database that nobody has locked. -/
theorem write_unlocked (t : Tables) (c : Connection) (statement : Statement α) :
    (⟨t, none⟩ : Database).write c statement = match statement t with
      | .ok (answer, t') => (.ok answer, ⟨t', none⟩)
      | .error fault => (.error fault, ⟨t, none⟩) := by
  rw [write]
  show (match statement t with | .ok (answer, t') => _ | .error fault => _) = _
  rcases statement t with fault | ⟨answer, t'⟩
  · simp [isLockedFor]
  · rfl

/-- A statement of the connection that holds the lock. -/
theorem write_holding (committed t : Tables) (c : Connection) (statement : Statement α) :
    (⟨committed, some (c, t)⟩ : Database).write c statement = match statement t with
      | .ok (answer, t') => (.ok answer, ⟨committed, some (c, t')⟩)
      | .error fault => (.error fault, ⟨committed, some (c, t)⟩) := by
  have hview : (⟨committed, some (c, t)⟩ : Database).view c = t := if_pos rfl
  rw [write, hview]
  rcases statement t with fault | ⟨answer, t'⟩
  · simp [isLockedFor]
  · simp [isLockedFor, put, holdsLock]

theorem write_failed {statement : Statement α} {fault : QueryFault}
    (h : (db.write c statement).1 = .error fault) : (db.write c statement).2 = db :=
  write_error (Prod.ext h rfl)

theorem write_fails_iff {statement : Statement α} :
    (∃ fault, (db.write c statement).1 = .error fault) ↔
      db.isLockedFor c = true ∨ ∃ cause, statement (db.view c) = .error cause := by
  rw [write]
  rcases statement (db.view c) with cause | ⟨answer, t⟩
  · refine iff_of_true ?_ (Or.inr ⟨cause, rfl⟩)
    simp only
    split
    · exact ⟨_, rfl⟩
    · exact ⟨_, rfl⟩
  · cases hlock : db.isLockedFor c with
    | true => exact iff_of_true ⟨_, rfl⟩ (Or.inl rfl)
    | false => simp

/-! ## Statements of a transaction -/

/-- A statement of a transaction succeeds when a statement on its own does. -/
theorem writeInTransaction_fails_iff {statement : Statement α} :
    (∃ fault, (db.writeInTransaction c statement).1 = .error fault) ↔
      ∃ fault, (db.write c statement).1 = .error fault := by
  obtain ⟨committed, pending⟩ := db
  cases pending with
  | some held => exact Iff.rfl
  | none =>
      rw [write_unlocked, writeInTransaction]
      rcases statement committed with fault | ⟨answer, t⟩
      · exact Iff.rfl
      · exact Iff.rfl

/-- A statement of a transaction that fails changes no table that anybody sees. -/
theorem writeInTransaction_failed {statement : Statement α} {fault : QueryFault}
    (h : (db.writeInTransaction c statement).1 = .error fault) :
    (db.writeInTransaction c statement).2.committed = db.committed ∧
      ∀ other, (db.writeInTransaction c statement).2.view other = db.view other := by
  obtain ⟨committed, pending⟩ := db
  cases pending with
  | some held =>
      have hsame : (writeInTransaction ⟨committed, some held⟩ c statement).2
          = ⟨committed, some held⟩ := write_failed h
      rw [hsame]
      exact ⟨rfl, fun _ => rfl⟩
  | none =>
      rw [writeInTransaction] at h ⊢
      rcases hs : statement committed with cause | ⟨answer, t⟩
      · simp only
        split
        · exact ⟨rfl, fun _ => rfl⟩
        · exact ⟨rfl, fun other => ite_self committed⟩
      · rw [hs] at h
        cases h

/-! ## Whole transactions -/

theorem rollBack_holding (committed t : Tables) (c : Connection) :
    (⟨committed, some (c, t)⟩ : Database).rollBack c = ⟨committed, none⟩ := by
  simp [rollBack, holdsLock]

/-- Where nobody holds the lock both statements happen, the second after the first, or neither. -/
theorem transact_unlocked (t : Tables) (c : Connection) (first : Statement α)
    (second : Statement β) :
    (⟨t, none⟩ : Database).transact c first second = match first t with
      | .error fault => (.error fault, ⟨t, none⟩)
      | .ok (a, t') => match second t' with
        | .error fault => (.error fault, ⟨t, none⟩)
        | .ok (b, t'') => (.ok (a, b), ⟨t'', none⟩) := by
  have hopened (statement : Statement α) : (⟨t, none⟩ : Database).writeInTransaction c statement
      = match statement t with
        | .ok (answer, t') => (.ok answer, ⟨t, some (c, t')⟩)
        | .error fault =>
            (.error fault, if fault.isOfSchema then ⟨t, none⟩ else ⟨t, some (c, t)⟩) := rfl
  rw [transact, hopened]
  rcases hfirst : first t with fault | ⟨a, t'⟩
  · have hundone : (if fault.isOfSchema then ⟨t, none⟩ else ⟨t, some (c, t)⟩ : Database).rollBack c
        = ⟨t, none⟩ := by
      split
      · rfl
      · exact rollBack_holding t t c
    simpa [holdsLock] using hundone
  · have hnext : (⟨t, some (c, t')⟩ : Database).writeInTransaction c second
        = match second t' with
          | .ok (b, t'') => (.ok b, ⟨t, some (c, t'')⟩)
          | .error fault => (.error fault, ⟨t, some (c, t')⟩) := write_holding t t' c second
    simp only [hnext]
    rcases hsecond : second t' with fault | ⟨b, t''⟩
    · simp [holdsLock, rollBack_holding]
    · simp [holdsLock, commit]

/-- While any connection holds the lock a transaction fails. -/
theorem transact_locked (t : Tables) (held : Connection × Tables) (c : Connection)
    (first : Statement α) (second : Statement β) :
    ∃ fault, (⟨t, some held⟩ : Database).transact c first second
      = (.error fault, ⟨t, some held⟩) := by
  by_cases hholder : held.1 = c
  · exact ⟨.nestedTransaction, if_pos (beq_iff_eq.mpr hholder)⟩
  · have hlocked : (⟨t, some held⟩ : Database).isLockedFor c = true := bne_iff_ne.mpr hholder
    obtain ⟨fault, hfault⟩ := write_fails_iff.mpr (Or.inl hlocked)
    have hfirst : (⟨t, some held⟩ : Database).writeInTransaction c first
        = (.error fault, ⟨t, some held⟩) := Prod.ext hfault (write_failed hfault)
    refine ⟨fault, ?_⟩
    rw [transact, hfirst]
    simp [rollBack, holdsLock, hholder]

/-- How a transaction ends: it fails and nothing is left of it, or it found the lock free and both
statements have happened. -/
theorem transact_cases (db : Database) (c : Connection) (first : Statement α)
    (second : Statement β) :
    (∃ fault, db.transact c first second = (.error fault, db)) ∨
      ∃ a b t t', db.pending = none ∧ first db.committed = .ok (a, t) ∧ second t = .ok (b, t') ∧
        db.transact c first second = (.ok (a, b), ⟨t', none⟩) := by
  obtain ⟨committed, pending⟩ := db
  cases pending with
  | some held => exact Or.inl (transact_locked committed held c first second)
  | none =>
      rw [transact_unlocked]
      rcases hfirst : first committed with fault | ⟨a, t⟩
      · exact Or.inl ⟨fault, rfl⟩
      · rcases hsecond : second t with fault | ⟨b, t'⟩
        · refine Or.inl ⟨fault, ?_⟩
          simp only [hsecond]
        · refine Or.inr ⟨a, b, t, t', rfl, rfl, hsecond, ?_⟩
          simp only [hsecond]

theorem transact_ok {first : Statement α} {second : Statement β} {a : α} {b : β}
    (h : db.transact c first second = (.ok (a, b), db')) :
    db.pending = none ∧ ∃ t t', first db.committed = .ok (a, t) ∧ second t = .ok (b, t') ∧
      db' = ⟨t', none⟩ := by
  obtain ⟨fault, hfailed⟩ | ⟨a', b', t, t', hpending, hfirst, hsecond, hdone⟩ :=
    transact_cases db c first second
  · rw [hfailed] at h
    cases h
  · rw [hdone] at h
    cases h
    exact ⟨hpending, t, t', hfirst, hsecond, rfl⟩

theorem transact_error {first : Statement α} {second : Statement β} {fault : QueryFault}
    (h : db.transact c first second = (.error fault, db')) : db' = db := by
  obtain ⟨fault', hfailed⟩ | ⟨a, b, t, t', -, -, -, hdone⟩ := transact_cases db c first second
  · rw [hfailed] at h
    cases h
    rfl
  · rw [hdone] at h
    cases h

end AuditReminder.Database
