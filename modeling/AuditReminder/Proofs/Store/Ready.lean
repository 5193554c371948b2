/-
Stores that are ready, and the rows of one audit.

A store is ready in a state in which reading, claiming and releasing succeed; they lead to states in
which it is ready again.  The store in memory is always ready, a database is for a connection that
sees the table of records and may write.

A ready store can be narrowed to the rows of one audit.  A claim adds to the rows of its own audit
and a release removes from them, and neither touches those of another
(`Ledger.rowsFor_append_entry`, `Ledger.rowsFor_without_other`).
-/
import AuditReminder.Proofs.Store.Stores
import Mathlib.Data.List.Count

namespace AuditReminder

/-! ## The rows of one audit -/

namespace Ledger

variable {σ : Type} (l : Ledger σ) {rows rows' : List l.Row} {id : AuditId} {p : Pair}
  {now : Instant}

/-- The rows of one audit. -/
def rowsFor (rows : List l.Row) (id : AuditId) : List l.Row :=
  rows.filter fun row => (l.pair row).1 == id

theorem mem_rowsFor {row : l.Row} :
    row ∈ l.rowsFor rows id ↔ row ∈ rows ∧ (l.pair row).1 = id := by
  simp [rowsFor, List.mem_filter]

theorem has_rowsFor (hp : p.1 = id) : l.Has (l.rowsFor rows id) p ↔ l.Has rows p := by
  constructor
  · rintro ⟨row, hrow, hpair⟩
    exact ⟨row, (l.mem_rowsFor.mp hrow).1, hpair⟩
  · rintro ⟨row, hrow, rfl⟩
    exact ⟨row, l.mem_rowsFor.mpr ⟨hrow, hp⟩, rfl⟩

theorem rowsFor_eq_self (h : ∀ row ∈ rows, (l.pair row).1 = id) : l.rowsFor rows id = rows :=
  List.filter_eq_self.mpr fun row hrow => beq_iff_eq.mpr (h row hrow)

theorem rowsFor_rowsFor : l.rowsFor (l.rowsFor rows id) id = l.rowsFor rows id :=
  l.rowsFor_eq_self fun _ hrow => (l.mem_rowsFor.mp hrow).2

/-- A claim for the audit adds to its rows, a claim for another audit does not. -/
theorem rowsFor_append_entry :
    l.rowsFor (rows ++ [l.entry p now]) id
      = l.rowsFor rows id ++ if p.1 = id then [l.entry p now] else [] := by
  rw [rowsFor, rowsFor, List.filter_append]
  split
  · next h => simp [l.pair_entry, h]
  · next h => simp [l.pair_entry, h]

/-- The rows of an audit after a release are its rows, released. -/
theorem rowsFor_without : l.rowsFor (l.without rows p) id = l.without (l.rowsFor rows id) p := by
  rw [rowsFor, rowsFor, without, without, List.filter_filter, List.filter_filter]
  exact List.filter_congr fun row _ => Bool.and_comm _ _

/-- The rows of one audit are not touched when another is released. -/
theorem rowsFor_without_other (h : p.1 ≠ id) :
    l.rowsFor (l.without rows p) id = l.rowsFor rows id := by
  rw [rowsFor_without]
  refine l.without_of_not_has ?_
  rintro ⟨row, hrow, rfl⟩
  exact h (l.mem_rowsFor.mp hrow).2

/-- Who holds the same rows for each audit holds the same rows. -/
theorem perm_of_rowsFor (h : ∀ id, l.rowsFor rows id = l.rowsFor rows' id) : rows.Perm rows' := by
  classical
  refine List.perm_iff_count.mpr fun row => ?_
  have hcount (rows : List l.Row) :
      (l.rowsFor rows (l.pair row).1).count row = rows.count row :=
    List.count_filter (beq_iff_eq.mpr rfl)
  rw [← hcount rows, ← hcount rows', h]

end Ledger

/-! ## Stores that do not fail -/

/-- A store whose reads, claims and releases succeed in some of its states, and never lead out of
them. -/
structure ReadyStore extends RecordStore where
  Ready : State → Prop
  sentTiers_ok {s : State} : Ready s → ∀ id, ∃ sent, backend.sentTiers s id = .ok sent
  claim_ok {s : State} : Ready s → ∀ id tier now, ∃ claimed s',
    backend.claim s id tier now = (.ok claimed, s') ∧ Ready s'
  release_ok {s : State} : Ready s → ∀ id tier, ∃ s',
    backend.release s id tier = (.ok (), s') ∧ Ready s'
  /-- The store with the records of one audit alone. -/
  narrow : State → AuditId → State
  ready_narrow {s : State} {id : AuditId} : Ready s → Ready (narrow s id)
  rows_narrow {s : State} {id : AuditId} : Ready s →
    ledger.rows (narrow s id) = ledger.rowsFor (ledger.rows s) id

/-- The connection sees a table of records and may write. -/
def Database.IsReady (db : Database) (c : Connection) : Prop :=
  db.isLockedFor c = false ∧ ∃ rows, (db.view c).records = some rows

namespace Database

variable {α : Type} {db : Database} {c : Connection} {id : AuditId}

theorem isLockedFor_put (t : Tables) : (db.put c t).isLockedFor c = db.isLockedFor c := by
  unfold put holdsLock isLockedFor
  rcases db.pending with _ | ⟨holder, tables⟩
  · rfl
  · by_cases hholder : holder = c
    · simp [hholder]
    · simp [hholder]

theorem isReady_put (h : db.IsReady c) {t : Tables} (ht : ∃ rows, t.records = some rows) :
    (db.put c t).IsReady c :=
  ⟨(isLockedFor_put t).trans h.1, by rwa [(view_put h.1 t).1]⟩

theorem sentTiers_ready (h : db.IsReady c) (id : AuditId) :
    ∃ sent, (db.view c).sentTiers id = .ok sent := by
  obtain ⟨-, rows, hrows⟩ := h
  refine ⟨.ofList ((rows.filter (·.auditId == id)).map (·.tier)), ?_⟩
  rw [Tables.sentTiers, Tables.recordRows, hrows]

/-- A ready database runs a statement that succeeds and keeps the table. -/
theorem asStore_write_ready (h : db.IsReady c) {statement : Statement α} {answer : α} {t : Tables}
    (hs : statement (db.view c) = .ok (answer, t)) (ht : ∃ rows, t.records = some rows) :
    ∃ db', asStore (db.write c statement) = (.ok answer, db') ∧ db'.IsReady c := by
  refine ⟨db.put c t, ?_, isReady_put h ht⟩
  rw [write, hs]
  simp only [h.1]
  rfl

theorem claim_ready (h : db.IsReady c) (id : AuditId) (tier : String) (now : Instant) :
    ∃ claimed db', db.claim c id tier now = (.ok claimed, db') ∧ db'.IsReady c := by
  obtain ⟨rows, hrows⟩ := h.2
  have hinsert := Tables.insertRecord_eq (.ofClaim id tier now) hrows
  split at hinsert
  · exact ⟨_, asStore_write_ready h hinsert ⟨_, hrows⟩⟩
  · exact ⟨_, asStore_write_ready h hinsert ⟨_, rfl⟩⟩

theorem release_ready (h : db.IsReady c) (id : AuditId) (tier : String) :
    ∃ db', db.release c id tier = (.ok (), db') ∧ db'.IsReady c := by
  obtain ⟨rows, hrows⟩ := h.2
  have hdelete : Tables.deleteRecord id tier (db.view c) = .ok ((), { db.view c with
      records := some (rows.filter fun r => !(r.auditId == id && r.tier == tier)) }) := by
    simp only [Tables.deleteRecord, Tables.recordRows, hrows]
    rfl
  exact asStore_write_ready h hdelete ⟨_, rfl⟩

/-- The database with the records of one audit alone. -/
def narrowFor (db : Database) (c : Connection) (id : AuditId) : Database :=
  db.put c { db.view c with
    records := (db.view c).records.map (List.filter fun row => row.auditId == id) }

theorem isReady_narrowFor (h : db.IsReady c) : (db.narrowFor c id).IsReady c := by
  obtain ⟨rows, hrows⟩ := h.2
  exact isReady_put h ⟨_, congrArg (Option.map _) hrows⟩

theorem rows_narrowFor (h : db.IsReady c) :
    (ledger c).rows (db.narrowFor c id) = (ledger c).rowsFor ((ledger c).rows db) id := by
  obtain ⟨rows, hrows⟩ := h.2
  show ((db.narrowFor c id).view c).claimRows = List.filter _ (db.view c).claimRows
  rw [narrowFor, (view_put h.1 _).1, Tables.claimRows, Tables.claimRows, hrows]
  rfl

end Database

namespace ReadyStore

/-- The store in memory is always ready. -/
def memory : ReadyStore where
  toRecordStore := .memory
  Ready _ := True
  sentTiers_ok _ _ := ⟨_, rfl⟩
  claim_ok _ _ _ _ := ⟨_, _, rfl, trivial⟩
  release_ok _ _ _ := ⟨_, rfl, trivial⟩
  narrow (store : Memory) id := { store with records := store.records.filter (·.auditId == id) }
  ready_narrow _ := trivial
  rows_narrow _ := rfl

def database (c : Connection) : ReadyStore where
  toRecordStore := .database c
  Ready db := Database.IsReady db c
  sentTiers_ok := Database.sentTiers_ready
  claim_ok := Database.claim_ready
  release_ok := Database.release_ready
  narrow db id := Database.narrowFor db c id
  ready_narrow := Database.isReady_narrowFor
  rows_narrow := Database.rows_narrowFor

end ReadyStore

end AuditReminder
