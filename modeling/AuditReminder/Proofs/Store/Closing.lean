/-
Closing an audit.

Both stores close an audit by setting its status and removing its records.  A pass never looks at
the status again once it has listed the audit, and neither does a claim, so what closing promises
must be said of the listing:

    close    answered ok   the audit is open nowhere, its rows are gone, other audits are as before
             a fault       nothing has changed
    claim, release         open no audit
    list                   names as open what is open somewhere

With several connections "somewhere" counts.  A connection that holds the write lock reads its own
tables, so an audit is open in a database if it is open in the committed tables or in those
(`Database.Opens`).  A close never meets such a holder: it is refused while there is one
(`Database.closeAudit_ok`).

`ClosingStore` is a shared store with these laws; both stores are.
-/
import AuditReminder.Proofs.Store.Stores

namespace AuditReminder

namespace Ledger

variable {σ : Type} (l : Ledger σ)

/-- The rows of all audits but one. -/
def apartFrom (rows : List l.Row) (id : AuditId) : List l.Row :=
  rows.filter fun row => (l.pair row).1 != id

theorem mem_apartFrom {rows : List l.Row} {id : AuditId} {row : l.Row} :
    row ∈ l.apartFrom rows id ↔ row ∈ rows ∧ (l.pair row).1 ≠ id := by
  simp [apartFrom, List.mem_filter]

/-- A row is there before an event, or the event claims it. -/
theorem mem_of_takes {rows rows' : List l.Row} {e : Event} {row : l.Row}
    (h : l.Takes rows e rows') (hrow : row ∈ rows') :
    row ∈ rows ∨ ∃ id tier now, e = ⟨.claim id tier now, .ok true⟩ ∧
      row = l.entry (id, tier) now := by
  obtain ⟨ask, answer⟩ := e
  cases ask with
  | listOpen | sentTiers | note =>
      obtain rfl : rows' = rows := h
      exact Or.inl hrow
  | deliver request =>
      obtain rfl : rows' = rows := by cases answer <;> exact h
      exact Or.inl hrow
  | release id tier =>
      rcases answer with fault | done
      · obtain rfl : rows' = rows := h
        exact Or.inl hrow
      · obtain rfl : rows' = l.without rows (id, tier) := h
        exact Or.inl ((List.mem_filter.mp hrow).1)
  | claim id tier now =>
      rcases answer with fault | claimed
      · obtain rfl : rows' = rows := h
        exact Or.inl hrow
      · cases claimed with
        | false =>
            obtain ⟨-, rfl⟩ := h
            exact Or.inl hrow
        | true =>
            obtain ⟨-, rfl⟩ := h
            rcases List.mem_append.mp hrow with hrow | hrow
            · exact Or.inl hrow
            · exact Or.inr ⟨id, tier, now, rfl, List.mem_singleton.mp hrow⟩

end Ledger

/-! ## The laws of closing -/

/-- A shared store whose audits can be closed over any connection. -/
structure ClosingStore extends SharedStore where
  /-- Closes an audit; tells whether there is such an audit. -/
  close : Connection → State → AuditId → Except StoreFault Bool × State
  /-- The audit is open, as some connection sees the store. -/
  Opens : State → AuditId → Prop
  opens_of_listed {c : Connection} {s : State} {audits : List Audit} {audit : Audit} :
    (backend c).listOpen s = .ok audits → audit ∈ audits → Opens s audit.id
  opens_of_serves {c : Connection} {s s' : State} {e : Event} {id : AuditId} :
    (backend c).Serves s e s' → Opens s' id → Opens s id
  opens_of_close {c : Connection} {s s' : State} {id other : AuditId} {found : Bool} :
    close c s id = (.ok found, s') → Opens s' other → Opens s other ∧ other ≠ id
  rows_of_close {c : Connection} {s s' : State} {id : AuditId} {found : Bool} :
    close c s id = (.ok found, s') → ledger.rows s' = ledger.apartFrom (ledger.rows s) id
  close_error {c : Connection} {s s' : State} {id : AuditId} {fault : StoreFault} :
    close c s id = (.error fault, s') → s' = s

/-! ## The store in memory -/

namespace Memory

variable {store : Memory} {id other : AuditId}

/-- The store holds the audit, and it is open. -/
def Opens (store : Memory) (id : AuditId) : Prop := ∃ a ∈ store.audits, a.isOpen ∧ a.id = id

theorem opens_of_openAudits {audit : Audit} (h : audit ∈ store.openAudits) :
    store.Opens audit.id := by
  obtain ⟨hmem, hopen⟩ := List.mem_filter.mp ((List.mergeSort_perm _ _).mem_iff.mp h)
  exact ⟨audit, hmem, hopen, rfl⟩

theorem opens_of_serves {store' : Memory} {e : Event} (hs : backend.Serves store e store')
    (h : store'.Opens id) : store.Opens id := by
  cases hs with
  | listed | read | unclaimed | delivered | unreleased | noted => exact h
  | released => exact h
  | claimed claimed tier now =>
      simp only [backend, claim] at h
      split at h <;> exact h

theorem opens_of_close (h : (store.close id).2.Opens other) : store.Opens other ∧ other ≠ id := by
  obtain ⟨audit, hmem, hopen, hid⟩ := h
  obtain ⟨a, ha, rfl⟩ := List.mem_map.mp hmem
  by_cases hclosed : a.id == id
  · rw [if_pos hclosed] at hopen
    cases hopen
  · rw [if_neg hclosed] at hopen hid
    refine ⟨⟨a, ha, hopen, hid⟩, ?_⟩
    rintro rfl
    exact hclosed (beq_iff_eq.mpr hid)

end Memory

/-! ## The tables -/

namespace Tables

variable {t t' : Tables} {id other : AuditId} {count : Nat}

/-- What is decoded comes from one of the rows. -/
theorem mem_decodeRows {α β : Type} {decode : α → Except StoreFault β} {rows : List α}
    {values : List β} {value : β} (h : decodeRows decode rows = .ok values)
    (hv : value ∈ values) : ∃ row ∈ rows, decode row = .ok value := by
  induction rows generalizing values with
  | nil =>
      cases h
      cases hv
  | cons row rest ih =>
      rw [decodeRows] at h
      rcases hrow : decode row with fault | first
      · rw [hrow] at h
        cases h
      · rcases hrest : decodeRows decode rest with fault | others
        · rw [hrow, hrest] at h
          cases h
        · rw [hrow, hrest] at h
          cases h
          rcases List.mem_cons.mp hv with rfl | hv
          · exact ⟨row, List.mem_cons_self, hrow⟩
          · obtain ⟨other, hother, hdecode⟩ := ih hrest hv
            exact ⟨other, List.mem_cons_of_mem _ hother, hdecode⟩

/-- The table of audits holds the audit, and its status says that it is open. -/
def Opens (t : Tables) (id : AuditId) : Prop :=
  ∃ row ∈ t.audits.getD [], row.status = AuditStatus.open.text ∧ row.id = id

theorem opens_congr (h : t'.audits = t.audits) : t'.Opens id ↔ t.Opens id := by
  rw [Opens, Opens, h]

theorem opens_of_listOpen {audits : List Audit} {audit : Audit} (h : t.listOpen = .ok audits)
    (ha : audit ∈ audits) : t.Opens audit.id := by
  cases ht : t.audits with
  | none =>
      simp only [listOpen, auditRows, ht] at h
      cases h
  | some rows =>
      simp only [listOpen, auditRows, ht, select] at h
      obtain ⟨row, hrow, hdecode⟩ := mem_decodeRows h ha
      obtain ⟨hmem, hopen⟩ := List.mem_filter.mp ((List.mergeSort_perm _ _).mem_iff.mp hrow)
      refine ⟨row, ?_, eq_of_beq hopen, (AuditRow.id_of_decode hdecode).symm⟩
      rw [ht, Option.getD_some]
      exact hmem

/-- The row of an audit once it is closed. -/
def closedRow (id : AuditId) (row : AuditRow) : AuditRow :=
  if row.id == id then { row with status := AuditStatus.closed.text } else row

theorem closeAudit_ok (h : closeAudit id t = .ok (count, t')) :
    ∃ rows, t.audits = some rows ∧ count = (rows.filter (·.id == id)).length ∧
      t' = { t with audits := some (rows.map (closedRow id)) } := by
  cases ht : t.audits with
  | none =>
      simp only [closeAudit, auditRows, ht] at h
      cases h
  | some rows =>
      simp only [closeAudit, auditRows, ht] at h
      cases h
      exact ⟨rows, rfl, rfl, rfl⟩

theorem deleteRecords_ok (h : deleteRecords id t = .ok (count, t')) :
    ∃ rows, t.records = some rows ∧ count = (rows.filter (·.auditId == id)).length ∧
      t' = { t with records := some (rows.filter (·.auditId != id)) } := by
  cases ht : t.records with
  | none =>
      simp only [deleteRecords, recordRows, ht] at h
      cases h
  | some rows =>
      simp only [deleteRecords, recordRows, ht] at h
      cases h
      exact ⟨rows, rfl, rfl, rfl⟩

theorem opens_of_closeAudit (h : closeAudit id t = .ok (count, t')) (ho : t'.Opens other) :
    t.Opens other ∧ other ≠ id := by
  obtain ⟨rows, ht, -, rfl⟩ := closeAudit_ok h
  obtain ⟨closed, hmem, hopen, hid⟩ := ho
  obtain ⟨row, hrow, rfl⟩ := List.mem_map.mp hmem
  have hclosed : AuditStatus.closed.text ≠ AuditStatus.open.text := by decide
  unfold closedRow at hopen hid
  split at hopen
  · exact (hclosed hopen).elim
  · next hother =>
    rw [if_neg hother] at hid
    refine ⟨⟨row, by simpa only [ht, Option.getD_some] using hrow, hopen, hid⟩, ?_⟩
    rintro rfl
    exact hother (beq_iff_eq.mpr hid)

end Tables

/-! ## The database -/

namespace Database

variable {α β : Type} {db db' : Database} {c : Connection} {id other : AuditId}

/-- The audit is open in the committed tables, or in those of the holder of the lock. -/
def Opens (db : Database) (id : AuditId) : Prop :=
  db.committed.Opens id ∨ ∃ holder tables, db.pending = some (holder, tables) ∧ tables.Opens id

theorem opens_of_view (h : (db.view c).Opens id) : db.Opens id := by
  unfold view at h
  split at h
  · next holder tables hp =>
    split at h
    · exact Or.inr ⟨holder, tables, hp, h⟩
    · exact Or.inl h
  · exact Or.inl h

theorem opens_of_put {t : Tables} (ht : t.Opens id → (db.view c).Opens id)
    (h : (db.put c t).Opens id) : db.Opens id := by
  unfold put at h
  split at h
  · rcases h with h | ⟨holder, tables, hp, h⟩
    · exact Or.inl h
    · cases hp
      exact opens_of_view (ht h)
  · rcases h with h | h
    · exact opens_of_view (ht h)
    · exact Or.inr h

theorem opens_of_write {statement : Statement α}
    (hs : ∀ {t answer t'}, statement t = .ok (answer, t') → t'.audits = t.audits)
    (h : (db.write c statement).2.Opens id) : db.Opens id := by
  rcases hw : db.write c statement with ⟨fault | answer, db'⟩
  · rw [write_error hw] at hw
    rwa [hw] at h
  · obtain ⟨t, ht, -, rfl⟩ := write_ok hw
    rw [hw] at h
    exact opens_of_put (Tables.opens_congr (hs ht)).mp h

theorem closeAudit_ok {counts : Nat × Nat} (h : db.closeAudit c id = (.ok counts, db')) :
    db.pending = none ∧ ∃ t t', Tables.closeAudit id db.committed = .ok (counts.1, t) ∧
      Tables.deleteRecords id t = .ok (counts.2, t') ∧ db' = ⟨t', none⟩ :=
  transact_ok (asStore_ok h)

theorem opens_of_closeAudit {counts : Nat × Nat} (h : db.closeAudit c id = (.ok counts, db'))
    (ho : db'.Opens other) : db.Opens other ∧ other ≠ id := by
  obtain ⟨-, t, t', hclose, hdelete, rfl⟩ := closeAudit_ok h
  rcases ho with ho | ⟨holder, tables, hp, -⟩
  · have hclosed := (Tables.opens_congr (Tables.deleteRecords_audits hdelete)).mp ho
    obtain ⟨hbefore, hne⟩ := Tables.opens_of_closeAudit hclose hclosed
    exact ⟨Or.inl hbefore, hne⟩
  · cases hp

theorem rows_of_closeAudit {counts : Nat × Nat} (h : db.closeAudit c id = (.ok counts, db')) :
    sharedLedger.rows db' = sharedLedger.apartFrom (sharedLedger.rows db) id := by
  obtain ⟨hp, t, t', hclose, hdelete, rfl⟩ := closeAudit_ok h
  obtain ⟨audits, -, -, rfl⟩ := Tables.closeAudit_ok hclose
  obtain ⟨rows, hrows, -, rfl⟩ := Tables.deleteRecords_ok hdelete
  have hnewest : db.newest.claimRows = rows := by
    simp only [newest, hp, Tables.claimRows]
    exact congrArg (Option.getD · []) hrows
  show rows.filter (·.auditId != id) = db.newest.claimRows.filter _
  rw [hnewest]
  rfl

/-- Closes an audit; tells whether there is such an audit. -/
def close (db : Database) (c : Connection) (id : AuditId) : Except StoreFault Bool × Database :=
  ((db.closeAudit c id).1.map fun counts => decide (0 < counts.1), (db.closeAudit c id).2)

theorem close_ok {found : Bool} (h : db.close c id = (.ok found, db')) :
    ∃ counts, db.closeAudit c id = (.ok counts, db') ∧ found = decide (0 < counts.1) := by
  unfold close at h
  rcases hc : db.closeAudit c id with ⟨fault | counts, after⟩
  · rw [hc] at h
    cases h
  · rw [hc] at h
    cases h
    exact ⟨counts, rfl, rfl⟩

theorem close_error {fault : StoreFault} (h : db.close c id = (.error fault, db')) : db' = db := by
  unfold close at h
  rcases hc : db.closeAudit c id with ⟨fault' | counts, after⟩
  · obtain ⟨cause, hw⟩ := asStore_error hc
    rw [hc] at h
    cases h
    exact transact_error hw
  · rw [hc] at h
    cases h

/-- The tables without an open audit of this id and without its records. -/
def closedTables (id : AuditId) (audits : List AuditRow) (records : List RecordRow) (t : Tables) :
    Tables :=
  { t with
    audits := some (audits.map (Tables.closedRow id))
    records := some (records.filter (·.auditId != id)) }

/-- With both tables there and the lock free, an audit is closed. -/
theorem close_eq (c : Connection) (id : AuditId) {audits : List AuditRow}
    {records : List RecordRow} (hfree : db.pending = none)
    (haudits : db.committed.audits = some audits) (hrecords : db.committed.records = some records) :
    db.close c id = (.ok (decide (∃ row ∈ audits, row.id = id)),
      ⟨closedTables id audits records db.committed, none⟩) := by
  obtain ⟨committed, pending⟩ := db
  obtain rfl : pending = none := hfree
  have haudits' : committed.audits = some audits := haudits
  have hrecords' : committed.records = some records := hrecords
  have hfirst : Tables.closeAudit id committed = .ok ((audits.filter (·.id == id)).length,
      { committed with audits := some (audits.map (Tables.closedRow id)) }) := by
    rw [Tables.closeAudit, Tables.auditRows, haudits']
    rfl
  have hsecond : Tables.deleteRecords id
      { committed with audits := some (audits.map (Tables.closedRow id)) }
        = .ok ((records.filter (·.auditId == id)).length,
            closedTables id audits records committed) := by
    rw [Tables.deleteRecords, Tables.recordRows, hrecords']
    rfl
  have hclosed : (⟨committed, none⟩ : Database).closeAudit c id
      = (.ok ((audits.filter (·.id == id)).length, (records.filter (·.auditId == id)).length),
          ⟨closedTables id audits records committed, none⟩) := by
    rw [closeAudit, transact_unlocked, hfirst]
    simp only [hsecond]
    rfl
  have hfound : decide (0 < (audits.filter (·.id == id)).length)
      = decide (∃ row ∈ audits, row.id = id) := by
    simp [List.length_pos_iff_exists_mem, List.mem_filter]
  rw [close, hclosed, ← hfound]
  rfl

theorem opens_of_serves {e : Event} (hs : (backend c).Serves db e db') (h : db'.Opens id) :
    db.Opens id := by
  cases hs with
  | listed | read | unclaimed | delivered | unreleased | noted => exact h
  | claimed => exact opens_of_write Tables.insertRecord_audits h
  | released => exact opens_of_write Tables.deleteRecord_audits h

end Database

/-! ## Both stores -/

namespace ClosingStore

def memory : ClosingStore where
  toSharedStore := .memory
  close _ store id := (.ok (store.close id).1, (store.close id).2)
  Opens := Memory.Opens
  opens_of_listed h ha := by
    cases h
    exact Memory.opens_of_openAudits ha
  opens_of_serves := Memory.opens_of_serves
  opens_of_close h ho := by
    cases h
    exact Memory.opens_of_close ho
  rows_of_close h := by
    cases h
    rfl
  close_error h := by cases h

def database : ClosingStore where
  toSharedStore := .database
  close c db id := db.close c id
  Opens := Database.Opens
  opens_of_listed h ha := Database.opens_of_view (Tables.opens_of_listOpen h ha)
  opens_of_serves := Database.opens_of_serves
  opens_of_close h ho := by
    obtain ⟨counts, hc, -⟩ := Database.close_ok h
    exact Database.opens_of_closeAudit hc ho
  rows_of_close h := by
    obtain ⟨counts, hc, -⟩ := Database.close_ok h
    exact Database.rows_of_closeAudit hc
  close_error := Database.close_error

end ClosingStore

end AuditReminder
