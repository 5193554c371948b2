/-
The two stores keep ledgers.

The store in memory keeps its records, and nothing fails there.  Connections to a database share
its rows of texts, with one subtlety: while one connection holds the write lock it alone can write,
and what it wrote is seen by itself only.

* `Database.sharedLedger` holds the newest rows, those of the holder of the lock if there is one.
  Every connection claims and releases in it (`Database.keeps_shared`), though what it reads may be
  older.
* `Database.ledger c` holds the rows that the connection `c` sees.  It claims and releases in them
  and reads them (`Database.keeps`, `Database.shows`), but others write elsewhere.
-/
import AuditReminder.Proofs.Store.Ledger
import AuditReminder.Store.Database
import AuditReminder.Store.Memory

namespace AuditReminder

/-! ## The store in memory -/

namespace Memory

/-- The records, in the order in which they were claimed. -/
def ledger : Ledger Memory where
  Row := Record
  rows := records
  pair r := (r.auditId, r.tier)
  entry p now := ⟨p.1, p.2, now⟩
  pair_entry _ _ := rfl

theorem isClaimed_iff {store : Memory} {id : AuditId} {tier : String} :
    store.isClaimed id tier = true ↔ ledger.Has store.records (id, tier) :=
  ledger.any_pair_iff

theorem keeps : backend.Keeps ledger where
  claim_true {s s' id tier now} h := by
    simp only [backend, claim] at h
    split at h
    · cases h
    · next hfree =>
      cases h
      exact ⟨fun hhas => hfree (isClaimed_iff.mpr hhas), rfl⟩
  claim_false {s s' id tier now} h := by
    simp only [backend, claim] at h
    split at h
    · next htaken =>
      cases h
      exact ⟨isClaimed_iff.mp htaken, rfl⟩
    · cases h
  claim_error h := by cases h
  release_ok h := by
    cases h
    rfl
  release_error h := by cases h

theorem shows : backend.Shows ledger where
  sentTiers {s id sent} h tier := by
    cases h
    rw [Memory.sentTiers, NameSet.mem_ofList]
    exact ledger.mem_tiers_iff
  claim_listOpen s id tier now := by
    show Except.ok (Memory.openAudits _) = Except.ok s.openAudits
    simp only [backend, claim]
    split <;> rfl
  release_listOpen _ _ _ := rfl

end Memory

/-! ## Rows of the database -/

namespace Tables

/-- The rows of the table of records; a table that does not exist has none. -/
def claimRows (t : Tables) : List RecordRow := t.records.getD []

end Tables

/-- The pair of a row. -/
def RecordRow.pair (row : RecordRow) : Pair := (row.auditId, row.tier)

/-- A ledger of rows of texts. -/
def Tables.ledgerOf {σ : Type} (view : σ → Tables) : Ledger σ where
  Row := RecordRow
  rows s := (view s).claimRows
  pair := RecordRow.pair
  entry p now := .ofClaim p.1 p.2 now
  pair_entry _ _ := rfl

namespace Tables

variable {σ : Type} (view : σ → Tables) {t t' : Tables} {id : AuditId} {tier : String}

theorem has_claimRows_iff :
    (ledgerOf view).Has t.claimRows (id, tier) ↔
      (t.claimRows.any fun r => r.auditId == id && r.tier == tier) = true :=
  (ledgerOf view).any_pair_iff.symm

theorem insertRecord_eq (row : RecordRow) {rows : List RecordRow} (ht : t.records = some rows) :
    insertRecord row t =
      if rows.any fun r => r.auditId == row.auditId && r.tier == row.tier then .ok (false, t)
      else .ok (true, { t with records := some (rows ++ [row]) }) := by
  simp only [insertRecord, recordRows, ht]
  rfl

theorem insertRecord_none (row : RecordRow) (ht : t.records = none) :
    insertRecord row t = .error (.noSuchTable recordsTable) := by
  simp only [insertRecord, recordRows, ht]
  rfl

theorem insertRecord_true {now : Instant}
    (h : insertRecord (.ofClaim id tier now) t = .ok (true, t')) :
    ¬ (ledgerOf view).Has t.claimRows (id, tier) ∧
      t'.claimRows = t.claimRows ++ [RecordRow.ofClaim id tier now] := by
  rw [has_claimRows_iff]
  cases ht : t.records with
  | none => rw [insertRecord_none _ ht] at h; cases h
  | some rows =>
      rw [insertRecord_eq _ ht] at h
      split at h
      · cases h
      · next hfree =>
        cases h
        simpa only [claimRows, ht, Option.getD_some, and_true, RecordRow.ofClaim] using hfree

theorem insertRecord_false {now : Instant}
    (h : insertRecord (.ofClaim id tier now) t = .ok (false, t')) :
    (ledgerOf view).Has t.claimRows (id, tier) ∧ t'.claimRows = t.claimRows := by
  rw [has_claimRows_iff]
  cases ht : t.records with
  | none => rw [insertRecord_none _ ht] at h; cases h
  | some rows =>
      rw [insertRecord_eq _ ht] at h
      split at h
      · next htaken =>
        cases h
        exact ⟨by simpa only [claimRows, ht, Option.getD_some, RecordRow.ofClaim] using htaken, rfl⟩
      · cases h

theorem deleteRecord_ok (h : deleteRecord id tier t = .ok ((), t')) :
    t'.claimRows = (ledgerOf view).without t.claimRows (id, tier) := by
  cases ht : t.records with
  | none =>
      simp only [deleteRecord, recordRows, ht] at h
      cases h
  | some rows =>
      simp only [deleteRecord, recordRows, ht] at h
      cases h
      simp only [claimRows, ht, Option.getD_some]
      rfl

/-- What a query reads is what the rows hold. -/
theorem mem_sentTiers {sent : NameSet} (h : t.sentTiers id = .ok sent) :
    tier ∈ sent ↔ (ledgerOf view).Has t.claimRows (id, tier) := by
  cases ht : t.records with
  | none =>
      simp only [sentTiers, recordRows, ht] at h
      cases h
  | some rows =>
      simp only [sentTiers, recordRows, ht] at h
      cases h
      simp only [NameSet.mem_ofList, claimRows, ht, Option.getD_some]
      exact (ledgerOf view).mem_tiers_iff

/-- Statements on records leave the table of audits alone. -/
theorem insertRecord_audits {row : RecordRow} {inserted : Bool}
    (h : insertRecord row t = .ok (inserted, t')) : t'.audits = t.audits := by
  cases ht : t.records with
  | none => rw [insertRecord_none _ ht] at h; cases h
  | some rows =>
      rw [insertRecord_eq _ ht] at h
      split at h <;> cases h <;> rfl

theorem deleteRecord_audits {done : Unit} (h : deleteRecord id tier t = .ok (done, t')) :
    t'.audits = t.audits := by
  cases ht : t.records with
  | none =>
      simp only [deleteRecord, recordRows, ht] at h
      cases h
  | some rows =>
      simp only [deleteRecord, recordRows, ht] at h
      cases h
      rfl

theorem listOpen_congr (h : t'.audits = t.audits) : t'.listOpen = t.listOpen := by
  simp only [listOpen, auditRows, h]

end Tables

/-! ## Connections -/

namespace Database

variable {α : Type} {db db' : Database} {c : Connection} {statement : Statement α}
  {id : AuditId} {tier : String} {now : Instant}

/-- The newest rows: those of the connection that holds the write lock, if one does. -/
def newest (db : Database) : Tables :=
  match db.pending with
  | some (_, tables) => tables
  | none => db.committed

/-- Whoever can write writes to the newest tables. -/
theorem view_of_not_lockedFor (h : db.isLockedFor c = false) : db.view c = db.newest := by
  unfold isLockedFor at h
  unfold view newest
  cases hp : db.pending with
  | none => rfl
  | some held =>
      obtain ⟨holder, tables⟩ := held
      rw [hp] at h
      have hc : holder = c := by simpa using h
      simp only [hc, if_true]

theorem view_put (h : db.isLockedFor c = false) (t : Tables) :
    (db.put c t).view c = t ∧ (db.put c t).newest = t := by
  unfold isLockedFor at h
  unfold put holdsLock view newest
  cases hp : db.pending with
  | none => simp
  | some held =>
      obtain ⟨holder, tables⟩ := held
      rw [hp] at h
      have hc : holder = c := by simpa using h
      simp [hc]

theorem write_ok {answer : α} (h : db.write c statement = (.ok answer, db')) :
    ∃ t, statement (db.view c) = .ok (answer, t) ∧ db.isLockedFor c = false ∧
      db' = db.put c t := by
  unfold write at h
  split at h
  · next found t hs =>
    split at h
    · cases h
    · next hfree =>
      cases h
      exact ⟨t, hs, by simpa using hfree, rfl⟩
  · split at h <;> cases h

theorem write_error {fault : QueryFault} (h : db.write c statement = (.error fault, db')) :
    db' = db := by
  unfold write at h
  split at h
  · split at h
    · cases h
      rfl
    · cases h
  · split at h <;> cases h <;> rfl

theorem asStore_ok {result : Except QueryFault α × Database} {answer : α}
    (h : asStore result = (.ok answer, db')) : result = (.ok answer, db') := by
  obtain ⟨outcome, after⟩ := result
  cases outcome <;> cases h
  rfl

theorem asStore_error {result : Except QueryFault α × Database} {fault : StoreFault}
    (h : asStore result = (.error fault, db')) : ∃ cause, result = (.error cause, db') := by
  obtain ⟨outcome, after⟩ := result
  cases outcome <;> cases h
  exact ⟨_, rfl⟩

/-- A connection keeps its claims in any view that agrees with its own whenever it can write. -/
theorem keeps_of_view {view : Database → Tables}
    (hview : ∀ db, db.isLockedFor c = false → view db = db.view c)
    (hput : ∀ (db : Database) t, db.isLockedFor c = false → view (db.put c t) = t) :
    (backend c).Keeps (Tables.ledgerOf view) where
  claim_true {db db' id tier now} h := by
    obtain ⟨t, hs, hfree, rfl⟩ := write_ok (asStore_ok h)
    have hrows := Tables.insertRecord_true view hs
    rw [← hview db hfree] at hrows
    refine ⟨hrows.1, ?_⟩
    show (view (db.put c t)).claimRows = _
    rw [hput db t hfree]
    exact hrows.2
  claim_false {db db' id tier now} h := by
    obtain ⟨t, hs, hfree, rfl⟩ := write_ok (asStore_ok h)
    have hrows := Tables.insertRecord_false view hs
    rw [← hview db hfree] at hrows
    refine ⟨hrows.1, ?_⟩
    show (view (db.put c t)).claimRows = _
    rw [hput db t hfree]
    exact hrows.2
  claim_error h := by
    obtain ⟨cause, hw⟩ := asStore_error h
    rw [write_error hw]
  release_ok {db db' id tier} h := by
    obtain ⟨t, hs, hfree, rfl⟩ := write_ok (asStore_ok h)
    have hrows := Tables.deleteRecord_ok view hs
    rw [← hview db hfree] at hrows
    show (view (db.put c t)).claimRows = _
    rw [hput db t hfree]
    exact hrows
  release_error h := by
    obtain ⟨cause, hw⟩ := asStore_error h
    rw [write_error hw]

/-- Claims and releases of every connection, in the newest rows. -/
def sharedLedger : Ledger Database := Tables.ledgerOf newest

/-- Claims and releases of one connection, in the rows that it sees. -/
def ledger (c : Connection) : Ledger Database := Tables.ledgerOf fun db => db.view c

theorem keeps_shared (c : Connection) : (backend c).Keeps sharedLedger :=
  keeps_of_view (fun _ h => (view_of_not_lockedFor h).symm) (fun _ t h => (view_put h t).2)

theorem keeps (c : Connection) : (backend c).Keeps (ledger c) :=
  keeps_of_view (fun _ _ => rfl) (fun _ t h => (view_put h t).1)

/-- A statement that leaves the audits alone leaves what is listed alone. -/
theorem listOpen_write (h : ∀ t answer t', statement t = .ok (answer, t') → t'.audits = t.audits) :
    ((db.write c statement).2.view c).listOpen = (db.view c).listOpen := by
  rcases hw : db.write c statement with ⟨fault | answer, db'⟩
  · rw [write_error hw]
  · obtain ⟨t, hs, hfree, rfl⟩ := write_ok hw
    rw [(view_put hfree t).1]
    exact Tables.listOpen_congr (h _ _ _ hs)

theorem shows (c : Connection) : (backend c).Shows (ledger c) where
  sentTiers h _ := Tables.mem_sentTiers _ h
  claim_listOpen _ _ _ _ := listOpen_write fun _ _ _ => Tables.insertRecord_audits
  release_listOpen _ _ _ := listOpen_write fun _ _ _ => Tables.deleteRecord_audits

end Database

end AuditReminder
