/-
What a database holds.

A database that nobody has locked holds the rows of some audits and of some records, each in the
order in which they came (`Database.Holds`).  A fresh database holds nothing, and what it holds
after an operation is told in terms of audits and records alone, with no regard to texts:

    addAudit     the audit at the end, if nothing is wrong with it and its id is free
    closeAudit   the audit closed, and its records gone
    claim        the record at the end, if its pair has none
    release      the record of the pair gone

The queries are told likewise.  Those that decode instants need years of four digits; the others
do not.
-/
import AuditReminder.Proofs.Store.Closing
import AuditReminder.Proofs.Store.RoundTrip

namespace AuditReminder

/-- Closes the audit of an id, and no other. -/
def Audit.closedAt (id : AuditId) (audit : Audit) : Audit :=
  if audit.id == id then audit.close else audit

theorem Audit.id_closedAt (id : AuditId) (audit : Audit) : (audit.closedAt id).id = audit.id := by
  unfold closedAt
  split <;> rfl

namespace Database

variable {α β : Type} {db : Database} {c : Connection} {audits : List Audit}
  {records : List Record} {id : AuditId} {tier : String} {now : Instant}

/-- The database holds the rows of these audits and records, and nobody has locked it. -/
structure Holds (db : Database) (audits : List Audit) (records : List Record) : Prop where
  unlocked : db.pending = none
  auditRows : db.committed.audits = some (audits.map AuditRow.ofAudit)
  recordRows : db.committed.records = some (records.map RecordRow.ofRecord)

theorem holds_fresh : fresh.Holds [] [] := ⟨by decide, by decide, by decide⟩

namespace Holds

/-- Every connection sees what is committed. -/
theorem view_eq (h : db.Holds audits records) : db.view c = db.committed := by
  rw [view, h.unlocked]

theorem committed_auditRows (h : db.Holds audits records) :
    db.committed.auditRows = .ok (audits.map AuditRow.ofAudit) := by
  rw [Tables.auditRows, h.auditRows]

theorem committed_recordRows (h : db.Holds audits records) :
    db.committed.recordRows = .ok (records.map RecordRow.ofRecord) := by
  rw [Tables.recordRows, h.recordRows]

/-- A statement that succeeds has its effect, whichever connection runs it. -/
theorem write_ok (h : db.Holds audits records) {statement : Statement α} {answer : α} {t : Tables}
    (audits' : List Audit) (records' : List Record) (hs : statement db.committed = .ok (answer, t))
    (ha : t.audits = some (audits'.map AuditRow.ofAudit))
    (hr : t.records = some (records'.map RecordRow.ofRecord)) :
    ∃ db', db.write c statement = (.ok answer, db') ∧ db'.Holds audits' records' := by
  have hlocked : db.isLockedFor c = false := by rw [isLockedFor, h.unlocked]
  have hput : db.put c t = { db with committed := t } := by
    rw [put, holdsLock, h.unlocked]
    rfl
  refine ⟨{ db with committed := t }, ?_, h.unlocked, ha, hr⟩
  rw [write, h.view_eq, hs]
  simp only [hlocked, hput]
  rfl

theorem write_error (h : db.Holds audits records) {statement : Statement α} {fault : QueryFault}
    (hs : statement db.committed = .error fault) : db.write c statement = (.error fault, db) := by
  have hlocked : db.isLockedFor c = false := by rw [isLockedFor, h.unlocked]
  rw [write, h.view_eq, hs]
  simp only [hlocked, Bool.and_false]
  rfl

/-! ## Adding -/

theorem any_id_iff {audit : Audit} :
    (audits.map AuditRow.ofAudit).any (·.id == (AuditRow.ofAudit audit).id) = true ↔
      audit.id ∈ audits.map Audit.id := by
  simp [AuditRow.ofAudit]

theorem addAudit_invalid {audit : Audit} {fault : AuditFault} (ha : audit.fault? = some fault) :
    db.addAudit c audit = (.error (.invalid fault), db) := by
  rw [addAudit, ha]

/-- An audit under a free id is added. -/
theorem addAudit_new (h : db.Holds audits records) {audit : Audit} (ha : audit.fault? = none)
    (hid : audit.id ∉ audits.map Audit.id) :
    ∃ db', db.addAudit c audit = (.ok (), db') ∧ db'.Holds (audits ++ [audit]) records := by
  have hinsert : Tables.insertAudit (.ofAudit audit) db.committed
      = .ok ((), { db.committed with
          audits := some (audits.map AuditRow.ofAudit ++ [AuditRow.ofAudit audit]) }) := by
    rw [Tables.insertAudit_eq _ h.auditRows, if_neg (mt any_id_iff.mp hid)]
  obtain ⟨db', hwrite, hholds⟩ := h.write_ok (c := c) (audits ++ [audit]) records hinsert
    (by rw [List.map_append]; rfl) h.recordRows
  refine ⟨db', ?_, hholds⟩
  rw [addAudit, ha]
  simp only [hwrite]
  rfl

/-- An audit whose id is taken is not added. -/
theorem addAudit_taken (h : db.Holds audits records) {audit : Audit} (ha : audit.fault? = none)
    (hid : audit.id ∈ audits.map Audit.id) :
    ∃ fault, db.addAudit c audit = (.error (.store fault), db) := by
  have hinsert : Tables.insertAudit (.ofAudit audit) db.committed
      = .error (.notUnique (auditsTable ++ ".id")) := by
    rw [Tables.insertAudit_eq _ h.auditRows, if_pos (any_id_iff.mpr hid)]
  refine ⟨.ofQuery (.notUnique (auditsTable ++ ".id")), ?_⟩
  rw [addAudit, ha]
  simp only [h.write_error hinsert]
  rfl

/-! ## Closing -/

theorem closedRow_ofAudit (audit : Audit) :
    Tables.closedRow id (.ofAudit audit) = .ofAudit (audit.closedAt id) := by
  unfold Tables.closedRow Audit.closedAt
  show (if audit.id == id then _ else _) = _
  split <;> rfl

/-- Closing tells whether there is such an audit, and always succeeds. -/
theorem close (h : db.Holds audits records) (id : AuditId) :
    ∃ db', db.close c id = (.ok (audits.any (·.id == id)), db') ∧
      db'.Holds (audits.map (Audit.closedAt id)) (records.filter (·.auditId != id)) := by
  have hclose := close_eq c id h.unlocked h.auditRows h.recordRows
  have hfound : decide (∃ row ∈ audits.map AuditRow.ofAudit, row.id = id)
      = audits.any (·.id == id) := by
    rw [Bool.eq_iff_iff, decide_eq_true_iff]
    simp [AuditRow.ofAudit]
  have hrows : (audits.map AuditRow.ofAudit).map (Tables.closedRow id)
      = (audits.map (Audit.closedAt id)).map AuditRow.ofAudit := by
    rw [List.map_map, List.map_map]
    exact List.map_congr_left fun audit _ => closedRow_ofAudit audit
  rw [hfound] at hclose
  exact ⟨_, hclose, rfl, congrArg some hrows, congrArg some List.filter_map⟩

/-! ## Claiming and releasing -/

theorem any_pair_iff :
    (records.map RecordRow.ofRecord).any (fun r => r.auditId == id && r.tier == tier)
      = records.any fun r => r.auditId == id && r.tier == tier := by
  rw [List.any_map]
  rfl

/-- A pair without a record is claimed. -/
theorem claim_new (h : db.Holds audits records)
    (hfree : (records.any fun r => r.auditId == id && r.tier == tier) = false) (now : Instant) :
    ∃ db', db.claim c id tier now = (.ok true, db') ∧
      db'.Holds audits (records ++ [⟨id, tier, now⟩]) := by
  have hinsert : Tables.insertRecord (.ofClaim id tier now) db.committed
      = .ok (true, { db.committed with
          records := some (records.map RecordRow.ofRecord ++ [.ofClaim id tier now]) }) := by
    rw [Tables.insertRecord_eq _ h.recordRows]
    refine if_neg ?_
    rw [Bool.not_eq_true, ← hfree]
    exact any_pair_iff
  obtain ⟨db', hwrite, hholds⟩ := h.write_ok (c := c) audits (records ++ [⟨id, tier, now⟩]) hinsert
    h.auditRows (by rw [List.map_append]; rfl)
  exact ⟨db', by rw [Database.claim, hwrite]; rfl, hholds⟩

/-- A pair with a record is not claimed. -/
theorem claim_taken (h : db.Holds audits records)
    (htaken : (records.any fun r => r.auditId == id && r.tier == tier) = true) (now : Instant) :
    ∃ db', db.claim c id tier now = (.ok false, db') ∧ db'.Holds audits records := by
  have hinsert : Tables.insertRecord (.ofClaim id tier now) db.committed
      = .ok (false, db.committed) := by
    rw [Tables.insertRecord_eq _ h.recordRows]
    refine if_pos ?_
    rw [← htaken]
    exact any_pair_iff
  obtain ⟨db', hwrite, hholds⟩ := h.write_ok (c := c) audits records hinsert
    h.auditRows h.recordRows
  exact ⟨db', by rw [Database.claim, hwrite]; rfl, hholds⟩

/-- Claiming always succeeds, and at most one record is new. -/
theorem claim (h : db.Holds audits records) (id : AuditId) (tier : String) (now : Instant) :
    ∃ claimed db' records', db.claim c id tier now = (.ok claimed, db') ∧
      db'.Holds audits records' ∧ ∀ r ∈ records', r ∈ records ∨ r = ⟨id, tier, now⟩ := by
  cases hpair : records.any fun r => r.auditId == id && r.tier == tier with
  | false =>
      obtain ⟨db', hclaim, hholds⟩ := h.claim_new (c := c) hpair now
      refine ⟨true, db', _, hclaim, hholds, fun r hr => ?_⟩
      exact (List.mem_append.mp hr).imp_right List.mem_singleton.mp
  | true =>
      obtain ⟨db', hclaim, hholds⟩ := h.claim_taken (c := c) hpair now
      exact ⟨false, db', _, hclaim, hholds, fun r hr => .inl hr⟩

/-- Releasing a pair always succeeds. -/
theorem release (h : db.Holds audits records) (id : AuditId) (tier : String) :
    ∃ db', db.release c id tier = (.ok (), db') ∧
      db'.Holds audits (records.filter fun r => !(r.auditId == id && r.tier == tier)) := by
  have hdelete : Tables.deleteRecord id tier db.committed
      = .ok ((), { db.committed with
          records := some ((records.map RecordRow.ofRecord).filter
            fun r => !(r.auditId == id && r.tier == tier)) }) := by
    simp only [Tables.deleteRecord, Tables.recordRows, h.recordRows]
    rfl
  obtain ⟨db', hwrite, hholds⟩ := h.write_ok (c := c) audits
    (records.filter fun r => !(r.auditId == id && r.tier == tier)) hdelete h.auditRows
    (congrArg some List.filter_map)
  exact ⟨db', by rw [Database.release, hwrite]; rfl, hholds⟩

/-! ## Queries -/

theorem sentTiers (h : db.Holds audits records) (id : AuditId) :
    (db.view c).sentTiers id
      = .ok (.ofList ((records.filter (·.auditId == id)).map (·.tier))) := by
  have htiers : ((records.map RecordRow.ofRecord).filter (·.auditId == id)).map (·.tier)
      = (records.filter (·.auditId == id)).map (·.tier) := by
    rw [List.filter_map, List.map_map]
    rfl
  rw [h.view_eq, Tables.sentTiers, Tables.recordRows, h.recordRows]
  simp only [htiers]

theorem listAudits (h : db.Holds audits records) (hplain : ∀ audit ∈ audits, audit.IsPlain) :
    (db.view c).listAudits = .ok ((audits.map Audit.kept).mergeSort Audit.listedBefore) := by
  have hall : (audits.filter fun _ => true) = audits := List.filter_eq_self.mpr fun _ _ => rfl
  rw [h.view_eq, Tables.listAudits, h.committed_auditRows,
    Tables.select_map (fun audit ha => AuditRow.decode_ofAudit (hplain audit ha))
      (fun a ha b hb => AuditRow.listedBefore_ofAudit (hplain a ha) (hplain b hb)), hall]

theorem listOpen (h : db.Holds audits records) (hplain : ∀ audit ∈ audits, audit.IsPlain) :
    (db.view c).listOpen
      = .ok (((audits.filter Audit.isOpen).map Audit.kept).mergeSort Audit.listedBefore) := by
  rw [h.view_eq, Tables.listOpen, h.committed_auditRows,
    Tables.select_map (fun audit ha => AuditRow.decode_ofAudit (hplain audit ha))
      (fun a ha b hb => AuditRow.listedBefore_ofAudit (hplain a ha) (hplain b hb))]
  simp only [AuditRow.isOpen_ofAudit]

/-- One open audit with a year of another length, and no list of open audits can be read. -/
theorem listOpen_corrupt (h : db.Holds audits records)
    (hbad : ∃ audit ∈ audits, audit.isOpen ∧ ¬ audit.IsPlain) :
    ∃ message, (db.view c).listOpen = .error (.corrupt auditsTable message) := by
  obtain ⟨audit, ha, hopen, hsigned⟩ := hbad
  obtain ⟨message, hmessage⟩ := AuditRow.decode_ofAudit_corrupt hsigned
  have hmem : AuditRow.ofAudit audit ∈ ((audits.map AuditRow.ofAudit).filter
      fun row => row.status == AuditStatus.open.text).mergeSort AuditRow.listedBefore := by
    refine (List.mergeSort_perm _ _).mem_iff.mpr (List.mem_filter.mpr ⟨List.mem_map_of_mem ha, ?_⟩)
    rw [AuditRow.isOpen_ofAudit]
    exact hopen
  obtain ⟨row, hrow, fault, hfault, hall⟩ :=
    Tables.decodeRows_error ⟨_, hmem, _, hmessage⟩
  -- the row at fault is that of an audit too
  obtain ⟨other, -, rfl⟩ := List.mem_map.mp
    (List.mem_filter.mp ((List.mergeSort_perm _ _).mem_iff.mp hrow)).1
  by_cases hplain : other.IsPlain
  · cases (AuditRow.decode_ofAudit hplain).symm.trans hfault
  · obtain ⟨message', hmessage'⟩ := AuditRow.decode_ofAudit_corrupt hplain
    cases hmessage'.symm.trans hfault
    refine ⟨message', ?_⟩
    rw [h.view_eq, Tables.listOpen, h.committed_auditRows, Tables.select]
    exact hall

theorem getAudit (h : db.Holds audits records) (hplain : ∀ audit ∈ audits, audit.IsPlain)
    (id : AuditId) :
    (db.view c).getAudit id = .ok ((audits.find? (·.id == id)).map Audit.kept) := by
  have hfind : (audits.map AuditRow.ofAudit).find? (·.id == id)
      = (audits.find? (·.id == id)).map AuditRow.ofAudit := List.find?_map
  rw [h.view_eq, Tables.getAudit, h.committed_auditRows]
  simp only [hfind]
  cases hfound : audits.find? (·.id == id) with
  | none => rfl
  | some audit =>
      simp only [Option.map_some,
        AuditRow.decode_ofAudit (hplain audit (List.mem_of_find?_eq_some hfound))]
      rfl

theorem recordsOf (h : db.Holds audits records)
    (hplain : ∀ record ∈ records, record.sentAt.HasPlainYear) (id : AuditId) :
    (db.view c).recordsOf id
      = .ok (((records.filter (·.auditId == id)).map Record.kept).mergeSort
          Record.listedBefore) := by
  rw [h.view_eq, Tables.recordsOf, h.committed_recordRows,
    Tables.select_map (fun record hr => RecordRow.decode_ofRecord (hplain record hr))
      (fun a ha b hb => RecordRow.listedBefore_ofRecord (hplain a ha) (hplain b hb))]
  rfl

end Holds

end Database

end AuditReminder
