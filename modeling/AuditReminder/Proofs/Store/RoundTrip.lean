/-
Rows that the store itself wrote.

A row of the database is readable as far as its texts are.  Status and owners of a row that the
store wrote are always read back; its instants are read back if their years have four digits, as
what is kept of them (`AuditRow.decode_ofAudit`, `RecordRow.decode_ofRecord`).  A row
with any other year is corrupt (`AuditRow.decode_ofAudit_corrupt`), and one such row among those
that a query goes through makes the whole query fail (`Tables.decodeRows_error`).

Rows are listed by their texts.  That is the order of what is kept of the audits and records
themselves (`AuditRow.listedBefore_ofAudit`, `RecordRow.listedBefore_ofRecord`).  A query over rows
that were made of values is told in terms of the values (`Tables.select_map`).
-/
import AuditReminder.Proofs.Json.Values
import AuditReminder.Proofs.Store.Keyed
import AuditReminder.Proofs.Time.Stored

namespace AuditReminder

/-! ## Instants -/

theorem decodeInstant_storedText {t : Instant} (h : t.HasPlainYear) (table : String) :
    decodeInstant table t.toStoredText = .ok t.kept := by
  rw [decodeInstant, Time.readStrict_storedText h]

theorem decodeInstant_signed {t : Instant} (h : ¬ t.HasPlainYear) (table : String) :
    ∃ message, decodeInstant table t.toStoredText = .error (.corrupt table message) := by
  rw [decodeInstant, Time.readStrict_signed h]
  exact ⟨_, rfl⟩

/-- A whole millisecond in a year of four digits; it may lie in a leap second that ends a
minute. -/
def Instant.IsCommon (t : Instant) : Prop := t.HasPlainYear ∧ t.IsWhole ∧ t.LeapEndsMinute

instance (t : Instant) : Decidable t.IsCommon :=
  inferInstanceAs (Decidable (t.HasPlainYear ∧ t.nano % 1_000_000 = 0 ∧ t.LeapEndsMinute))

/-- All of a common instant is kept. -/
theorem Instant.IsCommon.kept_eq {t : Instant} (h : t.IsCommon) : t.kept = t :=
  kept_of_isWhole h.2.1 h.2.2

/-! ## Audits -/

namespace Audit

/-- Both instants have years of four digits. -/
def IsPlain (audit : Audit) : Prop := audit.startsAt.HasPlainYear ∧ audit.endsAt.HasPlainYear

instance (audit : Audit) : Decidable audit.IsPlain := inferInstanceAs (Decidable (_ ∧ _))

/-- What is kept of an audit: all but what is lost of its instants. -/
def kept (audit : Audit) : Audit :=
  { audit with startsAt := audit.startsAt.kept, endsAt := audit.endsAt.kept }

/-- Both instants of the audit are common. -/
def IsCommon (audit : Audit) : Prop := audit.startsAt.IsCommon ∧ audit.endsAt.IsCommon

theorem IsCommon.plain {audit : Audit} (h : audit.IsCommon) : audit.IsPlain := ⟨h.1.1, h.2.1⟩

/-- All of an audit with common instants is kept. -/
theorem IsCommon.kept_eq {audit : Audit} (h : audit.IsCommon) : audit.kept = audit := by
  unfold kept
  rw [h.1.kept_eq, h.2.kept_eq]

theorem fault?_eq_none_iff {audit : Audit} :
    audit.fault? = none ↔
      (Text.allBlank audit.id = false ∧ Text.allBlank audit.group = false ∧
        audit.owners.isEmpty = false ∧ audit.owners.toList.any Text.allBlank = false) ∧
      audit.startsAt < audit.endsAt := by
  rw [← Instant.not_le_iff]
  unfold fault?
  cases Text.allBlank audit.id <;> cases Text.allBlank audit.group <;>
    cases audit.owners.isEmpty <;> cases audit.owners.toList.any Text.allBlank <;> simp

/-- Nothing is wrong with what is kept of an audit if its window is kept. -/
theorem fault?_kept {audit : Audit} (h : audit.fault? = none)
    (hwindow : audit.startsAt.kept < audit.endsAt.kept) : audit.kept.fault? = none :=
  fault?_eq_none_iff.mpr ⟨(fault?_eq_none_iff.mp h).1, hwindow⟩

end Audit

namespace AuditRow

variable {audit : Audit}

theorem ofText?_text (status : AuditStatus) : AuditStatus.ofText? status.text = some status := by
  cases status <;> rfl

theorem decodeOwners_compact (owners : NameSet) :
    decodeOwners owners.toJson.compact = .ok owners := by
  rw [decodeOwners, NameSet.source_compact]

/-- A row that was written is read back as what is kept of the audit. -/
theorem decode_ofAudit (h : audit.IsPlain) : (ofAudit audit).decode = .ok audit.kept := by
  unfold decode
  simp only [ofAudit, ofText?_text, decodeOwners_compact, decodeInstant_storedText h.1,
    decodeInstant_storedText h.2]
  rfl

/-- A row with a year of another length is corrupt. -/
theorem decode_ofAudit_corrupt (h : ¬ audit.IsPlain) :
    ∃ message, (ofAudit audit).decode = .error (.corrupt auditsTable message) := by
  unfold decode
  simp only [ofAudit, ofText?_text, decodeOwners_compact]
  by_cases hstart : audit.startsAt.HasPlainYear
  · have hend : ¬ audit.endsAt.HasPlainYear := fun hend => h ⟨hstart, hend⟩
    obtain ⟨message, hmessage⟩ := decodeInstant_signed hend auditsTable
    exact ⟨message, by rw [decodeInstant_storedText hstart, hmessage]; rfl⟩
  · obtain ⟨message, hmessage⟩ := decodeInstant_signed hstart auditsTable
    exact ⟨message, by rw [hmessage]; rfl⟩

theorem isOpen_ofAudit (audit : Audit) :
    ((ofAudit audit).status == AuditStatus.open.text) = audit.isOpen := by
  cases h : audit.status with
  | «open» => simp [ofAudit, Audit.isOpen, h]
  | closed =>
      simp only [ofAudit, Audit.isOpen, h]
      decide

/-- Rows are listed as what is kept of their audits. -/
theorem listedBefore_ofAudit {a b : Audit} (ha : a.IsPlain) (hb : b.IsPlain) :
    listedBefore (ofAudit a) (ofAudit b) = Audit.listedBefore a.kept b.kept := by
  have hlt := Instant.storedText_lt_iff ha.2 hb.2
  have heq := Instant.storedText_eq_iff ha.2 hb.2
  rw [Bool.eq_iff_iff]
  simp only [listedBefore, Audit.listedBefore, Bool.or_eq_true, Bool.and_eq_true,
    decide_eq_true_iff, beq_iff_eq]
  exact or_congr hlt (and_congr_left' heq)

end AuditRow

/-! ## Records -/

/-- What is kept of a record: all but what is lost of its instant. -/
def Record.kept (record : Record) : Record := { record with sentAt := record.sentAt.kept }

theorem Record.kept_eq {record : Record} (h : record.sentAt.IsCommon) : record.kept = record := by
  rw [kept, h.kept_eq]

namespace RecordRow

/-- The row of a record. -/
def ofRecord (record : Record) : RecordRow := .ofClaim record.auditId record.tier record.sentAt

theorem decode_ofRecord {record : Record} (h : record.sentAt.HasPlainYear) :
    (ofRecord record).decode = .ok record.kept := by
  unfold decode ofRecord ofClaim
  simp only [decodeInstant_storedText h]
  rfl

/-- Rows are listed as what is kept of their records. -/
theorem listedBefore_ofRecord {a b : Record} (ha : a.sentAt.HasPlainYear)
    (hb : b.sentAt.HasPlainYear) :
    listedBefore (ofRecord a) (ofRecord b) = Record.listedBefore a.kept b.kept := by
  have hlt := Instant.storedText_lt_iff ha hb
  have heq := Instant.storedText_eq_iff ha hb
  rw [Bool.eq_iff_iff]
  simp only [listedBefore, Record.listedBefore, Bool.or_eq_true, Bool.and_eq_true,
    decide_eq_true_iff, beq_iff_eq]
  exact or_congr hlt (and_congr_left' heq)

end RecordRow

/-! ## Queries -/

namespace Tables

variable {α β γ : Type}

/-- Rows that can all be read are read in their order. -/
theorem decodeRows_map {decode : β → Except StoreFault γ} {row : α → β} {value : α → γ}
    {xs : List α} (h : ∀ x ∈ xs, decode (row x) = .ok (value x)) :
    decodeRows decode (xs.map row) = .ok (xs.map value) := by
  induction xs with
  | nil => rfl
  | cons x xs ih =>
      rw [List.map_cons, decodeRows, h x List.mem_cons_self,
        ih fun y hy => h y (List.mem_cons_of_mem _ hy)]
      rfl

/-- One row that cannot be read is enough for the query to fail, with the fault of a row. -/
theorem decodeRows_error {decode : α → Except StoreFault β} {rows : List α}
    (h : ∃ row ∈ rows, ∃ fault, decode row = .error fault) :
    ∃ row ∈ rows, ∃ fault, decode row = .error fault ∧ decodeRows decode rows = .error fault := by
  induction rows with
  | nil =>
      obtain ⟨row, hrow, -⟩ := h
      cases hrow
  | cons first rest ih =>
      rcases hfirst : decode first with fault | value
      · exact ⟨first, List.mem_cons_self, fault, hfirst, by rw [decodeRows, hfirst]; rfl⟩
      · obtain ⟨row, hrow, fault, hbad⟩ := h
        rcases List.mem_cons.mp hrow with rfl | hrow
        · cases hfirst.symm.trans hbad
        · obtain ⟨other, hother, fault', hbad', hall⟩ := ih ⟨row, hrow, fault, hbad⟩
          refine ⟨other, List.mem_cons_of_mem _ hother, fault', hbad', ?_⟩
          rw [decodeRows, hfirst, hall]
          rfl

/-- A query over rows that were made of values looks at the values, in their own order. -/
theorem select_map {decode : β → Except StoreFault γ} {row : α → β} {value : α → γ} {xs : List α}
    {passes : β → Bool} {before : β → β → Bool} {before' : γ → γ → Bool}
    (h : ∀ x ∈ xs, decode (row x) = .ok (value x))
    (hbefore : ∀ x ∈ xs, ∀ y ∈ xs, before (row x) (row y) = before' (value x) (value y)) :
    select (.ok (xs.map row)) passes before decode
      = .ok (((xs.filter fun x => passes (row x)).map value).mergeSort before') := by
  have hmem {x : α} (hx : x ∈ xs.filter fun x => passes (row x)) : x ∈ xs :=
    (List.mem_filter.mp hx).1
  have hfilter : (xs.map row).filter passes = (xs.filter fun x => passes (row x)).map row :=
    List.filter_map
  have hsort : ((xs.filter fun x => passes (row x)).map row).mergeSort before
      = ((xs.filter fun x => passes (row x)).mergeSort fun a b => before (row a) (row b)).map row :=
    (List.map_mergeSort (f := row) fun _ _ _ _ => rfl).symm
  have hvalues : ((xs.filter fun x => passes (row x)).mergeSort
        fun a b => before (row a) (row b)).map value
      = ((xs.filter fun x => passes (row x)).map value).mergeSort before' :=
    List.map_mergeSort fun a ha b hb => hbefore a (hmem ha) b (hmem hb)
  rw [select, hfilter, hsort, ← hvalues]
  exact decodeRows_map fun x hx => h x (hmem ((List.mergeSort_perm _ _).mem_iff.mp hx))

end Tables

end AuditReminder
