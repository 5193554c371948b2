/-
Lists of the database in the order of time.

The database knows no instants.  It compares their texts byte by byte, and a list of audits or of
records is in the order of these texts.  As far as years have four digits that is the order of time,
of what is kept of the instants: this is read back, and two texts compare as it does.

Where leap seconds end minutes, what is kept is the instant cut to milliseconds.  Such a leap second
stands between the second before it and the next one, as second 60 in the text and as a second of
twice the length in the instant.  After another second it is kept as the next second, and then a
later instant may be listed first (`Database.out_of_order_within_minute`).

    Instant.compare_storedText     bytes of texts compare as what is read back
    Database.Holds.listsByTime     lists are complete and in the order of what is kept
    Database.stored_in_order       both, and the second after any calls
-/
import AuditReminder.Proofs.Store.Intake
import AuditReminder.Proofs.Store.Listed

namespace AuditReminder

/-- Stored texts, compared byte by byte, compare as what is kept of their instants. -/
theorem Instant.compare_storedText {a b : Instant} (ha : a.HasPlainYear) (hb : b.HasPlainYear) :
    compareOfLessAndEq (Text.bytes a.toStoredText) (Text.bytes b.toStoredText)
      = compareOfLessAndEq a.kept b.kept := by
  simp only [compareOfLessAndEq, Text.bytes_lt_iff, Text.bytes_inj, storedText_lt_iff ha hb,
    storedText_eq_iff ha hb]

/-- The answer to a query is these values, each before those of a later instant, or of the same
instant and a later name. -/
def AnswersByTime {α : Type} (instant : α → Instant) (name : α → String) (values : List α)
    (answer : Except StoreFault (List α)) : Prop :=
  ∃ listed, answer = .ok listed ∧ listed.Perm values ∧ listed.Pairwise (ByTime instant name)

theorem answersByTime_mergeSort {α : Type} {instant : α → Instant} {name : α → String}
    {before : α → α → Bool} (hbefore : ∀ a b, before a b = true ↔ ByTime instant name a b)
    (values : List α) :
    AnswersByTime instant name values (.ok (values.mergeSort before)) :=
  ⟨_, rfl, List.mergeSort_perm _ _, ByTime.pairwise_mergeSort hbefore values⟩

/-- Instants with years of four digits. -/
def Intake.plain : Intake where
  audit := Audit.IsPlain
  instant := Instant.HasPlainYear
  closedAt id h := by
    unfold Audit.closedAt
    split <;> exact h

namespace Database

variable {db : Database} {audits : List Audit} {records : List Record}

/-- The lists of audits and of records hold what is kept of these, in the order of time. -/
structure ListsByTime (db : Database) (c : Connection) (audits : List Audit)
    (records : List Record) : Prop where
  listed : AnswersByTime Audit.endsAt Audit.id (audits.map Audit.kept) (db.view c).listAudits
  opened : AnswersByTime Audit.endsAt Audit.id ((audits.filter Audit.isOpen).map Audit.kept)
    (db.view c).listOpen
  recorded (id : AuditId) : AnswersByTime Record.sentAt Record.tier
    ((records.filter (·.auditId == id)).map Record.kept) ((db.view c).recordsOf id)

theorem Holds.listsByTime (h : db.Holds audits records) (haudits : ∀ audit ∈ audits, audit.IsPlain)
    (hrecords : ∀ record ∈ records, record.sentAt.HasPlainYear) (c : Connection) :
    db.ListsByTime c audits records where
  listed := by
    rw [h.listAudits haudits]
    exact answersByTime_mergeSort Audit.listedBefore_iff _
  opened := by
    rw [h.listOpen haudits]
    exact answersByTime_mergeSort Audit.listedBefore_iff _
  recorded id := by
    rw [h.recordsOf hrecords id]
    exact answersByTime_mergeSort Record.listedBefore_iff _

/-- Stored texts are an order embedding of what is kept of instants, which is the instant cut to
milliseconds exactly where a leap second ends a minute.  They are read back, they compare byte by
byte as what is read back, and so every list is in the order of time, whatever calls were made
before. -/
theorem stored_in_order {ω : Type} {a b : Instant} {calls : List (Call ω)}
    (ha : a.HasPlainYear) (hb : b.HasPlainYear) (hcalls : ∀ call ∈ calls, Intake.plain.Admits call)
    (out : ω) (writer reader : Connection) :
    (∀ table, decodeInstant table a.toStoredText = .ok a.kept) ∧
      (a.kept = a.cut ↔ a.LeapEndsMinute) ∧ (a.cut.IsLeap ↔ a.IsLeap) ∧
      compareOfLessAndEq (Text.bytes a.toStoredText) (Text.bytes b.toStoredText)
        = compareOfLessAndEq a.kept b.kept ∧
      ∃ audits records,
        let db := ((operations writer).performAll calls ⟨fresh, out, []⟩).2.store
        db.Holds audits records ∧ db.ListsByTime reader audits records := by
  have hfresh : (⟨fresh, out, []⟩ : Scene Database ω).store.HoldsOnly .plain :=
    holdsOnly_fresh .plain
  obtain ⟨audits, records, hholds, haudits, hrecords⟩ :=
    HoldsOnly.performAll (c := writer) hcalls hfresh
  exact ⟨decodeInstant_storedText ha, Instant.kept_eq_cut_iff, a.isLeap_cut,
    Instant.compare_storedText ha hb, audits, records, hholds,
    hholds.listsByTime haudits hrecords reader⟩

/-- Half a millisecond before the end of the leap second 2016-12-31T23:59:60Z. -/
def leapEnd : Instant where
  second := 1_483_228_799
  nano := 1_999_500_000
  inRange := by decide
  belowTwoSeconds := by decide

/-- The instant that follows it, 2017-01-01T00:00:00Z. -/
def newYear : Instant :=
  { Instant.epoch with
    second := 1_483_228_800
    inRange := by decide }

/-- A deadline in the leap second is read back in it, and its text comes before that of the next
second; audits with the two deadlines are listed in the order of time. -/
theorem leap_second_in_order :
    let sooner : Audit := { Audit.sample with id := "b", endsAt := leapEnd }
    let later : Audit := { Audit.sample with endsAt := newYear }
    let calls : List (Call Unit) := [.add later, .add sooner, .claim "b" "overdue" leapEnd]
    (leapEnd.HasPlainYear ∧ newYear.HasPlainYear ∧ ∀ call ∈ calls, Intake.plain.Admits call) ∧
      decodeInstant auditsTable leapEnd.toStoredText = .ok leapEnd.cut ∧ leapEnd.cut.IsLeap ∧
      compareOfLessAndEq (Text.bytes leapEnd.toStoredText) (Text.bytes newYear.toStoredText) = .lt ∧
      ∃ audits records,
        let db := ((operations 0).performAll calls ⟨fresh, (), []⟩).2.store
        db.Holds audits records ∧ db.ListsByTime 0 audits records := by
  intro sooner later calls
  have hleap : leapEnd.HasPlainYear := by decide +kernel
  have hnew : newYear.HasPlainYear := by decide +kernel
  have heve : Instant.eve.HasPlainYear := by decide +kernel
  have hcalls : ∀ call ∈ calls, Intake.plain.Admits call := by
    intro call hcall
    simp only [calls, List.mem_cons, List.not_mem_nil, or_false] at hcall
    rcases hcall with rfl | rfl | rfl
    · intro _
      exact ⟨heve, hnew⟩
    · intro _
      exact ⟨heve, hleap⟩
    · exact hleap
  obtain ⟨hread, hcut, hstays, hcompare, hlists⟩ := stored_in_order hleap hnew hcalls () 0 0
  rw [hcut.mpr (by decide)] at hread
  refine ⟨⟨hleap, hnew, hcalls⟩, hread auditsTable, hstays.mpr (by decide), ?_, hlists⟩
  rw [hcompare]
  decide

open Instant (withinMinute afterLeapSecond)

/-- An instant in a leap second within a minute is kept in the next second, and its text comes after
that of a later instant of that second. -/
theorem out_of_order_within_minute :
    (withinMinute.HasPlainYear ∧ afterLeapSecond.HasPlainYear) ∧
      withinMinute.cut < afterLeapSecond.cut ∧
      compareOfLessAndEq (Text.bytes withinMinute.toStoredText)
        (Text.bytes afterLeapSecond.toStoredText) = .gt ∧
      ∃ read, decodeInstant recordsTable withinMinute.toStoredText = .ok read ∧
        read ≠ withinMinute.cut := by
  have hsooner : withinMinute.HasPlainYear := by decide +kernel
  have hlater : afterLeapSecond.HasPlainYear := by decide +kernel
  refine ⟨⟨hsooner, hlater⟩, by decide, ?_, withinMinute.kept,
    decodeInstant_storedText hsooner recordsTable, by decide⟩
  rw [Instant.compare_storedText hsooner hlater]
  decide

example : leapEnd.toStoredText = "2016-12-31T23:59:60.999Z" := by decide +kernel

end Database

end AuditReminder
