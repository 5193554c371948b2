/-
What a database accepts and reads back.

The check of an audit asks that its window ends after it starts, at any instants.  The texts that
the database keeps can be read back for years of four digits only, and not all of an instant is kept
in them: they end with milliseconds, and a leap second within a minute looks like the next second.
So what is accepted is read back under two conditions that nobody checks:

    an audit    its instants have years of four digits, and what is kept of the first comes before
                what is kept of the other
    a record    it was claimed in a year of four digits

Under them no query fails, whatever was done to the database before, no pass over it is aborted, and
every audit that is read is one that would be accepted again (`Database.reads_back`).  Without them
one audit with a later deadline, which the command line takes, makes every later list of open audits
fail, and every later pass with it (`Database.lost_after_year_ten_thousand`).
-/
import AuditReminder.Proofs.Pass.Account
import AuditReminder.Proofs.Store.Intake

namespace AuditReminder

/-- The audit is read back as one that would be accepted: its years have four digits and its window
is kept. -/
structure Audit.IsKept (audit : Audit) : Prop where
  valid : audit.fault? = none
  plain : audit.IsPlain
  window : audit.startsAt.kept < audit.endsAt.kept

theorem Audit.IsKept.fault?_kept {audit : Audit} (h : audit.IsKept) : audit.kept.fault? = none :=
  Audit.fault?_kept h.valid h.window

theorem Audit.isKept_closedAt {audit : Audit} (h : audit.IsKept) (id : AuditId) :
    (audit.closedAt id).IsKept := by
  unfold closedAt
  split
  · exact ⟨h.valid, h.plain, h.window⟩
  · exact h

/-- A valid audit that is added is kept, and claims are made in years of four digits. -/
def Call.IsKept {ω : Type} : Call ω → Prop
  | .add audit => audit.fault? = none → audit.IsKept
  | .claim _ _ now => now.HasPlainYear
  | .pass _ _ _ now => now.HasPlainYear
  | _ => True

/-- Audits that are read back as ones that would be accepted, and instants that can be read
back. -/
def Intake.kept : Intake where
  audit := Audit.IsKept
  instant := Instant.HasPlainYear
  closedAt id h := Audit.isKept_closedAt h id

theorem Call.IsKept.admits {ω : Type} {call : Call ω} (h : call.IsKept) :
    Intake.kept.Admits call := by
  cases call <;> exact h

namespace Database

variable {ω : Type} {db : Database} {c : Connection}

/-- All that the database holds can be read back. -/
def Kept (db : Database) : Prop :=
  ∃ audits records, db.Holds audits records ∧ (∀ audit ∈ audits, audit.IsKept) ∧
    ∀ record ∈ records, record.sentAt.HasPlainYear

theorem kept_fresh : fresh.Kept := holdsOnly_fresh .kept

theorem kept_performAll {calls : List (Call ω)} (hcalls : ∀ call ∈ calls, call.IsKept)
    {scene : Scene Database ω} (h : scene.store.Kept) :
    ((operations c).performAll calls scene).2.store.Kept := by
  have hadmits : ∀ call ∈ calls, Intake.kept.Admits call := fun call hcall =>
    (hcalls call hcall).admits
  exact HoldsOnly.performAll hadmits h

/-! ## What is kept is read back -/

/-- No query fails, and every audit that is read is valid. -/
structure Readable (db : Database) (c : Connection) : Prop where
  opened : ∃ audits, (db.view c).listOpen = .ok audits ∧ ∀ audit ∈ audits, audit.fault? = none
  listed : ∃ audits, (db.view c).listAudits = .ok audits ∧ ∀ audit ∈ audits, audit.fault? = none
  found (id : AuditId) :
    ∃ audit?, (db.view c).getAudit id = .ok audit? ∧ ∀ audit ∈ audit?, audit.fault? = none
  read (id : AuditId) : ∃ sent, (db.view c).sentTiers id = .ok sent
  recorded (id : AuditId) : ∃ records, (db.view c).recordsOf id = .ok records

theorem Kept.readable (h : db.Kept) (c : Connection) : db.Readable c := by
  obtain ⟨audits, records, hholds, haudits, hrecords⟩ := h
  have hplain : ∀ audit ∈ audits, audit.IsPlain := fun audit ha => (haudits audit ha).plain
  have hvalid (audit : Audit) (ha : audit ∈ audits) : audit.kept.fault? = none :=
    (haudits audit ha).fault?_kept
  refine ⟨⟨_, hholds.listOpen hplain, fun audit ha => ?_⟩,
    ⟨_, hholds.listAudits hplain, fun audit ha => ?_⟩,
    fun id => ⟨_, hholds.getAudit hplain id, fun audit ha => ?_⟩,
    fun id => ⟨_, hholds.sentTiers id⟩, fun id => ⟨_, hholds.recordsOf hrecords id⟩⟩
  · obtain ⟨kept, hkept, rfl⟩ := List.mem_map.mp ((List.mergeSort_perm _ _).mem_iff.mp ha)
    exact hvalid kept (List.mem_filter.mp hkept).1
  · obtain ⟨kept, hkept, rfl⟩ := List.mem_map.mp ((List.mergeSort_perm _ _).mem_iff.mp ha)
    exact hvalid kept hkept
  · obtain ⟨kept, hkept, rfl⟩ := Option.map_eq_some_iff.mp ha
    exact hvalid kept (List.mem_of_find?_eq_some hkept)

/-! ## No pass is aborted -/

/-- All audits that the database holds can be listed; its records are not looked at. -/
def Listable (db : Database) : Prop :=
  ∃ audits records, db.Holds audits records ∧ ∀ audit ∈ audits, audit.IsPlain

theorem Kept.listable (h : db.Kept) : db.Listable := by
  obtain ⟨audits, records, hholds, haudits, -⟩ := h
  exact ⟨audits, records, hholds, fun audit ha => (haudits audit ha).plain⟩

/-- An event that does not abort its pass. -/
def NoAbort (e : Event) : Prop := ∀ fault, e.stop? ≠ some (.aborted fault)

/-- Whatever a pass asks of the database is answered, and the audits can be listed again. -/
theorem noAbort_handler {render : RenderNotice} {send : SendMessage ω} (ask : Ask)
    (scene : Scene Database ω) (h : scene.store.Listable) :
    NoAbort ⟨ask, (Pass.handler (backend c) render send ask scene).1⟩ ∧
      (Pass.handler (backend c) render send ask scene).2.store.Listable := by
  obtain ⟨audits, records, hholds, hplain⟩ := h
  have hsame : scene.store.Listable := ⟨audits, records, hholds, hplain⟩
  cases ask with
  | listOpen =>
      refine ⟨fun fault => ?_, hsame⟩
      show Event.stop? ⟨.listOpen, (scene.store.view c).listOpen⟩ ≠ _
      rw [hholds.listOpen hplain]
      exact nofun
  | sentTiers id =>
      refine ⟨fun fault => ?_, hsame⟩
      show Event.stop? ⟨.sentTiers id, (scene.store.view c).sentTiers id⟩ ≠ _
      rw [hholds.sentTiers id]
      exact nofun
  | claim id tier instant =>
      show NoAbort ⟨.claim id tier instant, (scene.store.claim c id tier instant).1⟩ ∧
        (scene.store.claim c id tier instant).2.Listable
      obtain ⟨claimed, db', records', hclaim, hholds', -⟩ :=
        hholds.claim (c := c) id tier instant
      rw [hclaim]
      exact ⟨fun fault => nofun, _, _, hholds', hplain⟩
  | deliver request =>
      refine ⟨fun fault => ?_, hsame⟩
      cases (Pass.handler (backend c) render send (.deliver request) scene).1 <;> exact nofun
  | release id tier =>
      obtain ⟨db', hrelease, hholds'⟩ := hholds.release (c := c) id tier
      refine ⟨fun fault => nofun, ?_⟩
      show (scene.store.release c id tier).2.Listable
      rw [hrelease]
      exact ⟨_, _, hholds', hplain⟩
  | note event => exact ⟨fun fault => nofun, hsame⟩

/-- A pass over a database whose audits can be listed is not aborted. -/
theorem Listable.not_aborted {scene : Scene Database ω} (h : scene.store.Listable)
    (render : RenderNotice) (send : SendMessage ω) (plan : Plan) (now : Instant)
    (fault : StoreFault) :
    (Pass.run (backend c) render send plan now scene).1 ≠ .error (.aborted fault) := by
  intro haborted
  have hevents : ∀ e ∈ (Pass.program plan now).trace (Pass.handler (backend c) render send) scene,
      NoAbort e :=
    Program.forall_mem_trace (I := fun scene : Scene Database ω => scene.store.Listable)
      (fun ask _ scene hscene => noAbort_handler ask scene hscene)
      (Program.asks_claimsAt Pass.orderly_program) h
  obtain ⟨e, he, hstop⟩ := Pass.exists_stop haborted
  exact hevents e he fault hstop

/-! ## Main statements -/

/-- What the database accepts it reads back, as far as years have four digits and windows are kept:
after any calls no query fails, every audit that is read is valid, and no pass is
aborted. -/
theorem reads_back {calls : List (Call ω)} (hcalls : ∀ call ∈ calls, call.IsKept) (out : ω) :
    let scene := ((operations c).performAll calls ⟨fresh, out, []⟩).2
    scene.store.Readable c ∧
      ∀ (render : RenderNotice) (send : SendMessage ω) (plan : Plan) (now : Instant)
        (fault : StoreFault),
        (Pass.run (backend c) render send plan now scene).1 ≠ .error (.aborted fault) := by
  have hfresh : (⟨fresh, out, []⟩ : Scene Database ω).store.Kept := kept_fresh
  have hkept := kept_performAll (c := c) hcalls hfresh
  exact ⟨hkept.readable c, hkept.listable.not_aborted⟩

/-- An audit is added, claimed for and read back. -/
theorem reads_back_sample :
    let calls : List (Call Unit) := [.add .sample, .claim "a" "overdue" .epoch, .listOpen]
    (∀ call ∈ calls, call.IsKept) ∧
      ((operations 0).performAll calls ⟨fresh, (), []⟩).2.store.Readable 0 := by
  have hsample : Audit.sample.IsKept := ⟨by decide, by decide +kernel, by decide⟩
  have hepoch : Instant.epoch.HasPlainYear := by decide +kernel
  have hcalls : ∀ call ∈ ([.add .sample, .claim "a" "overdue" .epoch, .listOpen] :
      List (Call Unit)), call.IsKept := by
    intro call hcall
    simp only [List.mem_cons, List.not_mem_nil, or_false] at hcall
    rcases hcall with rfl | rfl | rfl
    · exact fun _ => hsample
    · exact hepoch
    · trivial
  exact ⟨hcalls, (reads_back hcalls ()).1⟩

/-- The first instant of the year 10000. -/
def yearTenThousand : Instant :=
  { Instant.epoch with
    second := 253_402_300_800
    inRange := by decide }

/-- An audit until then. -/
def lateAudit : Audit := ⟨"a", "g", .ofList ["o"], .eve, yearTenThousand, .open⟩

/-- The command line takes the deadline and the database the audit; from then on no list of open
audits can be read, and every pass is aborted. -/
theorem lost_after_year_ten_thousand :
    Time.parseTime? "9999-12-31T23:00:00-01:00" = some yearTenThousand ∧
      ∃ db message, fresh.addAudit 0 lateAudit = (.ok (), db) ∧
        (db.view 0).listOpen = .error (.corrupt auditsTable message) ∧
        ∀ (render : RenderNotice) (send : SendMessage Unit) (plan : Plan) (now : Instant),
          (Pass.run (backend 0) render send plan now ⟨db, (), []⟩).1
            = .error (.aborted (.corrupt auditsTable message)) := by
  refine ⟨by decide +kernel, ?_⟩
  obtain ⟨db, hadd, hholds⟩ := holds_fresh.addAudit_new (c := 0)
    (by decide : lateAudit.fault? = none) (by decide)
  obtain ⟨message, hlist⟩ := hholds.listOpen_corrupt (c := 0)
    ⟨lateAudit, List.mem_cons_self, rfl, by decide +kernel⟩
  refine ⟨db, message, hadd, hlist, fun render send plan now => ?_⟩
  have hanswer : (backend 0).listOpen db = .error (.corrupt auditsTable message) := hlist
  simp only [Pass.run, Pass.program, Program.note, Program.ask, bind, Program.bind,
    Program.run_step, Pass.handler, hanswer]
  rfl

end Database

end AuditReminder
