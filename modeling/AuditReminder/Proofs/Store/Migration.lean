/-
Migrations that are repeated, cut off or run at once.

A migration creates the table of the version, reads the version, and has two transactions before it:
one creates the tables and stores the first version, one creates the index and stores the second.
The version is read outside of both, so between any two steps of one opener the others may do
theirs, and one that read an old version runs its first transaction over what others have finished:
the version falls back to the first for a while.  An opener that is never scheduled again is one
that was cut off or refused the lock.

What an opener may rely on is said of the tables that all share (`Race.Sound`):

    past its start            the table of the version is there
    between transactions      both other tables are there
    the version is the first  some opener is between its transactions
    the version is the second the index is there

So none of them ever fails, and once nobody is between two transactions the schema is the current
one.

Main statement: `Database.migrates`.
-/
import AuditReminder.Proofs.Store.Transaction
import Mathlib.Logic.Function.Basic

namespace AuditReminder

namespace Tables

/-- The version that is stored; without one it counts as zero. -/
def storedVersion (t : Tables) : Int := (t.version.getD none).getD 0

/-- An index is one of a table that is there, and a version has 32 bits. -/
structure IsWritable (t : Tables) : Prop where
  index : t.indexed = true → t.audits ≠ none
  version : isInt32 t.storedVersion = true

/-- The tables with one for the version. -/
def withVersionTable (t : Tables) : Tables := { t with version := some (t.version.getD none) }

/-- The tables with all that the first version has. -/
def firstVersion (t : Tables) : Tables :=
  { t with
    audits := some (t.audits.getD [])
    records := some (t.records.getD [])
    version := some (some 1) }

/-- The tables with what the second version adds. -/
def secondVersion (t : Tables) : Tables := { t with version := some (some 2), indexed := true }

/-- The tables of the current version, with the rows that were there. -/
def current (t : Tables) : Tables :=
  ⟨some (t.audits.getD []), some (t.records.getD []), some (some 2), true⟩

/-- Both tables with rows are there. -/
def HasBoth (t : Tables) : Prop := t.audits ≠ none ∧ t.records ≠ none

/-- The one case in which a migration fails: there is nothing that the index could be of. -/
def IsStuck (t : Tables) : Prop := t.storedVersion = 1 ∧ t.audits = none

instance (t : Tables) : Decidable t.IsStuck := inferInstanceAs (Decidable (_ ∧ _))

/-- What a migration makes of the tables. -/
def migrated (t : Tables) : Tables :=
  if currentVersion ≤ t.storedVersion then t
  else if t.storedVersion < 1 then t.current
  else if t.audits = none then t
  else t.secondVersion

/-- No row was added or lost: a table is as it was, or it was missing and has no rows. -/
structure KeepsRows (t t' : Tables) : Prop where
  audits : t'.audits = t.audits ∨ t'.audits = some (t.audits.getD [])
  records : t'.records = t.records ∨ t'.records = some (t.records.getD [])

section Versions

variable {t t' : Tables}

theorem storedVersion_withVersionTable (t : Tables) :
    t.withVersionTable.storedVersion = t.storedVersion := by
  rw [storedVersion, storedVersion, withVersionTable]
  cases t.version <;> rfl

theorem storedVersion_firstVersion (t : Tables) : t.firstVersion.storedVersion = 1 := rfl

theorem storedVersion_secondVersion (t : Tables) : t.secondVersion.storedVersion = 2 := rfl

theorem IsWritable.withVersionTable (h : t.IsWritable) : t.withVersionTable.IsWritable :=
  ⟨h.index, (storedVersion_withVersionTable t).symm ▸ h.version⟩

theorem hasBoth_firstVersion (t : Tables) : t.firstVersion.HasBoth :=
  ⟨fun hnone => (by cases hnone), fun hnone => (by cases hnone)⟩

theorem isWritable_firstVersion (t : Tables) : t.firstVersion.IsWritable :=
  ⟨fun _ hnone => (by cases hnone), by rw [storedVersion_firstVersion]; decide⟩

theorem isWritable_secondVersion (h : t.audits ≠ none) : t.secondVersion.IsWritable :=
  ⟨fun _ => h, by rw [storedVersion_secondVersion]; decide⟩

/-- What the second version adds is there if it is the version. -/
theorem secondVersion_eq_self (htwo : t.storedVersion = 2) (hindexed : t.indexed = true) :
    t.secondVersion = t := by
  obtain ⟨audits, records, version, indexed⟩ := t
  obtain rfl : indexed = true := hindexed
  rcases version with _ | _ | version
  · cases htwo
  · cases htwo
  · obtain rfl : version = 2 := htwo
    rfl

/-- A version that is stored has a table. -/
theorem version_ne_none (h : 1 ≤ t.storedVersion) : t.version ≠ none := by
  intro hnone
  rw [storedVersion, hnone] at h
  exact absurd h (by decide)

namespace KeepsRows

theorem refl (t : Tables) : t.KeepsRows t := ⟨Or.inl rfl, Or.inl rfl⟩

theorem getD_of_kept {α : Type} {rows rows' : Option (List α)}
    (h : rows' = rows ∨ rows' = some (rows.getD [])) : rows'.getD [] = rows.getD [] := by
  rcases h with rfl | rfl <;> rfl

theorem eq_of_kept {α : Type} {rows rows' : Option (List α)}
    (h : rows' = rows ∨ rows' = some (rows.getD [])) (hsome : rows' ≠ none) :
    rows' = some (rows.getD []) := by
  rcases h with rfl | h
  · obtain ⟨all, rfl⟩ := Option.ne_none_iff_exists'.mp hsome
    rfl
  · exact h

theorem firstVersion (h : t.KeepsRows t') : t.KeepsRows t'.firstVersion :=
  ⟨Or.inr (congrArg some (getD_of_kept h.audits)), Or.inr (congrArg some (getD_of_kept h.records))⟩

/-- With both tables there, the second version is the current one. -/
theorem secondVersion_eq (h : t.KeepsRows t') (hboth : t'.HasBoth) :
    t'.secondVersion = t.current := by
  have haudits' := eq_of_kept h.audits hboth.1
  have hrecords' := eq_of_kept h.records hboth.2
  rw [Tables.secondVersion, current, haudits', hrecords']

end KeepsRows

/-- The current tables take no second record of a pair. -/
theorem insertNewRecord_current {row other : RecordRow} (h : other ∈ t.records.getD [])
    (hid : other.auditId = row.auditId) (htier : other.tier = row.tier) :
    insertNewRecord row t.current
      = .error (.notUnique (recordsTable ++ ".audit_id, " ++ recordsTable ++ ".tier")) := by
  have hrecords : t.current.records = some (t.records.getD []) := rfl
  have htaken : (t.records.getD []).any
      (fun r => r.auditId == row.auditId && r.tier == row.tier) = true :=
    List.any_eq_true.mpr ⟨other, h, by simp [hid, htier]⟩
  rw [insertNewRecord, insertRecord_eq row hrecords, if_pos htaken]
  rfl

theorem withVersionTable_eq (h : t.version ≠ none) : t.withVersionTable = t := by
  obtain ⟨stored, hstored⟩ := Option.ne_none_iff_exists'.mp h
  rw [withVersionTable, hstored, Option.getD_some, ← hstored]

theorem migrated_of_current (h : 2 ≤ t.storedVersion) : t.migrated = t := if_pos h

theorem migrated_of_old (h : t.storedVersion < 1) : t.migrated = t.current := by
  have hold : ¬ currentVersion ≤ t.storedVersion := by
    rw [currentVersion]
    omega
  rw [migrated, if_neg hold, if_pos h]

theorem migrated_of_first (h : t.storedVersion = 1) :
    t.migrated = if t.audits = none then t else t.secondVersion := by
  rw [migrated, h]
  rfl

theorem keepsRows_migrated (t : Tables) : t.KeepsRows t.migrated := by
  unfold migrated
  split
  · exact .refl t
  · split
    · exact ⟨Or.inr rfl, Or.inr rfl⟩
    · split
      · exact .refl t
      · exact ⟨Or.inl rfl, Or.inl rfl⟩

theorem migrated_withVersionTable (t : Tables) : t.withVersionTable.migrated = t.migrated := by
  by_cases htable : t.version = none
  · have hold : t.storedVersion < 1 := by
      rw [storedVersion, htable]
      decide
    have hold' : t.withVersionTable.storedVersion < 1 := by
      rw [storedVersion_withVersionTable]
      exact hold
    rw [migrated_of_old hold, migrated_of_old hold']
    rfl
  · rw [withVersionTable_eq htable]

end Versions

end Tables

/-- Where an opener stands in its migration. -/
inductive Opener where
  | creating
  | looking
  /-- The first transaction is next; the version is the one that was read. -/
  | first (version : Int)
  /-- The second transaction is next. -/
  | second (version : Int)
  | ended (result : Except StoreFault Int)

namespace Opener

/-- The opener has made the first of its two transactions and not the second. -/
def isBetween : Opener → Bool
  | .second _ => true
  | _ => false

def hasEnded : Opener → Bool
  | .ended _ => true
  | _ => false

/-- What a statement leads to, or the end if it fails. -/
def after (result : Except QueryFault Unit × Database) (next : Opener) : Opener × Database :=
  match result with
  | (.ok (), db) => (next, db)
  | (.error fault, db) => (.ended (.error (.migrationFailed fault)), db)

/-- What is next once a version was read. -/
def next (version : Int) : Opener :=
  if Tables.currentVersion ≤ version then .ended (.ok version)
  else if version < 1 then .first version
  else .second version

/-- The next step of a migration over a connection. -/
def step (c : Connection) : Opener → Database → Opener × Database
  | .creating, db => after (db.writeIfNeeded c Tables.createVersionTable) .looking
  | .looking, db =>
      match (db.view c).migratedVersion with
      | .error fault => (.ended (.error (.migrationFailed fault)), db)
      | .ok version => (next version, db)
  | .first version, db => after (db.write c Tables.toFirstVersion) (.second version)
  | .second version, db => after (db.write c Tables.toSecondVersion) (.ended (.ok version))
  | .ended result, db => (.ended result, db)

/-- Some steps of a migration, one after the other. -/
def run (c : Connection) : Nat → Opener → Database → Opener × Database
  | 0, opener, db => (opener, db)
  | n + 1, opener, db => run c n (step c opener db).1 (step c opener db).2

variable {c : Connection} {t : Tables} {version : Int}

theorem hasEnded_iff {opener : Opener} :
    opener.hasEnded = true ↔ ∃ result, opener = .ended result := by
  constructor
  · intro h
    cases opener with
    | ended result => exact ⟨result, rfl⟩
    | _ => cases h
  · rintro ⟨result, rfl⟩
    rfl

theorem run_ended (n : Nat) (result : Except StoreFault Int) (db : Database) :
    run c n (.ended result) db = (.ended result, db) := by
  induction n with
  | zero => rfl
  | succ n ih => exact ih

/-- The two transactions that follow the version that was read. -/
theorem run_first (version : Int) (db : Database) :
    run c 2 (.first version) db
      = match db.write c Tables.toFirstVersion with
        | (.error fault, db) => (.ended (.error (.migrationFailed fault)), db)
        | (.ok (), db) => step c (.second version) db := by
  rw [run, step]
  rcases db.write c Tables.toFirstVersion with ⟨fault | ⟨⟩, db⟩
  · exact run_ended 1 _ db
  · rfl

/-- Four steps that follow one another are a migration. -/
theorem run_creating (db : Database) :
    run c 4 .creating db = (.ended (db.migrate c).1, (db.migrate c).2) := by
  rw [run, step, Database.migrate]
  rcases db.writeIfNeeded c Tables.createVersionTable with ⟨fault | ⟨⟩, db⟩
  · exact run_ended 3 _ db
  · show run c 3 .looking db = _
    rw [run, step]
    simp only
    rcases (db.view c).migratedVersion with fault | version
    · exact run_ended 2 _ db
    · simp only [next]
      by_cases hcurrent : Tables.currentVersion ≤ version
      · rw [if_pos hcurrent, if_pos hcurrent]
        exact run_ended 2 _ db
      · have hsecond : version < 2 := Int.not_le.mp hcurrent
        rw [if_neg hcurrent, if_neg hcurrent, Database.migrateFrom]
        by_cases hfirst : version < 1
        · rw [if_pos hfirst, if_pos hfirst]
          simp only [run_first]
          rcases db.write c Tables.toFirstVersion with ⟨fault | ⟨⟩, db⟩
          · rfl
          · simp only [if_pos hsecond, step]
            rcases db.write c Tables.toSecondVersion with ⟨fault | ⟨⟩, db⟩ <;> rfl
        · rw [if_neg hfirst, if_neg hfirst]
          simp only [if_pos hsecond]
          rw [run, step]
          rcases db.write c Tables.toSecondVersion with ⟨fault | ⟨⟩, db⟩ <;> rfl

theorem next_cases (version : Int) :
    (2 ≤ version ∧ next version = .ended (.ok version)) ∨
      (version < 1 ∧ next version = .first version) ∨
      (version = 1 ∧ next version = .second version) := by
  by_cases hcurrent : 2 ≤ version
  · exact Or.inl ⟨hcurrent, if_pos hcurrent⟩
  · have hnext : next version = if version < 1 then .first version else .second version :=
      if_neg hcurrent
    by_cases hold : version < 1
    · exact Or.inr (Or.inl ⟨hold, hnext.trans (if_pos hold)⟩)
    · exact Or.inr (Or.inr ⟨by omega, hnext.trans (if_neg hold)⟩)

/-! ## Steps on a database that nobody has locked -/

theorem step_creating : step c .creating ⟨t, none⟩ = (.looking, ⟨t.withVersionTable, none⟩) := by
  rw [step, Database.writeIfNeeded]
  show after (if t.withVersionTable = t then (.ok (), ⟨t, none⟩) else
    (⟨t, none⟩ : Database).write c Tables.createVersionTable) .looking = _
  split
  · next hsame =>
    rw [hsame]
    rfl
  · rw [Database.write_unlocked]
    rfl

theorem step_looking (htable : t.version ≠ none) (hversion : isInt32 t.storedVersion = true) :
    step c .looking ⟨t, none⟩ = (next t.storedVersion, ⟨t, none⟩) := by
  have hread : ((⟨t, none⟩ : Database).view c).migratedVersion = .ok t.storedVersion := by
    show t.migratedVersion = _
    rcases hstored : t.version with _ | version
    · exact (htable hstored).elim
    · have hstoredVersion : t.storedVersion = version.getD 0 := by
        rw [Tables.storedVersion, hstored]
        rfl
      rw [hstoredVersion] at hversion ⊢
      simp only [Tables.migratedVersion, Tables.schemaVersion, hstored, bind, Except.bind,
        hversion, if_true]
      rfl
  rw [step, hread]

theorem step_first (htable : t.version ≠ none) :
    step c (.first version) ⟨t, none⟩ = (.second version, ⟨t.firstVersion, none⟩) := by
  obtain ⟨stored, hstored⟩ := Option.ne_none_iff_exists'.mp htable
  rw [step, Database.write_unlocked, Tables.toFirstVersion, Tables.setVersion]
  simp only [hstored]
  rfl

theorem step_second (htable : t.version ≠ none) (haudits : t.audits ≠ none) :
    step c (.second version) ⟨t, none⟩ = (.ended (.ok version), ⟨t.secondVersion, none⟩) := by
  obtain ⟨stored, hstored⟩ := Option.ne_none_iff_exists'.mp htable
  have hguard : t.indexed ∨ t.audits.isSome := Or.inr (Option.isSome_iff_ne_none.mpr haudits)
  rw [step, Database.write_unlocked, Tables.toSecondVersion, if_pos hguard, Tables.setVersion]
  simp only [hstored]
  rfl

theorem step_second_fails (hindex : t.indexed = true → t.audits ≠ none) (haudits : t.audits = none) :
    step c (.second version) ⟨t, none⟩
      = (.ended (.error (.migrationFailed (.noSuchTable "main.audits"))), ⟨t, none⟩) := by
  have hguard : ¬ (t.indexed ∨ t.audits.isSome) := by
    rintro (hindexed | hsome)
    · exact hindex hindexed haudits
    · rw [haudits] at hsome
      cases hsome
  rw [step, Database.write_unlocked, Tables.toSecondVersion, if_neg hguard]
  rfl

/-! ## One opener alone -/

/-- Where an opener that is alone may stand. -/
def Follows (t : Tables) : Opener → Prop
  | .creating => True
  | .looking => t.version ≠ none
  | .first _ => t.version ≠ none ∧ t.storedVersion < 1
  | .second _ => t.storedVersion = 1
  | .ended _ => True

/-- A step leads to tables of which a migration makes the same. -/
theorem step_follows {opener : Opener} (h : t.IsWritable) (hfollows : opener.Follows t) :
    ∃ opener' t', step c opener ⟨t, none⟩ = (opener', ⟨t', none⟩) ∧ t'.IsWritable ∧
      opener'.Follows t' ∧ t'.migrated = t.migrated ∧ (t'.IsStuck ↔ t.IsStuck) := by
  cases opener with
  | creating =>
      have htable : t.withVersionTable.version ≠ none := fun hnone => by cases hnone
      refine ⟨_, _, step_creating, h.withVersionTable, htable,
        Tables.migrated_withVersionTable t, ?_⟩
      rw [Tables.IsStuck, Tables.storedVersion_withVersionTable]
      rfl
  | looking =>
      refine ⟨_, _, step_looking hfollows h.version, h, ?_, rfl, Iff.rfl⟩
      rcases next_cases t.storedVersion with ⟨-, hnext⟩ | ⟨hold, hnext⟩ | ⟨hone, hnext⟩
      · rw [hnext]
        trivial
      · rw [hnext]
        exact ⟨hfollows, hold⟩
      · rw [hnext]
        exact hone
  | first version =>
      obtain ⟨htable, hold⟩ := hfollows
      refine ⟨_, _, step_first htable, Tables.isWritable_firstVersion t, rfl, ?_, ?_⟩
      · rw [Tables.migrated_of_old hold, Tables.migrated_of_first rfl]
        rfl
      · refine iff_of_false (fun hstuck => ?_) fun hstuck => ?_
        · cases hstuck.2
        · rw [hstuck.1] at hold
          exact absurd hold (by decide)
  | second version =>
      have hone : t.storedVersion = 1 := hfollows
      by_cases haudits : t.audits = none
      · exact ⟨_, _, step_second_fails h.index haudits, h, trivial, rfl, Iff.rfl⟩
      · refine ⟨_, _, step_second (Tables.version_ne_none (Int.le_of_eq hone.symm)) haudits,
          Tables.isWritable_secondVersion haudits, trivial, ?_, ?_⟩
        · rw [Tables.migrated_of_first hone, if_neg haudits]
          exact Tables.migrated_of_current (Int.le_refl 2)
        · refine iff_of_false (fun hstuck => ?_) fun hstuck => haudits hstuck.2
          exact absurd hstuck.1 (by rw [Tables.storedVersion_secondVersion]; decide)
  | ended result => exact ⟨_, _, rfl, h, trivial, rfl, Iff.rfl⟩

/-- However many steps are made, a migration makes the same of the tables. -/
theorem run_follows (n : Nat) {opener : Opener} (h : t.IsWritable) (hfollows : opener.Follows t) :
    ∃ opener' t', run c n opener ⟨t, none⟩ = (opener', ⟨t', none⟩) ∧ t'.IsWritable ∧
      t'.migrated = t.migrated ∧ (t'.IsStuck ↔ t.IsStuck) := by
  induction n generalizing opener t with
  | zero => exact ⟨opener, t, rfl, h, rfl, Iff.rfl⟩
  | succ n ih =>
      obtain ⟨opener₁, t₁, hstep, h₁, hfollows₁, hmigrated₁, hstuck₁⟩ :=
        step_follows (c := c) h hfollows
      obtain ⟨opener', t', hrun, h', hmigrated, hstuck⟩ := ih h₁ hfollows₁
      refine ⟨opener', t', ?_, h', hmigrated.trans hmigrated₁, hstuck.trans hstuck₁⟩
      rw [run, hstep]
      exact hrun

end Opener

/-! ## Migrations -/

namespace Database

variable {t : Tables}

theorem migrate_of_run {c : Connection} {db db' : Database} {result : Except StoreFault Int}
    (h : Opener.run c 4 .creating db = (.ended result, db')) : db.migrate c = (result, db') := by
  rw [Opener.run_creating] at h
  obtain ⟨hended, hdb⟩ := Prod.mk.inj h
  exact Prod.ext (Opener.ended.inj hended) hdb

/-- A migration gives the version that it found, unless there is nothing for the index. -/
theorem migrate_eq (c : Connection) (h : t.IsWritable) :
    (⟨t, none⟩ : Database).migrate c
      = (if t.IsStuck then .error (.migrationFailed (.noSuchTable "main.audits"))
          else .ok t.storedVersion, ⟨t.migrated, none⟩) := by
  have htable : t.withVersionTable.version ≠ none := fun hnone => by cases hnone
  have hlook : Opener.run c 4 .creating ⟨t, none⟩
      = Opener.run c 2 (Opener.next t.storedVersion) ⟨t.withVersionTable, none⟩ := by
    rw [Opener.run, Opener.step_creating, Opener.run,
      Opener.step_looking htable h.withVersionTable.version, Tables.storedVersion_withVersionTable]
  refine migrate_of_run (hlook.trans ?_)
  rcases Opener.next_cases t.storedVersion with ⟨hcurrent, hnext⟩ | ⟨hold, hnext⟩ | ⟨hone, hnext⟩
  · have hstuck : ¬ t.IsStuck := fun hstuck => absurd hstuck.1 (by omega)
    rw [hnext, Opener.run_ended, if_neg hstuck, Tables.migrated_of_current hcurrent,
      Tables.withVersionTable_eq (Tables.version_ne_none (Int.le_trans (by decide) hcurrent))]
  · have hstuck : ¬ t.IsStuck := fun hstuck => absurd hstuck.1 (by omega)
    rw [hnext, Opener.run, Opener.step_first htable, Opener.run,
      Opener.step_second (fun hnone => by cases hnone) (Tables.hasBoth_firstVersion _).1,
      if_neg hstuck, Tables.migrated_of_old hold]
    rfl
  · have htable' := Tables.version_ne_none (Int.le_of_eq hone.symm)
    rw [hnext, Tables.withVersionTable_eq htable', Tables.migrated_of_first hone, Opener.run]
    by_cases haudits : t.audits = none
    · rw [Opener.step_second_fails h.index haudits, if_pos haudits, if_pos ⟨hone, haudits⟩]
      rfl
    · rw [Opener.step_second htable' haudits, if_neg haudits,
        if_neg fun hstuck => haudits hstuck.2]
      rfl

/-- A migration comes to the same after any number of steps of another. -/
theorem migrate_run (h : t.IsWritable) (c d : Connection) (n : Nat) :
    ((Opener.run c n .creating ⟨t, none⟩).2.migrate d).2
        = ((⟨t, none⟩ : Database).migrate c).2 ∧
      ((Opener.run c n .creating ⟨t, none⟩).2.migrate d).1.isOk
        = ((⟨t, none⟩ : Database).migrate c).1.isOk := by
  have hcreating : (Opener.creating).Follows t := trivial
  obtain ⟨opener, t', hrun, h', hmigrated, hstuck⟩ := Opener.run_follows (c := c) n h hcreating
  rw [hrun]
  simp only [migrate_eq d h', migrate_eq c h, hmigrated, hstuck, true_and]
  by_cases hstuck' : t.IsStuck
  · rw [if_pos hstuck', if_pos hstuck']
  · rw [if_neg hstuck', if_neg hstuck']
    rfl

end Database

/-! ## Openers on one database -/

/-- A database with those who open it, each over a connection of its own. -/
structure Race where
  db : Database
  openers : Connection → Opener

namespace Race

/-- Nobody has done anything yet. -/
def start (t : Tables) : Race := ⟨⟨t, none⟩, fun _ => .creating⟩

/-- The opener on a connection makes its next step. -/
def advance (race : Race) (c : Connection) : Race :=
  ⟨((race.openers c).step c race.db).2,
    Function.update race.openers c ((race.openers c).step c race.db).1⟩

/-- The openers make their steps in some order. -/
def play (race : Race) : List Connection → Race
  | [] => race
  | c :: rest => (race.advance c).play rest

/-- An opener that makes no step stands where it stood. -/
theorem openers_play {d : Connection} (race : Race) {schedule : List Connection}
    (hd : d ∉ schedule) : (race.play schedule).openers d = race.openers d := by
  induction schedule generalizing race with
  | nil => rfl
  | cons c rest ih =>
      obtain ⟨hdc, hrest⟩ := not_or.mp fun h => hd (List.mem_cons.mpr h)
      rw [play, ih (race.advance c) hrest]
      exact Function.update_of_ne hdc _ _

/-- What openers that started on some tables may rely on in the tables that they share. -/
structure Sound (t t' : Tables) (openers : Connection → Opener) : Prop where
  rows : t.KeepsRows t'
  writable : t'.IsWritable
  versioned {c : Connection} : openers c ≠ .creating → t'.version ≠ none
  between {c : Connection} {v : Int} : openers c = .second v → t'.HasBoth
  tables : 1 ≤ t'.storedVersion → t'.HasBoth
  owed : t'.storedVersion = 1 → ∃ c v, openers c = .second v
  indexed : 2 ≤ t'.storedVersion → t'.storedVersion = 2 ∧ t'.indexed = true
  ended {c : Connection} {result : Except StoreFault Int} : openers c = .ended result →
    (∃ v, result = .ok v) ∧ 1 ≤ t'.storedVersion

variable {t t' t'' : Tables} {openers : Connection → Opener} {c : Connection} {opener : Opener}

theorem update_cases {d : Connection} {other : Opener}
    (h : Function.update openers c opener d = other) :
    (d = c ∧ opener = other) ∨ (d ≠ c ∧ openers d = other) := by
  by_cases hdc : d = c
  · subst hdc
    rw [Function.update_self] at h
    exact Or.inl ⟨rfl, h⟩
  · rw [Function.update_of_ne hdc] at h
    exact Or.inr ⟨hdc, h⟩

/-- An opener between its transactions is still there when one that is not makes a step. -/
theorem exists_second_update (hc : ∀ v, openers c ≠ .second v)
    (h : ∃ d v, openers d = .second v) : ∃ d v, Function.update openers c opener d = .second v := by
  obtain ⟨d, v, hd⟩ := h
  have hdc : d ≠ c := by
    rintro rfl
    exact hc v hd
  exact ⟨d, v, by rw [Function.update_of_ne hdc, hd]⟩

namespace Sound

theorem start (h : t.IsWritable) (hold : t.storedVersion < 1) :
    Sound t t fun _ => .creating where
  rows := .refl t
  writable := h
  versioned hc := (hc rfl).elim
  between hc := by cases hc
  tables hnew := absurd hold (Int.not_lt.mpr hnew)
  owed hnew := by omega
  indexed hnew := by omega
  ended hc := by cases hc

theorem create (h : Sound t t' openers) (hc : openers c = .creating) :
    Sound t t'.withVersionTable (Function.update openers c .looking) where
  rows := ⟨h.rows.audits, h.rows.records⟩
  writable := h.writable.withVersionTable
  versioned _ hnone := by cases hnone
  between hd := by
    rcases update_cases hd with ⟨-, hd⟩ | ⟨-, hd⟩
    · cases hd
    · exact h.between hd
  tables := by
    rw [Tables.storedVersion_withVersionTable]
    exact h.tables
  owed := by
    rw [Tables.storedVersion_withVersionTable]
    intro hone
    exact exists_second_update (fun v he => by cases hc.symm.trans he) (h.owed hone)
  indexed := by
    rw [Tables.storedVersion_withVersionTable]
    exact h.indexed
  ended hd := by
    rw [Tables.storedVersion_withVersionTable]
    rcases update_cases hd with ⟨-, hd⟩ | ⟨-, hd⟩
    · cases hd
    · exact h.ended hd

theorem look (h : Sound t t' openers) (hc : openers c = .looking) :
    Sound t t' (Function.update openers c (.next t'.storedVersion)) where
  rows := h.rows
  writable := h.writable
  versioned _ := h.versioned fun he => by cases hc.symm.trans he
  between hd := by
    rcases update_cases hd with ⟨-, hd⟩ | ⟨-, hd⟩
    · -- an opener is sent to its second transaction by the first version alone
      rcases Opener.next_cases t'.storedVersion with ⟨-, hnext⟩ | ⟨-, hnext⟩ | ⟨hone, -⟩
      · cases hnext.symm.trans hd
      · cases hnext.symm.trans hd
      · exact h.tables (Int.le_of_eq hone.symm)
    · exact h.between hd
  tables := h.tables
  owed hone := exists_second_update (fun v he => by cases hc.symm.trans he) (h.owed hone)
  indexed := h.indexed
  ended hd := by
    rcases update_cases hd with ⟨-, hd⟩ | ⟨-, hd⟩
    · rcases Opener.next_cases t'.storedVersion with ⟨htwo, hnext⟩ | ⟨-, hnext⟩ | ⟨-, hnext⟩
      · cases hnext.symm.trans hd
        exact ⟨⟨_, rfl⟩, Int.le_trans (by decide) htwo⟩
      · cases hnext.symm.trans hd
      · cases hnext.symm.trans hd
    · exact h.ended hd

theorem beginFirst (h : Sound t t' openers) (c : Connection) (v : Int) :
    Sound t t'.firstVersion (Function.update openers c (.second v)) where
  rows := h.rows.firstVersion
  writable := Tables.isWritable_firstVersion t'
  versioned _ hnone := by cases hnone
  between _ := Tables.hasBoth_firstVersion t'
  tables _ := Tables.hasBoth_firstVersion t'
  owed _ := ⟨c, v, Function.update_self ..⟩
  indexed htwo := absurd htwo (by rw [Tables.storedVersion_firstVersion]; decide)
  ended hd := by
    rcases update_cases hd with ⟨-, hd⟩ | ⟨-, hd⟩
    · cases hd
    · exact ⟨(h.ended hd).1, Int.le_refl 1⟩

theorem beginSecond (h : Sound t t' openers) {v : Int} (hc : openers c = .second v) :
    Sound t t'.secondVersion (Function.update openers c (.ended (.ok v))) where
  rows := ⟨h.rows.audits, h.rows.records⟩
  writable := Tables.isWritable_secondVersion (h.between hc).1
  versioned _ hnone := by cases hnone
  between _ := h.between hc
  tables _ := h.between hc
  owed hone := absurd hone (by rw [Tables.storedVersion_secondVersion]; decide)
  indexed _ := ⟨rfl, rfl⟩
  ended hd := by
    have hnew : 1 ≤ t'.secondVersion.storedVersion := by
      rw [Tables.storedVersion_secondVersion]
      decide
    rcases update_cases hd with ⟨-, hd⟩ | ⟨-, hd⟩
    · cases hd
      exact ⟨⟨v, rfl⟩, hnew⟩
    · exact ⟨(h.ended hd).1, hnew⟩

/-- Whatever step an opener makes, they may all rely on the tables as before. -/
theorem step (h : Sound t t' openers) (c : Connection) :
    ∃ opener t'', (openers c).step c ⟨t', none⟩ = (opener, ⟨t'', none⟩) ∧
      Sound t t'' (Function.update openers c opener) := by
  cases hc : openers c with
  | creating => exact ⟨_, _, Opener.step_creating, h.create hc⟩
  | looking =>
      have htable : t'.version ≠ none := h.versioned fun he => by cases hc.symm.trans he
      exact ⟨_, _, Opener.step_looking htable h.writable.version, h.look hc⟩
  | first v =>
      have htable : t'.version ≠ none := h.versioned fun he => by cases hc.symm.trans he
      exact ⟨_, _, Opener.step_first htable, h.beginFirst c v⟩
  | second v =>
      have htable : t'.version ≠ none := h.versioned fun he => by cases hc.symm.trans he
      exact ⟨_, _, Opener.step_second htable (h.between hc).1, h.beginSecond hc⟩
  | ended result =>
      refine ⟨_, _, rfl, ?_⟩
      rw [← hc, Function.update_eq_self]
      exact h

/-- The second version with both tables there is the current one. -/
theorem eq_current (h : Sound t t' openers) (hcurrent : 2 ≤ t'.storedVersion) :
    t' = t.current := by
  obtain ⟨htwo, hindexed⟩ := h.indexed hcurrent
  have hboth := h.tables (Int.le_trans (by decide) hcurrent)
  rw [← h.rows.secondVersion_eq hboth, Tables.secondVersion_eq_self htwo hindexed]

/-- Wherever the openers stopped, a migration makes the current version of the tables. -/
theorem migrate_eq (h : Sound t t' openers) (c : Connection) :
    (⟨t', none⟩ : Database).migrate c = (.ok t'.storedVersion, ⟨t.current, none⟩) := by
  have hstuck : ¬ t'.IsStuck := fun hstuck =>
    (h.tables (Int.le_of_eq hstuck.1.symm)).1 hstuck.2
  have hmigrated : t'.migrated = t.current := by
    rcases Opener.next_cases t'.storedVersion with ⟨hcurrent, -⟩ | ⟨hold, -⟩ | ⟨hone, -⟩
    · rw [Tables.migrated_of_current hcurrent]
      exact h.eq_current hcurrent
    · rw [Tables.migrated_of_old hold]
      exact h.rows.firstVersion.secondVersion_eq (Tables.hasBoth_firstVersion t')
    · have hboth := h.tables (Int.le_of_eq hone.symm)
      rw [Tables.migrated_of_first hone, if_neg hboth.1]
      exact h.rows.secondVersion_eq hboth
  rw [Database.migrate_eq c h.writable, if_neg hstuck, hmigrated]

end Sound

theorem sound_play (race : Race) (hfree : race.db.pending = none)
    (h : Sound t race.db.committed race.openers) (schedule : List Connection) :
    (race.play schedule).db.pending = none ∧
      Sound t (race.play schedule).db.committed (race.play schedule).openers := by
  induction schedule generalizing race with
  | nil => exact ⟨hfree, h⟩
  | cons c rest ih =>
      obtain ⟨⟨t', pending⟩, openers⟩ := race
      obtain rfl : pending = none := hfree
      obtain ⟨opener, t'', hstep, hsound⟩ := h.step c
      refine ih _ ?_ ?_
      · rw [advance]
        simp only [hstep]
      · rw [advance]
        simp only [hstep]
        exact hsound

end Race

namespace Database

variable {t : Tables}

/-- Migrations of a database that can be written, whatever version it holds and whatever is there.
No row is lost.  The current version and later ones are left as they are.  From a version before the
first the current one is reached with all rows, and it takes no second record of a pair; from the
first the index is added if there are audits, and otherwise the migration fails and leaves all as it
was.  A second migration changes nothing, and however many steps of one were made before it was cut
off, the next one comes to the same.  Any number of openers, whose steps follow one another in any
order, keep all rows and do not fail; once one of them is through and none is between its
transactions the version is the current one, and before that one further migration leads there. -/
theorem migrates (h : t.IsWritable) (c : Connection) :
    t.KeepsRows ((⟨t, none⟩ : Database).migrate c).2.committed ∧
      (2 ≤ t.storedVersion →
        (⟨t, none⟩ : Database).migrate c = (.ok t.storedVersion, ⟨t, none⟩)) ∧
      (t.storedVersion < 1 →
        (⟨t, none⟩ : Database).migrate c = (.ok t.storedVersion, ⟨t.current, none⟩) ∧
          ∀ row, ∀ other ∈ t.records.getD [], other.auditId = row.auditId →
            other.tier = row.tier →
              ∃ columns, Tables.insertNewRecord row t.current = .error (.notUnique columns)) ∧
      (t.storedVersion = 1 →
        (t.audits ≠ none →
          (⟨t, none⟩ : Database).migrate c = (.ok 1, ⟨t.secondVersion, none⟩)) ∧
          (t.audits = none →
            ∃ fault, (⟨t, none⟩ : Database).migrate c = (.error fault, ⟨t, none⟩))) ∧
      (∀ d, let once := (⟨t, none⟩ : Database).migrate c
        (once.2.migrate d).2 = once.2 ∧ (once.2.migrate d).1.isOk = once.1.isOk) ∧
      (∀ n d, let cut := (Opener.run c n .creating ⟨t, none⟩).2
        (cut.migrate d).2 = ((⟨t, none⟩ : Database).migrate c).2 ∧
          (cut.migrate d).1.isOk = ((⟨t, none⟩ : Database).migrate c).1.isOk) ∧
      (t.storedVersion < 1 → ∀ schedule, let race := (Race.start t).play schedule
        race.db.pending = none ∧ t.KeepsRows race.db.committed ∧
          (∀ d result, race.openers d = .ended result → ∃ v, result = .ok v) ∧
          ((∃ d, (race.openers d).hasEnded = true) →
            (∀ d, (race.openers d).isBetween = false) → race.db = ⟨t.current, none⟩) ∧
          ∀ d, ∃ v, race.db.migrate d = (.ok v, ⟨t.current, none⟩)) := by
  refine ⟨?rows, ?current, ?old, ?first, ?again, ?cut, ?race⟩
  case rows =>
    rw [migrate_eq c h]
    exact Tables.keepsRows_migrated t
  case current =>
    intro hcurrent
    have hstuck : ¬ t.IsStuck := fun hstuck => absurd hstuck.1 (by omega)
    rw [migrate_eq c h, if_neg hstuck, Tables.migrated_of_current hcurrent]
  case old =>
    intro hold
    have hstuck : ¬ t.IsStuck := fun hstuck => absurd hstuck.1 (by omega)
    refine ⟨?_, fun row other hother hid htier =>
      ⟨_, Tables.insertNewRecord_current hother hid htier⟩⟩
    rw [migrate_eq c h, if_neg hstuck, Tables.migrated_of_old hold]
  case first =>
    intro hone
    rw [migrate_eq c h, Tables.migrated_of_first hone]
    refine ⟨fun haudits => ?_, fun haudits => ?_⟩
    · rw [if_neg fun hstuck => haudits hstuck.2, if_neg haudits, hone]
    · rw [if_pos ⟨hone, haudits⟩, if_pos haudits]
      exact ⟨_, rfl⟩
  case again =>
    intro d
    have hcut := migrate_run h c d 4
    rw [Opener.run_creating] at hcut
    exact hcut
  case cut =>
    exact fun n d => migrate_run h c d n
  case race =>
    intro hold schedule
    obtain ⟨hfree, hsound⟩ :=
      Race.sound_play (.start t) rfl (Race.Sound.start h hold) schedule
    rcases hrace : (Race.start t).play schedule with ⟨⟨t', pending⟩, openers⟩
    rw [hrace] at hfree hsound
    obtain rfl : pending = none := hfree
    refine ⟨rfl, hsound.rows, fun d result hd => (hsound.ended hd).1, ?_,
      fun d => ⟨_, hsound.migrate_eq d⟩⟩
    rintro ⟨d, hended⟩ hbetween
    obtain ⟨result, hd⟩ := Opener.hasEnded_iff.mp hended
    have hnew : 1 ≤ t'.storedVersion := (hsound.ended hd).2
    have hne : t'.storedVersion ≠ 1 := fun hone => by
      obtain ⟨e, v, he⟩ := hsound.owed hone
      have hnot := hbetween e
      rw [he] at hnot
      cases hnot
    have hcurrent : 2 ≤ t'.storedVersion := by omega
    have heq : t' = t.current := hsound.eq_current hcurrent
    show (⟨t', none⟩ : Database) = _
    rw [heq]

/-- Two openers find a table of records, with one row, and nothing else.  Both read that there is no
version.  One goes through with its migration; then the other runs its first transaction, and the
version falls back.  With its second transaction the version is the current one again, and the row
is still there. -/
theorem migrates_sample :
    let t : Tables := ⟨none, some [⟨"a", "3d", "2024-01-12T00:00:00.000Z"⟩], none, false⟩
    t.IsWritable ∧ t.storedVersion < 1 ∧
      ((Race.start t).play [0, 0, 1, 1, 0, 0]).db = ⟨t.current, none⟩ ∧
      ((Race.start t).play [0, 0, 1, 1, 0, 0, 1]).db.committed.storedVersion = 1 ∧
      ((Race.start t).play [0, 0, 1, 1, 0, 0, 1, 1]).db = ⟨t.current, none⟩ := by
  intro t
  have h : t.IsWritable := ⟨fun hindexed => (by cases hindexed), by decide⟩
  have hold : t.storedVersion < 1 := by decide
  obtain ⟨-, -, -, -, -, -, hrace⟩ := migrates h 0
  have hidle (schedule : List Connection) (hall : ∀ d ∈ schedule,
      (((Race.start t).play schedule).openers d).isBetween = false) (d : Connection) :
      (((Race.start t).play schedule).openers d).isBetween = false := by
    by_cases hd : d ∈ schedule
    · exact hall d hd
    · rw [Race.openers_play _ hd]
      rfl
  have hfirst := (hrace hold [0, 0, 1, 1, 0, 0]).2.2.2.1 ⟨0, by decide +kernel⟩
  have hboth := (hrace hold [0, 0, 1, 1, 0, 0, 1, 1]).2.2.2.1 ⟨0, by decide +kernel⟩
  exact ⟨h, hold, hfirst (hidle _ (by decide +kernel)), by decide +kernel,
    hboth (hidle _ (by decide +kernel))⟩

end Database

end AuditReminder
