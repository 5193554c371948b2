/-
Stores with their laws.

`SharedStore` is a store that many passes work on at once, each over a connection of its own.
`RecordStore` is a store seen over one connection, where reading is exact.  The store in memory and
the database are both, and what is proved of passes is proved of every such store.
-/
import AuditReminder.Proofs.Store.Keyed

namespace AuditReminder

/-! ## Stores -/

/-- A store that many connections work on. -/
structure SharedStore where
  State : Type
  backend : Connection → Backend State
  ledger : Ledger State
  keeps : ∀ c, (backend c).Keeps ledger

namespace SharedStore

/-- All who use the store in memory use the same one. -/
def memory : SharedStore := ⟨Memory, fun _ => Memory.backend, Memory.ledger, fun _ => Memory.keeps⟩

def database : SharedStore :=
  ⟨Database, Database.backend, Database.sharedLedger, Database.keeps_shared⟩

end SharedStore

/-- A store as it is seen over one connection. -/
structure RecordStore where
  State : Type
  backend : Backend State
  ledger : Ledger State
  keeps : backend.Keeps ledger
  shows : backend.Shows ledger
  /-- No two audits have one id. -/
  Keyed : State → Prop
  distinct {s : State} {audits : List Audit} :
    Keyed s → backend.listOpen s = .ok audits → (audits.map Audit.id).Nodup

namespace RecordStore

def memory : RecordStore where
  State := Memory
  backend := Memory.backend
  ledger := Memory.ledger
  keeps := Memory.keeps
  shows := Memory.shows
  Keyed := Memory.Keyed
  distinct h hl := by
    cases hl
    exact Memory.nodup_openAudits h

def database (c : Connection) : RecordStore where
  State := Database
  backend := Database.backend c
  ledger := Database.ledger c
  keeps := Database.keeps c
  shows := Database.shows c
  Keyed := Database.Keyed
  distinct h hl := Tables.nodup_listOpen (Database.keyed_view h c) hl

/-- The rows that the store holds. -/
abbrev rows (store : RecordStore) (s : store.State) : List store.ledger.Row := store.ledger.rows s

end RecordStore

/-! ## Samples -/

/-- The last day before 1970. -/
def Instant.eve : Instant :=
  { epoch with second := -86_400, inRange := by decide }

/-- An audit of one day that ends with the first instant of 1970. -/
def Audit.sample : Audit := ⟨"a", "g", .ofList ["o"], .eve, .epoch, .open⟩

/-- A store that holds the audit and no records. -/
def Memory.sample : Memory := ⟨[.sample], []⟩

theorem Memory.listOpen_sample : backend.listOpen sample = .ok [Audit.sample] :=
  congrArg Except.ok (List.mergeSort_singleton _)

/-- One tier, reached at the deadline. -/
def Plan.sample : Plan := ⟨⟨[⟨"overdue", 0, .reminder⟩]⟩, Plan.default.horizon⟩

/-- The events of a pass that sends this tier. -/
def Pass.sampleTrace (now : Instant) : List Event :=
  let request : Request := .of .sample ⟨"overdue", 0, .reminder⟩ (daysLeft now .epoch)
  [⟨.note (.started now), ()⟩, ⟨.listOpen, .ok [.sample]⟩, ⟨.sentTiers "a", .ok .empty⟩,
    ⟨.claim "a" "overdue" now, .ok true⟩, ⟨.deliver request, .sent⟩, ⟨.note (.sent request), ()⟩,
    ⟨.note (.finished 1 0 1 0 0), ()⟩]

theorem Pass.smoothAll_sampleTrace (now : Instant) :
    RecordStore.memory.backend.SmoothAll Memory.sample (sampleTrace now)
      (⟨[.sample], [⟨"a", "overdue", now⟩]⟩ : Memory) :=
  .cons (.noted _) (.cons (.listed Memory.listOpen_sample) (.cons (.read rfl) (.cons (.claimed rfl)
    (.cons (.delivered _) (.cons (.noted _) (.cons (.noted _) (.nil _)))))))

end AuditReminder
