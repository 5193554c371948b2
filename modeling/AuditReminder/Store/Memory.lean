/-
A store in memory.

Audits are kept in the order of their ids, one for each id, and records in the order in which they
were claimed, one for each pair.  Nothing here fails but adding an audit that is not valid.
-/
import AuditReminder.Store.Backend

namespace AuditReminder

/-- Audits by id, and the records of claimed pairs. -/
structure Memory where
  audits : List Audit
  records : List Record
deriving DecidableEq

namespace Memory

def empty : Memory := ⟨[], []⟩

/-- Puts an audit at the place of its id; an audit of that id gives way to it. -/
def place (audit : Audit) : List Audit → List Audit
  | [] => [audit]
  | head :: rest =>
      if audit.id < head.id then audit :: head :: rest
      else if audit.id = head.id then audit :: rest
      else head :: place audit rest

/-- Adds an audit, or replaces the one of its id. -/
def add (store : Memory) (audit : Audit) : Except AuditFault Memory :=
  match audit.fault? with
  | some fault => .error fault
  | none => .ok { store with audits := place audit store.audits }

/-- The open audits, the soonest deadline first. -/
def openAudits (store : Memory) : List Audit :=
  (store.audits.filter Audit.isOpen).mergeSort Audit.listedBefore

/-- Whether a pair has a record. -/
def isClaimed (store : Memory) (id : AuditId) (tier : String) : Bool :=
  store.records.any fun r => r.auditId == id && r.tier == tier

/-- The tiers that have a record for an audit. -/
def sentTiers (store : Memory) (id : AuditId) : NameSet :=
  .ofList ((store.records.filter (·.auditId == id)).map (·.tier))

/-- Records a pair unless it is recorded. -/
def claim (store : Memory) (id : AuditId) (tier : String) (now : Instant) : Bool × Memory :=
  if store.isClaimed id tier then (false, store)
  else (true, { store with records := store.records ++ [⟨id, tier, now⟩] })

/-- Removes the record of a pair. -/
def release (store : Memory) (id : AuditId) (tier : String) : Memory :=
  { store with records := store.records.filter fun r => !(r.auditId == id && r.tier == tier) }

/-- Closes an audit and removes its records; tells whether there is such an audit. -/
def close (store : Memory) (id : AuditId) : Bool × Memory :=
  (store.audits.any (·.id == id),
    { audits := store.audits.map fun a => if a.id == id then a.close else a
      records := store.records.filter (·.auditId != id) })

/-- The records of an audit, in the order in which they are listed. -/
def recordsOf (store : Memory) (id : AuditId) : List Record :=
  (store.records.filter (·.auditId == id)).mergeSort Record.listedBefore

/-- The store as a pass sees it. -/
def backend : Backend Memory where
  listOpen store := .ok store.openAudits
  sentTiers store id := .ok (store.sentTiers id)
  claim store id tier now :=
    let (claimed, store) := store.claim id tier now
    (.ok claimed, store)
  release store id tier := (.ok (), store.release id tier)

end Memory

end AuditReminder
