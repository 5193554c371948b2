/-
What a pass asks of a store.

A store lists the audits that are open, and keeps one record for each pair of an audit and a tier
that has been claimed.  Claiming inserts the record if it is absent, so of all callers for one
pair one succeeds; releasing removes it, and removing an absent record is no fault.  A fault
leaves the store as it was.
-/
import AuditReminder.Dispatch
import AuditReminder.Store.Fault

namespace AuditReminder

/-- The operations of a store whose states are `σ`. -/
structure Backend (σ : Type) where
  listOpen : σ → Except StoreFault (List Audit)
  sentTiers : σ → AuditId → Except StoreFault NameSet
  /-- Whether the pair was free and now is claimed. -/
  claim : σ → AuditId → String → Instant → Except StoreFault Bool × σ
  release : σ → AuditId → String → Except StoreFault Unit × σ

namespace Backend

/-- Whether a tier has been claimed for an audit. -/
def alreadySent (backend : Backend σ) (store : σ) (id : AuditId) (tier : String) :
    Except StoreFault Bool :=
  (backend.sentTiers store id).map fun sent => decide (tier ∈ sent)

/-- Claims a pair; a pair that is taken is a fault. -/
def recordSent (backend : Backend σ) (store : σ) (id : AuditId) (tier : String) (now : Instant) :
    Except ClaimFault Unit × σ :=
  match backend.claim store id tier now with
  | (.ok true, store) => (.ok (), store)
  | (.ok false, store) => (.error (.alreadyRecorded id tier), store)
  | (.error fault, store) => (.error (.store fault), store)

end Backend

end AuditReminder
