/-
Rehearsals.

A rehearsal runs a pass with failures planned beforehand: a store that refuses some operations or
answers with what it knew long ago, and senders that fail for some recipients.  What a refused
operation would have changed stays as it was.
-/
import AuditReminder.Pass.Basic
import AuditReminder.Store.Database

namespace AuditReminder

/-- The operations of a store that are to fail. -/
structure Mishaps where
  /-- Listing open audits fails. -/
  audits : Bool
  /-- Reading the tiers sent fails. -/
  reads : Bool
  /-- Reading the tiers sent answers that none is. -/
  stale : Bool
  /-- Claiming this tier fails. -/
  claimOf : Option String
  /-- Releasing a claim fails. -/
  release : Bool
deriving DecidableEq

namespace Mishaps

def none : Mishaps := ⟨false, false, false, .none, false⟩

/-- A store with some operations failing. -/
def apply (m : Mishaps) (backend : Backend σ) : Backend σ where
  listOpen store :=
    if m.audits then .error (.unavailable "connection refused") else backend.listOpen store
  sentTiers store id :=
    if m.reads then .error .locked
    else if m.stale then .ok .empty
    else backend.sentTiers store id
  claim store id tier now :=
    if m.claimOf = some tier then (.error (.queryFailed (.refused "claim refused")), store)
    else backend.claim store id tier now
  release store id tier :=
    if m.release then (.error .locked, store) else backend.release store id tier

end Mishaps

namespace Rehearsal

/-- A database that lists every audit as if it were open. -/
def listingAll (c : Connection) : Backend Database :=
  { Database.backend c with listOpen := fun db => (db.view c).listAudits }

/-- Sends nothing. -/
def noConnection : SendMessage Sink := fun _ sink =>
  (.error (.transport "connection reset"), sink)

/-- Sends to all recipients unless one of them is on a list. -/
def failingFor (addresses : List String) : SendMessage Sink := fun message sink =>
  if addresses.any fun a => decide (a ∈ message.recipients) then
    (.error (.transport "mailbox full"), sink)
  else sink.send message

/-- Renders nothing. -/
def noTemplates : RenderNotice := fun _ => .error (.fault (.unknownVariable "owner"))

end Rehearsal

end AuditReminder
