/-
The order that a pass keeps with its claims.

Between two operations a pass is free, or holds a pair that it has claimed and not settled yet.
While it holds one it does nothing else:

    free          claim answered yes        claimed p
    claimed p     delivery failed           failed p
    claimed p     delivery sent or halted   free
    failed p      release answered          free

Listing, reading, claiming and noting are done when free, a delivery is for the claimed pair, and
only a pair whose delivery failed is released.  `Program.Orderly now` says this of a program from
its tree alone, whatever it is answered, and also that it claims at the instant `now`.

Main statements: every pass is orderly (`Pass.orderly_program`), and `Ledger.Moves` lists all that
an orderly program can do to the rows of a ledger, one constructor for each kind of event
(`Ledger.moves_of_admits`).  The modules that follow split on `Moves`; for what becomes of records
none of them looks into a pass again.
-/
import AuditReminder.Proofs.Store.Ledger

namespace AuditReminder

/-! ## Events of a dispatch -/

namespace Event

/-- A delivery of the pair that the sender took. -/
def isSendOf (p : Pair) : Event → Bool
  | ⟨.deliver request, .sent⟩ => request.pair == p
  | _ => false

/-- Part of a dispatch of the pair: a claim of it that succeeds, a delivery, a release. -/
def IsDispatchOf (p : Pair) : Event → Prop
  | ⟨.claim id tier _, .ok true⟩ => (id, tier) = p
  | ⟨.deliver request, _⟩ => request.pair = p
  | ⟨.release id tier, _⟩ => (id, tier) = p
  | _ => False

end Event

/-- A delivery that failed and left the pass running. -/
def Delivery.Fails : Delivery → Prop
  | .renderFailed _ => True
  | .sendFailed _ => True
  | _ => False

/-! ## Phases -/

/-- What a pass has in hand. -/
inductive Phase where
  | free
  /-- Claimed, and not delivered yet. -/
  | claimed (pair : Pair)
  /-- The delivery failed, and the claim is not released yet. -/
  | failed (pair : Pair)
deriving DecidableEq

namespace Phase

/-- The pair in hand. -/
def pair? : Phase → Option Pair
  | free => none
  | claimed pair => some pair
  | failed pair => some pair

/-- What is in hand after an event. -/
def after (phase : Phase) : Event → Phase
  | ⟨.claim id tier _, .ok true⟩ => claimed (id, tier)
  | ⟨.deliver _, .sent⟩ => free
  | ⟨.deliver _, .halted⟩ => free
  | ⟨.deliver request, .renderFailed _⟩ => failed request.pair
  | ⟨.deliver request, .sendFailed _⟩ => failed request.pair
  | ⟨.release _ _, _⟩ => free
  | _ => phase

/-- What may be asked for next. -/
def Admits (now : Instant) : Phase → Ask → Prop
  | free, .listOpen => True
  | free, .sentTiers _ => True
  | free, .claim _ _ instant => instant = now
  | free, .note _ => True
  | claimed pair, .deliver request => request.pair = pair
  | failed pair, .release id tier => (id, tier) = pair
  | _, _ => False

end Phase

namespace Program

variable {α β : Type} {now : Instant} {phase : Phase}

/-- From the phase on, a program asks only for what is admitted, and it ends free. -/
def Orderly (now : Instant) : Program α → Phase → Prop
  | .done _, phase => phase = .free
  | .step ask next, phase =>
      phase.Admits now ask ∧ ∀ answer, (next answer).Orderly now (phase.after ⟨ask, answer⟩)

theorem orderly_done (v : α) : (Program.done v).Orderly now .free := rfl

theorem orderly_bind {p : Program α} {f : α → Program β} (hp : p.Orderly now phase)
    (hf : ∀ v, (f v).Orderly now .free) : (p.bind f).Orderly now phase := by
  induction p generalizing phase with
  | done v =>
      obtain rfl : phase = .free := hp
      exact hf v
  | step ask next ih => exact ⟨hp.1, fun answer => ih answer (hp.2 answer)⟩

theorem orderly_ask {a : Ask} {f : a.Answer → Program β} (ha : phase.Admits now a)
    (hf : ∀ answer, (f answer).Orderly now (phase.after ⟨a, answer⟩)) :
    ((ask a).bind f).Orderly now phase :=
  ⟨ha, hf⟩

/-- A note needs free hands and leaves them free. -/
theorem orderly_note {event : PassEvent} {f : Unit → Program α}
    (h : (f ()).Orderly now .free) : ((note event).bind f).Orderly now .free :=
  orderly_ask trivial fun _ => h

end Program

namespace Pass

open Program

variable {plan : Plan} {now : Instant}

theorem orderly_rollBack (id : AuditId) (tier reason : String) :
    (rollBack id tier reason).Orderly now (.failed (id, tier)) := by
  refine orderly_ask rfl fun answer => ?_
  cases answer with
  | ok done => exact orderly_note (orderly_done _)
  | error fault => exact orderly_note (orderly_done _)

theorem orderly_deliverClaimed (request : Request) :
    (deliverClaimed request).Orderly now (.claimed request.pair) := by
  refine orderly_ask rfl fun delivery => ?_
  cases delivery with
  | sent => exact orderly_note (orderly_done _)
  | renderFailed fault => exact orderly_bind (orderly_rollBack _ _ _) fun _ => orderly_done _
  | sendFailed fault => exact orderly_bind (orderly_rollBack _ _ _) fun _ => orderly_done _
  | halted => exact orderly_done _

theorem orderly_dispatch (audit : Audit) (daysLeft : Int) (tier : Tier) :
    (dispatch now audit daysLeft tier).Orderly now .free := by
  refine orderly_ask rfl fun answer => ?_
  rcases answer with fault | claimed
  · exact orderly_note (orderly_done _)
  · cases claimed with
    | false => exact orderly_note (orderly_done _)
    | true => exact orderly_deliverClaimed (.of audit tier daysLeft)

theorem orderly_dispatchAll (audit : Audit) (daysLeft : Int) (tiers : List Tier) :
    (dispatchAll now audit daysLeft tiers).Orderly now .free := by
  induction tiers with
  | nil => exact orderly_done _
  | cons tier rest ih =>
      refine orderly_bind (orderly_dispatch audit daysLeft tier) fun status => ?_
      rcases status with stop | status
      · exact orderly_done _
      · refine orderly_bind ih fun outcomes => ?_
        rcases outcomes with stop | outcomes <;> exact orderly_done _

theorem orderly_handle (audit : Audit) : (handle plan now audit).Orderly now .free := by
  refine orderly_ask trivial fun answer => ?_
  rcases answer with fault | sent
  · exact orderly_note (orderly_done _)
  · exact orderly_dispatchAll audit _ _

theorem orderly_scan (report : Report) (audits : List Audit) :
    (scan plan now report audits).Orderly now .free := by
  induction audits generalizing report with
  | nil => exact orderly_done _
  | cons audit rest ih =>
      rw [scan]
      split
      · exact ih report
      · split
        · exact orderly_note (ih _)
        · refine orderly_bind (orderly_handle audit) fun result => ?_
          rcases result with stop | outcomes
          · exact orderly_done _
          · exact ih _

/-- Every pass is orderly, whatever its plan. -/
theorem orderly_program : (program plan now).Orderly now .free := by
  refine orderly_note (orderly_ask trivial fun answer => ?_)
  rcases answer with fault | audits
  · exact orderly_note (orderly_done _)
  · refine orderly_bind (orderly_scan _ audits) fun result => ?_
    rcases result with stop | report
    · exact orderly_done _
    · exact orderly_note (orderly_done _)

end Pass

/-! ## Moves -/

namespace Ledger

variable {σ : Type}

/-- `l.Moves now phase rows e phase' rows'`: in a phase, with some rows in the ledger, an event that
the phase admits leads to another phase and other rows. -/
inductive Moves (l : Ledger σ) (now : Instant) :
    Phase → List l.Row → Event → Phase → List l.Row → Prop
  | noted {rows : List l.Row} (event : PassEvent) :
      Moves l now .free rows ⟨.note event, ()⟩ .free rows
  | listed {rows : List l.Row} (answer : Except StoreFault (List Audit)) :
      Moves l now .free rows ⟨.listOpen, answer⟩ .free rows
  | read {rows : List l.Row} (id : AuditId) (answer : Except StoreFault NameSet) :
      Moves l now .free rows ⟨.sentTiers id, answer⟩ .free rows
  | claimed {rows : List l.Row} (id : AuditId) (tier : String) :
      ¬ l.Has rows (id, tier) →
      Moves l now .free rows ⟨.claim id tier now, .ok true⟩ (.claimed (id, tier))
        (rows ++ [l.entry (id, tier) now])
  | lost {rows : List l.Row} (id : AuditId) (tier : String) :
      l.Has rows (id, tier) →
      Moves l now .free rows ⟨.claim id tier now, .ok false⟩ .free rows
  | refused {rows : List l.Row} (id : AuditId) (tier : String) (fault : StoreFault) :
      Moves l now .free rows ⟨.claim id tier now, .error fault⟩ .free rows
  | sent {rows : List l.Row} (request : Request) :
      Moves l now (.claimed request.pair) rows ⟨.deliver request, .sent⟩ .free rows
  | halted {rows : List l.Row} (request : Request) :
      Moves l now (.claimed request.pair) rows ⟨.deliver request, .halted⟩ .free rows
  | unsent {rows : List l.Row} (request : Request) {delivery : Delivery} :
      delivery.Fails →
      Moves l now (.claimed request.pair) rows ⟨.deliver request, delivery⟩
        (.failed request.pair) rows
  | released {rows : List l.Row} (id : AuditId) (tier : String) :
      Moves l now (.failed (id, tier)) rows ⟨.release id tier, .ok ()⟩ .free
        (l.without rows (id, tier))
  | retained {rows : List l.Row} (id : AuditId) (tier : String) (fault : StoreFault) :
      Moves l now (.failed (id, tier)) rows ⟨.release id tier, .error fault⟩ .free rows

/-- An admitted operation on a store that keeps a ledger is a move. -/
theorem moves_of_admits {l : Ledger σ} {now : Instant} {phase : Phase} {ask : Ask}
    {answer : ask.Answer} {rows rows' : List l.Row} (ha : phase.Admits now ask)
    (ht : l.Takes rows ⟨ask, answer⟩ rows') :
    l.Moves now phase rows ⟨ask, answer⟩ (phase.after ⟨ask, answer⟩) rows' := by
  cases phase with
  | free =>
      cases ask with
      | listOpen =>
          obtain rfl : rows' = rows := ht
          exact .listed answer
      | sentTiers id =>
          obtain rfl : rows' = rows := ht
          exact .read id answer
      | note event =>
          obtain rfl : rows' = rows := ht
          exact .noted event
      | claim id tier instant =>
          obtain rfl : instant = now := ha
          rcases answer with fault | claimed
          · obtain rfl : rows' = rows := ht
            exact .refused id tier fault
          · cases claimed with
            | false =>
                obtain ⟨htaken, rfl⟩ := ht
                exact .lost id tier htaken
            | true =>
                obtain ⟨hfree, rfl⟩ := ht
                exact .claimed id tier hfree
      | deliver request => exact ha.elim
      | release id tier => exact ha.elim
  | claimed pair =>
      cases ask with
      | deliver request =>
          obtain rfl : request.pair = pair := ha
          obtain rfl : rows' = rows := by cases answer <;> exact ht
          cases answer with
          | sent => exact .sent request
          | renderFailed fault => exact .unsent request trivial
          | sendFailed fault => exact .unsent request trivial
          | halted => exact .halted request
      | listOpen | sentTiers | claim | release | note => exact ha.elim
  | failed pair =>
      cases ask with
      | release id tier =>
          obtain rfl : (id, tier) = pair := ha
          rcases answer with fault | done
          · obtain rfl : rows' = rows := ht
            exact .retained id tier fault
          · obtain rfl : rows' = l.without rows (id, tier) := ht
            exact .released id tier
      | listOpen | sentTiers | claim | deliver | note => exact ha.elim

end Ledger

end AuditReminder
