/-
The steps of a pass.

A pass is a program of single operations: it asks the store to list, read, claim or release, asks
for one reminder to be delivered, or notes what it does.  `Program` is the tree of what it may do
next, one branch for each answer, so passes can be run one after the other or step by step among
others.  Main definitions: `Ask`, `Ask.Answer`, `Program` and `Program.run`.
-/
import AuditReminder.Outbox
import AuditReminder.Store.Fault

namespace AuditReminder

/-- What a pass notes of itself. -/
inductive PassEvent where
  | started (now : Instant)
  | listingFailed (fault : StoreFault)
  | expired (id : AuditId) (endsAt : Instant)
  | readingFailed (id : AuditId) (fault : StoreFault)
  | alreadyClaimed (id : AuditId) (tier : String)
  | claimFailed (id : AuditId) (tier : String) (fault : StoreFault)
  | sent (request : Request)
  | released (id : AuditId) (tier reason : String)
  | retained (id : AuditId) (tier reason : String) (fault : StoreFault)
  | finished (scanned expired sent skipped failed : Nat)
deriving DecidableEq

/-- How the delivery of one reminder ends. -/
inductive Delivery where
  | sent
  | renderFailed (fault : RenderFault)
  | sendFailed (fault : DeliveryFault)
  /-- The deadline has no text in the date pattern; the pass ends where it stands. -/
  | halted
deriving DecidableEq

/-- One operation that a pass asks for. -/
inductive Ask where
  | listOpen
  | sentTiers (id : AuditId)
  | claim (id : AuditId) (tier : String) (now : Instant)
  | deliver (request : Request)
  | release (id : AuditId) (tier : String)
  | note (event : PassEvent)
deriving DecidableEq

/-- What an operation answers. -/
def Ask.Answer : Ask → Type
  | .listOpen => Except StoreFault (List Audit)
  | .sentTiers _ => Except StoreFault NameSet
  | .claim _ _ _ => Except StoreFault Bool
  | .deliver _ => Delivery
  | .release _ _ => Except StoreFault Unit
  | .note _ => Unit

/-- Operations in order, each with what follows on every answer. -/
inductive Program (α : Type) where
  | done (value : α)
  | step (ask : Ask) (next : ask.Answer → Program α)

namespace Program

/-- One program after another. -/
def bind : Program α → (α → Program β) → Program β
  | .done value, f => f value
  | .step ask next, f => .step ask fun answer => (next answer).bind f

instance : Monad Program where
  pure := .done
  bind := bind

/-- A single operation. -/
def ask (a : Ask) : Program a.Answer := .step a .done

/-- Notes an event. -/
def note (event : PassEvent) : Program Unit := ask (.note event)

/-- Answers an operation and moves on to another state. -/
abbrev Handler (σ : Type) := (a : Ask) → σ → a.Answer × σ

/-- Carries a program out, one operation after the other. -/
def run (handle : Handler σ) : Program α → σ → α × σ
  | .done value, s => (value, s)
  | .step ask next, s =>
      let (answer, s) := handle ask s
      (next answer).run handle s

@[simp] theorem run_done (handle : Handler σ) (value : α) (s : σ) :
    (Program.done value).run handle s = (value, s) := rfl

@[simp] theorem run_step (handle : Handler σ) (ask : Ask) (next : ask.Answer → Program α) (s : σ) :
    (Program.step ask next).run handle s =
      (next (handle ask s).1).run handle (handle ask s).2 := rfl

/-- Running one program after another runs the second from where the first ends. -/
theorem run_bind (handle : Handler σ) (p : Program α) (f : α → Program β) (s : σ) :
    (p.bind f).run handle s = (f (p.run handle s).1).run handle (p.run handle s).2 := by
  induction p generalizing s with
  | done value => rfl
  | step ask next ih => exact ih _ _

/-- Carries a program out in a monad. -/
def runIn [Monad m] (handle : (a : Ask) → m a.Answer) : Program α → m α
  | .done value => pure value
  | .step ask next => do
      let answer ← handle ask
      (next answer).runIn handle

/-- Carrying a program out among states is the same as handing the state along. -/
theorem runIn_state (handle : Handler σ) (p : Program α) (s : σ) :
    (p.runIn (m := StateM σ) handle).run s = p.run handle s := by
  induction p generalizing s with
  | done value => rfl
  | step ask next ih => exact ih _ _

end Program

end AuditReminder
