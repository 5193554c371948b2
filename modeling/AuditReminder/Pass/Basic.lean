/-
A pass.

One pass goes through the open audits that are not long past, asks the schedule which tiers are
due, and claims each of them before its reminder goes out.  A reminder that cannot be rendered or
delivered has its claim released, so that it falls due again.  A fault of the store in listing,
reading or claiming ends the pass; a fault in releasing does not.  Main definitions: `Plan`,
`Pass.program` and `Pass.run`.
-/
import AuditReminder.Pass.Program
import AuditReminder.Pass.Report
import AuditReminder.Store.Backend

namespace AuditReminder

/-- What a pass goes by: a schedule, and how long past its deadline an audit is looked at. -/
structure Plan where
  schedule : Schedule
  horizon : Span
deriving DecidableEq

/-- How many days past its deadline an audit is looked at unless told otherwise. -/
def defaultHorizonDays : Int := 30

namespace Plan

/-- The default schedule, and thirty days. -/
def default : Plan := ⟨.default, ⟨defaultHorizonDays * secondsPerDay * nanosPerSecond⟩⟩

/-- An audit is long past once its horizon lies before now; a horizon past the end of time never
does. -/
def isExpired (plan : Plan) (now : Instant) (audit : Audit) : Bool :=
  match audit.endsAt.shift? plan.horizon with
  | some end? => end? < now
  | none => false

end Plan

/-- Why a pass ends before it is through. -/
inductive PassStop where
  | aborted (fault : StoreFault)
  /-- A deadline could not be printed. -/
  | halted
deriving DecidableEq

namespace Pass

open Program

/-- Gives a claim back after a failure. -/
def rollBack (id : AuditId) (tier reason : String) : Program Status := do
  match ← ask (.release id tier) with
  | .ok () =>
      note (.released id tier reason)
      return .failedRolledBack reason
  | .error fault =>
      note (.retained id tier reason fault)
      return .failedClaimRetained (reason ++ "; release failed: " ++ fault.message)

/-- Delivers a claimed reminder, and gives the claim back if that fails. -/
def deliverClaimed (request : Request) : Program (Except PassStop Status) := do
  match ← ask (.deliver request) with
  | .sent =>
      note (.sent request)
      return .ok .sent
  | .renderFailed fault =>
      let status ← rollBack request.auditId request.tier ("render failed: " ++ fault.message)
      return .ok status
  | .sendFailed fault =>
      let status ← rollBack request.auditId request.tier ("delivery failed: " ++ fault.message)
      return .ok status
  | .halted => return .error .halted

/-- Claims a due tier and delivers its reminder. -/
def dispatch (now : Instant) (audit : Audit) (daysLeft : Int) (tier : Tier) :
    Program (Except PassStop Status) := do
  match ← ask (.claim audit.id tier.name now) with
  | .ok true => deliverClaimed (.of audit tier daysLeft)
  | .ok false =>
      note (.alreadyClaimed audit.id tier.name)
      return .ok .skippedDuplicate
  | .error fault =>
      note (.claimFailed audit.id tier.name fault)
      return .error (.aborted fault)

/-- Dispatches due tiers in order, up to the first that ends the pass. -/
def dispatchAll (now : Instant) (audit : Audit) (daysLeft : Int) :
    List Tier → Program (Except PassStop (List Outcome))
  | [] => return .ok []
  | tier :: rest => do
      match ← dispatch now audit daysLeft tier with
      | .error stop => return .error stop
      | .ok status =>
          match ← dispatchAll now audit daysLeft rest with
          | .error stop => return .error stop
          | .ok outcomes => return .ok (⟨audit.id, tier.name, status⟩ :: outcomes)

/-- Handles one audit that is not long past. -/
def handle (plan : Plan) (now : Instant) (audit : Audit) :
    Program (Except PassStop (List Outcome)) := do
  match ← ask (.sentTiers audit.id) with
  | .error fault =>
      note (.readingFailed audit.id fault)
      return .error (.aborted fault)
  | .ok sent =>
      dispatchAll now audit (daysLeft now audit.endsAt) (plan.schedule.due now audit.endsAt sent)

/-- Goes through the open audits among those listed, adding to a report. -/
def scan (plan : Plan) (now : Instant) (report : Report) :
    List Audit → Program (Except PassStop Report)
  | [] => return .ok report
  | audit :: rest => do
      if !audit.isOpen then scan plan now report rest
      else if plan.isExpired now audit then
        note (.expired audit.id audit.endsAt)
        scan plan now { report with expired := report.expired + 1 } rest
      else
        match ← handle plan now audit with
        | .error stop => return .error stop
        | .ok outcomes =>
            let report := { report with
              scanned := report.scanned + 1, outcomes := report.outcomes ++ outcomes }
            scan plan now report rest

/-- One pass at an instant. -/
def program (plan : Plan) (now : Instant) : Program (Except PassStop Report) := do
  note (.started now)
  match ← ask .listOpen with
  | .error fault =>
      note (.listingFailed fault)
      return .error (.aborted fault)
  | .ok audits =>
      match ← scan plan now (.start now) audits with
      | .error stop => return .error stop
      | .ok report =>
          note (.finished report.scanned report.expired report.sent report.skipped report.failed)
          return .ok report

end Pass

/-- Renders a request, or says why not. -/
abbrev RenderNotice := Request → Except RenderStop Notice

/-- Sends a message, or says why not; `ω` is what messages are sent into. -/
abbrev SendMessage (ω : Type) := Message → ω → Except DeliveryFault Unit × ω

/-- What a pass works on: a store, what its messages go into, and what it noted. -/
structure Scene (σ ω : Type) where
  store : σ
  out : ω
  events : List PassEvent

namespace Pass

/-- Renders a request and sends the notice to its owners. -/
def deliver [Monad m] (render : RenderNotice) (send : Message → m (Except DeliveryFault Unit))
    (request : Request) : m Delivery :=
  match render request with
  | .error .unprintableDate => return .halted
  | .error (.fault fault) => return .renderFailed fault
  | .ok notice => do
      match ← send ⟨request.owners, notice.subject, notice.body⟩ with
      | .ok () => return .sent
      | .error fault => return .sendFailed fault

/-- Answers the operations of a pass. -/
def handler (backend : Backend σ) (render : RenderNotice) (send : SendMessage ω) :
    Program.Handler (Scene σ ω) := fun a scene =>
  match a with
  | .listOpen => (backend.listOpen scene.store, scene)
  | .sentTiers id => (backend.sentTiers scene.store id, scene)
  | .claim id tier now =>
      let (answer, store) := backend.claim scene.store id tier now
      (answer, { scene with store := store })
  | .deliver request =>
      let (answer, out) := (deliver (m := StateM ω) render send request).run scene.out
      (answer, { scene with out := out })
  | .release id tier =>
      let (answer, store) := backend.release scene.store id tier
      (answer, { scene with store := store })
  | .note event => ((), { scene with events := scene.events ++ [event] })

/-- Carries one pass out. -/
def run (backend : Backend σ) (render : RenderNotice) (send : SendMessage ω) (plan : Plan)
    (now : Instant) (scene : Scene σ ω) : Except PassStop Report × Scene σ ω :=
  (program plan now).run (handler backend render send) scene

end Pass

end AuditReminder
