/-
Commands that carry out passes.

A pass works on the database that the configuration names and hands its reminders on as lines, which
are added to a file or printed.  A single pass prints its report; a watch carries out a pass every
so often and notes those that fail.
-/
import AuditReminder.Command.Preview
import AuditReminder.Command.Session
import AuditReminder.Text.Column

namespace AuditReminder.Session

variable {m : Type → Type} [Monad m]

/-- Hands a message on as a line of a file, or of the output. -/
def sendTo (s : Session m) (outbox : Option String) (message : Message) :
    m (Except DeliveryFault Unit) := do
  if message.recipients.isEmpty then return .error .noRecipients
  else match outbox with
    | none => do
        s.platform.print message.line
        return .ok ()
    | some file => do
        let added ← s.platform.appendText file message.line
        return added.mapError fun fault => .transport fault.message

/-- Answers the operations of a pass on the database of a file. -/
def answer (s : Session m) (path : String) (render : RenderNotice) (outbox : Option String) :
    (a : Ask) → m a.Answer
  | .listOpen => s.onStore path fun db => ((Database.backend 0).listOpen db, db)
  | .sentTiers id => s.onStore path fun db => ((Database.backend 0).sentTiers db id, db)
  | .claim id tier now => do
      let claimed ← s.onStore path fun db => (Database.backend 0).claim db id tier now
      match claimed with
      | .ok claimed => s.log (Journal.claimAttempted id tier claimed)
      | .error _ => pure ()
      return claimed
  | .deliver request => Pass.deliver render (s.sendTo outbox) request
  | .release id tier => s.onStore path fun db => (Database.backend 0).release db id tier
  | .note event => s.log (Journal.ofPass event)

/-- What a pass works with. -/
structure Arrangement where
  plan : Plan
  interval : Nat
  renderer : Renderer
  path : String
  outbox : Option String

/-- Loads the configuration and opens the database and the outbox. -/
def arrange (s : Session m) (outbox : Option String) : Action m Arrangement := do
  let config ← s.loadConfig
  let path ← s.openStore config
  let renderer ← orText ConfigFault.message config.render.renderer
  if let some file := outbox then
    attempt FileFault.message (s.platform.appendText file "")
  let plan ← orText ConfigFault.message config.plan
  return ⟨plan, config.scheduler.intervalSecs, renderer, path, outbox⟩

/-- Carries out a pass at an instant. -/
def pass (s : Session m) (a : Arrangement) (now : Instant) : m (Except PassStop Report) :=
  (Pass.program a.plan now).runIn (s.answer a.path a.renderer.render a.outbox)

/-- What is said of a pass that ended before it was through. -/
def stopText : PassStop → String
  | .aborted fault => "Store unavailable: " ++ fault.message
  | .halted => "a deadline cannot be printed in the date format"

/-- The counts of a report. -/
def counts (report : Report) : String :=
  Decimal.text report.sent ++ " sent, " ++ Decimal.text report.skipped ++ " skipped, " ++
    Decimal.text report.failed ++ " failed\n"

/-- The line of an outcome in a report. -/
def outcomeLine (outcome : Outcome) : String :=
  "  " ++ outcome.auditId ++ "  " ++ Text.column 8 outcome.tier ++ " " ++ outcome.status.label ++
    "\n"

/-- A report in lines. -/
def reportText (report : Report) : String :=
  Decimal.text report.scanned ++ " audits scanned, " ++ counts report ++
    String.join (report.outcomes.map outcomeLine)

/-- Carries out a single pass.  Its report goes where the reminders do not. -/
def runPass (s : Session m) (now outbox : Option String) (asJson : Bool) : Action m Unit := do
  let arrangement ← s.arrange outbox
  let now ← s.readNow now
  let report ← attempt stopText (s.pass arrangement now)
  match outbox with
  | some _ =>
      s.print (if asJson then report.toJson.pretty ++ "\n" else reportText report)
  | none =>
      s.platform.printError (if asJson then report.toJson.compact ++ "\n" else counts report)
  if 0 < report.failed then
    throw (Decimal.text report.failed ++ " reminder(s) failed and will be retried")

/-- One pass of a watch, at the present instant. -/
def watchOnce (s : Session m) (arrangement : Arrangement) : m Unit := do
  let now ← s.platform.now
  match ← s.pass arrangement now with
  | .error (.aborted fault) => s.log (Journal.passFailed fault)
  | _ => return ()

/-- Carries out passes until told to stop; there is at least a second between two. -/
def watch (s : Session m) (interval : Option Nat) (outbox : Option String) : Action m Unit := do
  let arrangement ← s.arrange outbox
  let seconds := max (interval.getD arrangement.interval) 1
  s.log (Journal.watching seconds)
  ExceptT.lift (s.platform.every seconds (s.watchOnce arrangement))
  s.log Journal.shutdownRequested

/-- Shows what a fresh audit with a deadline would bring. -/
def preview (s : Session m) (endsAt : String) (now : Option String) (asJson : Bool) :
    Action m Unit := do
  let config ← s.loadConfig
  let schedule ← orText ConfigFault.message config.schedule
  let endsAt ← readTime endsAt
  let now ← s.readNow now
  let p := Preview.of schedule now endsAt
  s.print (if asJson then p.toJson.sortKeys.pretty ++ "\n" else p.text)

end AuditReminder.Session
