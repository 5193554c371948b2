/-
Carrying out commands.

A command line is read and its command is carried out in a session; an error is printed as one line.
The exit status is 0 for what went well, 1 for an error, and 2 for words that are not understood.
-/
import AuditReminder.Command.Arguments
import AuditReminder.Command.Audits
import AuditReminder.Command.Passes
import AuditReminder.Command.Settings

namespace AuditReminder

namespace Session

variable {m : Type → Type} [Monad m]

/-- Carries out a command. -/
def perform (s : Session m) : Command → Action m Unit
  | .addAudit id group owners startsAt endsAt => s.addAudit id group owners startsAt endsAt
  | .listAudits asJson => s.listAudits asJson
  | .showAudit id => s.showAudit id
  | .closeAudit id => s.closeAudit id
  | .listSent id asJson => s.listSent id asJson
  | .runPass now outbox asJson => s.runPass now outbox asJson
  | .watch interval outbox => s.watch interval outbox
  | .preview endsAt now asJson => s.preview endsAt now asJson
  | .getSetting key => s.getSetting key
  | .setSetting key value => s.setSetting key value
  | .listSettings => s.listSettings
  | .resetSettings => s.resetSettings

end Session

/-- The line that names the program and its version. -/
def versionLine : String := "auditbell 0.1.0\n"

/-- How the program is used. -/
def usageText : String :=
  "Usage: auditbell [--log-level FILTER] COMMAND\n\n" ++
  "  audit add [--id ID] --group GROUP --owner ADDRESS... --starts-at TIME --ends-at TIME\n" ++
  "  audit list [--json]\n" ++
  "  audit show ID\n" ++
  "  audit close ID\n" ++
  "  audit sent ID [--json]\n" ++
  "  run [--now TIME] [--outbox FILE] [--json]\n" ++
  "  watch [--interval SECONDS] [--outbox FILE]\n" ++
  "  preview --ends-at TIME [--now TIME] [--json]\n" ++
  "  config get KEY\n" ++
  "  config set KEY VALUE\n" ++
  "  config list\n" ++
  "  config reset\n"

/-- Carries out a command line; gives the exit status. -/
def perform [Monad m] (platform : Platform m) (words : List String) : m Nat := do
  match Invocation.read words with
  | .error .version => do
      platform.print versionLine
      return 0
  | .error .help => do
      platform.print usageText
      return 0
  | .error .wrong => do
      platform.printError usageText
      return 2
  | .ok invocation => do
      let session : Session m := ⟨platform, Journal.Filter.read invocation.logLevel⟩
      match ← (session.perform invocation.command).run with
      | .ok () => return 0
      | .error text => do
          platform.printError ("error: " ++ text ++ "\n")
          return 1

end AuditReminder
