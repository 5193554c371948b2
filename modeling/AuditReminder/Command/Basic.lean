/-
Commands.

A command is one use of the program: it works on the audits of the database, carries out passes,
shows what a deadline would bring, or looks after the configuration.  Times are kept as they were
given and are read only once the command comes to them.
-/

namespace AuditReminder

/-- What the program is asked to do. -/
inductive Command where
  | addAudit (id : Option String) (group : String) (owners : List String)
      (startsAt endsAt : String)
  | listAudits (asJson : Bool)
  | showAudit (id : String)
  | closeAudit (id : String)
  | listSent (id : String) (asJson : Bool)
  | runPass (now outbox : Option String) (asJson : Bool)
  | watch (interval : Option Nat) (outbox : Option String)
  | preview (endsAt : String) (now : Option String) (asJson : Bool)
  | getSetting (key : String)
  | setSetting (key value : String)
  | listSettings
  | resetSettings
deriving DecidableEq

/-- A command and the filter of its journal. -/
structure Invocation where
  logLevel : String
  command : Command
deriving DecidableEq

end AuditReminder
