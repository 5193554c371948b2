/-
Commands on the configuration.

A setting is shown or changed by its key; the whole configuration is listed or put back to its
defaults.
-/
import AuditReminder.Command.Session

namespace AuditReminder.Session

variable {m : Type → Type} [Monad m]

def getSetting (s : Session m) (key : String) : Action m Unit := do
  let config ← s.loadConfig
  match config.get? key with
  | some value => s.print (value ++ "\n")
  | none => throw (ConfigFault.unknownKey key).message

def setSetting (s : Session m) (key value : String) : Action m Unit := do
  let config ← s.loadConfig
  let updated ← orText ConfigFault.message (config.set key value)
  s.saveConfig updated
  s.print "ok\n"

def listSettings (s : Session m) : Action m Unit := do
  let config ← s.loadConfig
  s.print (config.toJson.pretty ++ "\n")

def resetSettings (s : Session m) : Action m Unit := do
  s.saveConfig .default
  s.print "config reset to defaults\n"

end AuditReminder.Session
