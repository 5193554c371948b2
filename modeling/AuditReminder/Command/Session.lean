/-
What commands share.

A session is a platform and the filter of the journal.  Within it a command finds the data
directory, loads the configuration kept there and opens the database that it names.  An action that
fails says why in one text.
-/
import AuditReminder.Config.File
import AuditReminder.Journal
import AuditReminder.Store.Archive

namespace AuditReminder

/-- A platform, and which notes are written on it. -/
structure Session (m : Type → Type) where
  platform : Platform m
  filter : Journal.Filter

/-- Something done in a session, or the text of the error that stopped it. -/
abbrev Action (m : Type → Type) (α : Type) := ExceptT String m α

namespace Session

variable {m : Type → Type} [Monad m]

/-- Writes a note in the journal if the filter lets it pass. -/
def log (s : Session m) (note : Journal.Note) : m Unit := do
  if s.filter.passes note.level note.topic then
    let time ← s.platform.timestamp
    s.platform.printError (note.line time)

def print (s : Session m) (text : String) : Action m Unit := ExceptT.lift (s.platform.print text)

/-- A result whose fault has a text. -/
def orText (message : ε → String) (result : Except ε α) : Action m α :=
  ExceptT.mk (pure (result.mapError message))

/-- Does something whose fault has a text. -/
def attempt (message : ε → String) (action : m (Except ε α)) : Action m α :=
  ExceptT.mk do return (← action).mapError message

/-! ## Configuration -/

/-- The directory in which configuration and database are kept, as the environment says. -/
def dataDirectoryName (s : Session m) : m String := do
  match ← s.platform.environment "AUDITBELL_DATA_DIR" with
  | some directory => return directory
  | none => do
      let home := (← s.platform.environment "HOME").getD "."
      let mode ← s.platform.environment "AUDITBELL_ENV"
      let name := if mode = some "dev" then "auditbell-dev" else "auditbell"
      return Config.joinPath home (".config/" ++ name)

/-- The data directory, which is made if it is not there. -/
def dataDirectory (s : Session m) : Action m String := do
  let directory ← s.dataDirectoryName
  attempt (fun fault => (ConfigFault.dataDirectory directory fault.message).message)
    (s.platform.makeDirectory directory)
  return directory

/-- The path of the configuration. -/
def configPath (s : Session m) : Action m String := do
  return Config.joinPath (← s.dataDirectory) "config.toml"

def loadConfig (s : Session m) : Action m Config := do
  let path ← s.configPath
  attempt ConfigFault.message (Config.load s.platform path)

def saveConfig (s : Session m) (c : Config) : Action m Unit := do
  let path ← s.configPath
  attempt ConfigFault.message (c.save s.platform path)

/-! ## Store -/

/-- Brings the database of a file up to date. -/
def migrate (s : Session m) (path : String) (db : Database) : Action m Unit := do
  let (result, after) := db.migrate 0
  let version ← orText StoreFault.message result
  if version < Tables.currentVersion then
    s.log (Journal.schemaMigrated version Tables.currentVersion)
  if after.committed ≠ db.committed then
    attempt (fun fault => (StoreFault.queryFailed (.refused fault.message)).message)
      (s.platform.writeText path (Archive.write after.committed))

/-- Opens the database of a configuration; gives its path. -/
def openStore (s : Session m) (c : Config) : Action m String := do
  let path := c.databasePath (← s.dataDirectory)
  let db ← attempt StoreFault.message (Archive.load s.platform path)
  s.migrate path db
  s.log (Journal.storeOpened path)
  return path

/-- Carries out an operation on the database of a file. -/
def onStore (s : Session m) (path : String) (f : Database → Except StoreFault α × Database) :
    m (Except StoreFault α) := Archive.change s.platform path id f

/-- Asks something of the database of a file. -/
def askStore (s : Session m) (path : String) (f : Tables → Except StoreFault α) : Action m α :=
  attempt StoreFault.message (s.onStore path fun db => (f (db.view 0), db))

/-! ## Times -/

/-- The instant that a text names. -/
def readTime (text : String) : Action m Instant :=
  match Time.parseTime? text with
  | some t => return t
  | none => throw (Time.refusal text)

/-- The instant that a text names, or the present one. -/
def readNow (s : Session m) : Option String → Action m Instant
  | some text => readTime text
  | none => ExceptT.lift s.platform.now

end Session

end AuditReminder
