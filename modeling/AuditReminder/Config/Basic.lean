/-
Configuration.

A configuration names the database, says how often passes run and how long past their deadlines
audits are looked at, and holds the templates and the tiers.  `Config.validate` gives the first
thing wrong with one; what is loaded or set has none, and a renderer, a schedule and a horizon can
then be had from it.
-/
import AuditReminder.Notice
import AuditReminder.Pass.Basic
import AuditReminder.Url.Reader

namespace AuditReminder

/-- How passes are run. -/
structure SchedulerConfig where
  retentionHorizonDays : Int
  intervalSecs : Nat
deriving DecidableEq

/-- How notices are rendered. -/
structure RenderConfig where
  baseUrl : String
  dateFormat : String
  standard : TemplatePair
  reminder : TemplatePair
deriving DecidableEq

structure Config where
  /-- The file of the database, in the data directory unless its path is absolute. -/
  database : String
  scheduler : SchedulerConfig
  render : RenderConfig
  tiers : List Tier
deriving DecidableEq

/-- What is wrong with a configuration, or with how it is kept. -/
inductive ConfigFault where
  | loadFailed (path reason : String)
  | saveFailed (path reason : String)
  | invalidValue (key reason : String)
  | unknownKey (key : String)
  | dataDirectory (path reason : String)
deriving DecidableEq

namespace ConfigFault

def message : ConfigFault → String
  | loadFailed path reason => "Failed to load configuration from " ++ path ++ ": " ++ reason
  | saveFailed path reason => "Failed to save configuration to " ++ path ++ ": " ++ reason
  | invalidValue key reason => "Invalid configuration value for '" ++ key ++ "': " ++ reason
  | unknownKey key => "Unknown configuration key: " ++ key
  | dataDirectory path reason => "Data directory unavailable: " ++ path ++ ": " ++ reason

end ConfigFault

namespace SchedulerConfig

def default : SchedulerConfig := ⟨defaultHorizonDays, 300⟩

end SchedulerConfig

namespace RenderConfig

def default : RenderConfig :=
  ⟨Renderer.defaultBaseUrl, Renderer.defaultDateFormat, Renderer.defaultStandard,
    Renderer.defaultReminder⟩

/-- The renderer of a configuration; its address is kept in normal form. -/
def renderer (c : RenderConfig) : Except ConfigFault Renderer :=
  match Url.read c.baseUrl with
  | .error fault => .error (.invalidValue "render.base_url" fault.message)
  | .ok url =>
      match Renderer.of url.text c.dateFormat c.standard c.reminder with
      | .error fault => .error (.invalidValue "render" fault.message)
      | .ok renderer => .ok renderer

end RenderConfig

namespace Config

def defaultDatabase : String := "auditbell.db"

def default : Config := ⟨defaultDatabase, .default, .default, Schedule.defaultTiers⟩

/-- The schedule of a configuration. -/
def schedule (c : Config) : Except ConfigFault Schedule :=
  (Schedule.ofTiers c.tiers).mapError fun fault => .invalidValue "tiers" fault.message

/-- How long past its deadline an audit is looked at, if that many days can be counted. -/
def horizon? (c : Config) : Option Span := Span.days? c.scheduler.retentionHorizonDays

/-- What a pass goes by under a configuration. -/
def plan (c : Config) : Except ConfigFault Plan := do
  let schedule ← c.schedule
  match c.horizon? with
  | some horizon => return ⟨schedule, horizon⟩
  | none => .error (.invalidValue "scheduler.retention_horizon_days" "too many days")

/-- Checks a configuration: its tiers, its horizon, its interval, and what it renders with. -/
def validate (c : Config) : Except ConfigFault Unit := do
  let _ ← c.schedule
  let days := c.scheduler.retentionHorizonDays
  if days < 0 ∨ maxOffsetDays < days then
    .error (.invalidValue "scheduler.retention_horizon_days"
      ("must be between 0 and " ++ Decimal.text maxOffsetDays))
  if c.scheduler.intervalSecs = 0 then
    .error (.invalidValue "scheduler.interval_secs" "must be at least 1")
  let _ ← c.render.renderer
  return ()

/-- A path within a directory; an absolute path is taken as it is. -/
def joinPath (directory path : String) : String :=
  if path.startsWith "/" then path
  else if directory.endsWith "/" ∨ directory = "" then directory ++ path
  else directory ++ "/" ++ path

/-- Where the database is, given the data directory. -/
def databasePath (c : Config) (dataDirectory : String) : String :=
  joinPath dataDirectory c.database

end Config

end AuditReminder
