/-
The configuration file.

A configuration is kept as a document of TOML.  Loading reads it, fills in what is missing and
checks it; where there is no file, one with the defaults is written.  Main definitions:
`Config.write`, `Config.read`, `Config.load` and `Config.save`.
-/
import AuditReminder.Config.Fields
import AuditReminder.Platform
import AuditReminder.Toml.Printer
import AuditReminder.Toml.Reader

namespace AuditReminder

namespace TemplatePair

def toToml (pair : TemplatePair) : Toml :=
  .table [("subject", .text pair.subject), ("body", .text pair.body)]

end TemplatePair

namespace Tier

def toToml (tier : Tier) : Toml :=
  .table [("name", .text tier.name), ("offset_days", .integer tier.offsetDays),
    ("kind", .text tier.kind.text)]

end Tier

namespace Config

/-- The fields of a configuration in the order in which they are written. -/
def toToml (c : Config) : List (String × Toml) :=
  [("database", .text c.database),
    ("scheduler", .table
      [("retention_horizon_days", .integer c.scheduler.retentionHorizonDays),
        ("interval_secs", .integer c.scheduler.intervalSecs)]),
    ("render", .table
      [("base_url", .text c.render.baseUrl), ("date_format", .text c.render.dateFormat),
        ("standard", c.render.standard.toToml), ("reminder", c.render.reminder.toToml)]),
    ("tiers", .list (c.tiers.map Tier.toToml))]

/-- A configuration as text; an interval past the numbers of TOML cannot be written. -/
def write (c : Config) : Except String String :=
  if isInt64 c.scheduler.intervalSecs then .ok (String.ofList (Toml.write c.toToml))
  else .error "out-of-range value for u64 type"

/-- The configuration of a text, found at a path. -/
def read (path text : String) : Except ConfigFault Config :=
  match Toml.read text with
  | .error line => .error (.loadFailed path ("syntax error in line " ++ Decimal.text line))
  | .ok document =>
      match Exchange.config .toml document.toNode with
      | .error fault => .error (.loadFailed path fault.message)
      | .ok c => c.validate.map fun () => c

/-- Writes a configuration to a file. -/
def save [Monad m] (platform : Platform m) (path : String) (c : Config) :
    m (Except ConfigFault Unit) :=
  match c.write with
  | .error reason => return .error (.saveFailed path reason)
  | .ok text => do
      match ← platform.writeText path text with
      | .ok () => return .ok ()
      | .error fault => return .error (.saveFailed path fault.message)

/-- Reads the configuration of a file; where there is none, the defaults are written there. -/
def load [Monad m] (platform : Platform m) (path : String) : m (Except ConfigFault Config) := do
  match ← platform.readText path with
  | .ok text => return read path text
  | .error .notFound =>
      match ← save platform path default with
      | .ok () => return .ok default
      | .error fault => return .error fault
  | .error fault => return .error (.loadFailed path fault.message)

end Config

end AuditReminder
