/-
Configuration by key.

A configuration is exchanged as an object in which every part may be missing; what is missing
has its default.  A key with points leads through its objects to one part.  `Config.get?` shows
that part as text, and `Config.set` puts a text there: a number where a number stands, JSON where
an object or a list stands, and the text itself elsewhere.  A text that leaves the configuration
at fault is refused.
-/
import AuditReminder.Config.Basic
import AuditReminder.Exchange.Decode
import AuditReminder.Exchange.Encode
import AuditReminder.Text.Split

namespace AuditReminder

open Document

namespace SchedulerConfig

def toJson (c : SchedulerConfig) : Json :=
  .object [("retention_horizon_days", .integer c.retentionHorizonDays),
    ("interval_secs", .integer c.intervalSecs)]

end SchedulerConfig

namespace RenderConfig

def toJson (c : RenderConfig) : Json :=
  .object [("base_url", .text c.baseUrl), ("date_format", .text c.dateFormat),
    ("standard", c.standard.toJson), ("reminder", c.reminder.toJson)]

end RenderConfig

namespace Config

def toJson (c : Config) : Json :=
  .object [("database", .text c.database), ("scheduler", c.scheduler.toJson),
    ("render", c.render.toJson), ("tiers", .list (c.tiers.map Tier.toJson))]

end Config

namespace Exchange

open Decode

def schedulerConfig : Decoder SchedulerConfig :=
  record "struct SchedulerConfig"
    [.free "retention_horizon_days" int64 fun days c => { c with retentionHorizonDays := days },
      .free "interval_secs" nat64 fun secs c => { c with intervalSecs := secs }]
    .default

def renderConfig : Decoder RenderConfig :=
  record "struct RenderConfig"
    [.free "base_url" text fun url c => { c with baseUrl := url },
      .free "date_format" text fun format c => { c with dateFormat := format },
      .free "standard" templatePair fun pair c => { c with standard := pair },
      .free "reminder" templatePair fun pair c => { c with reminder := pair }]
    .default

def config : Decoder Config :=
  record "struct Config"
    [.free "database" text fun database c => { c with database := database },
      .free "scheduler" schedulerConfig fun scheduler c => { c with scheduler := scheduler },
      .free "render" renderConfig fun render c => { c with render := render },
      .free "tiers" tiers fun tiers c => { c with tiers := tiers }]
    .default

end Exchange

namespace Config

/-! ## Keys -/

/-- The parts of a key between its points. -/
def keyParts (key : String) : List String := Text.parts '.' key

/-- The value at the end of a path of fields. -/
def lookUp : List String → Json → Option Json
  | [], value => some value
  | part :: path, value => (value.field? part).bind (lookUp path)

/-- Puts a value in the place of the field of a name. -/
def replaceField (name : String) (value : Json) : List (String × Json) → List (String × Json)
  | [] => []
  | field :: rest =>
      if field.1 = name then (name, value) :: rest else field :: replaceField name value rest

/-- Changes the value at the end of a path of fields; there may be no such value, and the change
may be refused. -/
def update (change : Json → Except ε Json) (missing : ε) : List String → Json → Except ε Json
  | [], value => change value
  | part :: path, .object fields =>
      match Json.field? part (.object fields) with
      | none => .error missing
      | some value => do
          let value ← update change missing path value
          return .object (replaceField part value fields)
  | _ :: _, _ => .error missing

/-- A value shown as text: a text as it is, and anything else as JSON. -/
def shown : Json → String
  | .text s => s
  | value => value.compact

/-- The value of a key. -/
def get? (c : Config) (key : String) : Option String :=
  if key = "" then none else (lookUp (keyParts key) c.toJson.sortKeys).map shown

/-- The whole number of 64 bits that a text spells: an optional sign, and digits. -/
def readInteger? (s : String) : Option Int :=
  let (negative, ds) : Bool × List Char := match s.toList with
    | '-' :: ds => (true, ds)
    | '+' :: ds => (false, ds)
    | ds => (false, ds)
  if ds = [] ∨ ¬ds.all Char.isDigit then none
  else
    let n : Int := if negative then -(Decimal.value ds : Int) else Decimal.value ds
    if isInt64 n then some n else none

/-- What a text means in the place of a value. -/
def readAs (text : String) : Json → Except String Json
  | .bool _ =>
      if text = "true" then .ok (.bool true)
      else if text = "false" then .ok (.bool false)
      else .error "provided string was not `true` or `false`"
  | .integer _ =>
      match readInteger? text with
      | some n => .ok (.integer n)
      | none => .error ("cannot parse '" ++ text ++ "' as integer")
  | .float _ => .error ("cannot parse '" ++ text ++ "' as integer")
  | .list _ => json
  | .object _ => json
  | _ => .ok (.text text)
where
  /-- The text read as JSON. -/
  json : Except String Json :=
    (Decode.source (fun _ node => Decode.json Decode.maxLevels node) text).mapError Fault.message

/-- A configuration with a text under a key. -/
def set (c : Config) (key text : String) : Except ConfigFault Config := do
  let invalid := fun reason => ConfigFault.invalidValue key reason
  let changed ← update (fun value => (readAs text value).mapError invalid) (.unknownKey key)
    (keyParts key) c.toJson
  let updated ← (Exchange.config .value changed.sortKeys.toNode).mapError
    fun fault => invalid fault.message
  updated.validate
  return updated

end Config

end AuditReminder
