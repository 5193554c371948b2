/-
The journal.

What happens is noted in lines: a time, a level, a text, and named values.  Each note belongs to a
topic, and a filter says down to which level the notes of a topic are written; of several
directives that fit a topic the one that names most of it decides.  Main definitions: `Note`,
`Filter.read` and `Filter.passes`.
-/
import AuditReminder.Pass.Program
import AuditReminder.Text.Quoted
import AuditReminder.Text.Split

namespace AuditReminder.Journal

/-- How grave a note is. -/
inductive Level where
  | error
  | warn
  | info
  | debug
  | trace
deriving DecidableEq

namespace Level

/-- The greater, the less grave. -/
def rank : Level → Nat
  | error => 1
  | warn => 2
  | info => 3
  | debug => 4
  | trace => 5

def text : Level → String
  | error => "ERROR"
  | warn => "WARN"
  | info => "INFO"
  | debug => "DEBUG"
  | trace => "TRACE"

end Level

/-! ## Filters -/

/-- Writes notes of a topic down to a level, or none of them. -/
structure Directive where
  /-- How the topic starts; all topics when absent. -/
  topic : Option String
  /-- The rank of the last level written. -/
  rank : Nat
deriving DecidableEq

/-- The directives that decide which notes are written. -/
structure Filter where
  directives : List Directive
deriving DecidableEq

namespace Directive

/-- Letters without their case, in ASCII. -/
def lower (cs : List Char) : String := String.ofList (cs.map Char.toLower)

/-- The rank that a level's name or number stands for. -/
def rank? (cs : List Char) : Option Nat :=
  let number := match cs with
    | '+' :: ds => ds
    | ds => ds
  if number ≠ [] ∧ number.all Char.isDigit then
    let n := Decimal.value number
    if n ≤ 5 then some n else none
  else
    [("", 1), ("off", 0), ("error", 1), ("warn", 2), ("info", 3), ("debug", 4),
      ("trace", 5)].lookup (lower cs)

/-- The rank after an equals sign; nothing stands for all levels. -/
def rankAfter? (cs : List Char) : Option Nat := if cs = [] then some 5 else rank? cs

/-- Whether a character may begin a directive. -/
def mayBegin (c : Char) : Bool :=
  c.isAlphanum || c == '-' || c == ':' || c == '_' || 0x80 ≤ c.toNat

/-- Whether the rest of a directive that names a span is well formed. -/
def isSpanEnd (cs : List Char) : Bool :=
  let inside := cs.takeWhile fun c => c != ']' && c != '\x7b'
  match cs.drop inside.length with
  | ']' :: rest => isAfterSpan rest
  | '\x7b' :: rest =>
      let values := rest.takeWhile (· != '\x7d')
      match rest.drop values.length with
      | '\x7d' :: ']' :: rest => values ≠ [] && isAfterSpan rest
      | _ => false
  | _ => false
where
  /-- What may follow a span: a level, or nothing. -/
  isAfterSpan : List Char → Bool
    | [] => true
    | '=' :: rest => (rankAfter? rest).isSome
    | _ => false

/-- The directive of a text that may be one.  A directive for a span is well formed and decides
nothing here, as there are no spans. -/
def read? (cs : List Char) : Option (Option Directive) :=
  match Text.trimBlanks cs with
  | [] => none
  | c :: rest =>
      if c = '[' then if isSpanEnd rest then some none else none
      else if !mayBegin c then none
      else
        let name := (c :: rest).takeWhile fun c => c != '=' && c != '['
        match cs.drop name.length with
        | '=' :: level =>
            (rankAfter? level).map fun rank => some ⟨some (String.ofList name), rank⟩
        | '[' :: span => if isSpanEnd span then some none else none
        | _ =>
            match rank? cs with
            | some rank => some (some ⟨none, rank⟩)
            | none => some (some ⟨some (String.ofList cs), 5⟩)

/-- How much of a topic a directive names. -/
def weight (d : Directive) : Nat :=
  match d.topic with
  | none => 0
  | some topic => topic.utf8ByteSize + 1

/-- Whether a directive is for a topic. -/
def fits (d : Directive) (topic : String) : Bool :=
  match d.topic with
  | none => true
  | some start => start.toList.isPrefixOf topic.toList

end Directive

namespace Filter

/-- Writes warnings and errors. -/
def warnings : Filter := ⟨[⟨none, 2⟩]⟩

/-- The filter of directives with commas between them; with no directives errors are written, and
with one that is malformed warnings are too. -/
def read (s : String) : Filter :=
  let texts := (Text.split ',' s.toList).filter (· ≠ [])
  if texts = [] then ⟨[⟨none, 1⟩]⟩
  else match texts.mapM Directive.read? with
    | some directives => ⟨directives.filterMap id⟩
    | none => warnings

/-- Of two directives for a topic, the one that names more of it; of two that name the same, the
later. -/
def weightier (best : Option Directive) (d : Directive) : Option Directive :=
  match best with
  | none => some d
  | some b => if b.weight ≤ d.weight then some d else some b

/-- Whether notes of a level and a topic are written. -/
def passes (filter : Filter) (level : Level) (topic : String) : Bool :=
  match (filter.directives.filter (·.fits topic)).foldl weightier none with
  | some d => level.rank ≤ d.rank
  | none => false

end Filter

/-! ## Notes -/

/-- One line of the journal. -/
structure Note where
  level : Level
  topic : String
  text : String
  values : List (String × String)
deriving DecidableEq

namespace Note

/-- The line of a note that is made at a time. -/
def line (note : Note) (time : String) : String :=
  let level := note.level.text
  let padding := String.ofList (List.replicate (5 - level.length) ' ')
  time ++ " " ++ padding ++ level ++ " " ++ note.text ++
    String.join (note.values.map fun value => " " ++ value.1 ++ "=" ++ value.2) ++ "\n"

end Note

/-- The topic of passes. -/
def passTopic : String := "auditbell_core::scheduler"

/-- The topic of the store. -/
def storeTopic : String := "auditbell_core::storage::sqlite"

/-- The topic of schema changes. -/
def schemaTopic : String := "auditbell_core::storage::migrations"

/-- The topic of the watch. -/
def watchTopic : String := "auditbell::commands::run"

/-- A number as a value. -/
def number (n : Int) : String := Decimal.text n

/-- The note of an event of a pass. -/
def ofPass : PassEvent → Note
  | .started now => ⟨.info, passTopic, "reminder run started", [("now", now.toDisplayText)]⟩
  | .listingFailed fault =>
      ⟨.error, passTopic, "failed to load open audits; aborting run", [("error", fault.message)]⟩
  | .expired id endsAt =>
      ⟨.debug, passTopic, "audit past retention horizon",
        [("audit_id", id), ("ends_at", endsAt.toDisplayText)]⟩
  | .readingFailed id fault =>
      ⟨.error, passTopic, "failed to load sent tiers; aborting run",
        [("audit_id", id), ("error", fault.message)]⟩
  | .alreadyClaimed id tier =>
      ⟨.debug, passTopic, "tier already claimed elsewhere", [("audit_id", id), ("tier", tier)]⟩
  | .claimFailed id tier fault =>
      ⟨.error, passTopic, "claim failed; aborting run",
        [("audit_id", id), ("tier", tier), ("error", fault.message)]⟩
  | .sent request =>
      ⟨.info, passTopic, "reminder sent",
        [("audit_id", request.auditId), ("group", request.group), ("tier", request.tier),
          ("days_left", number request.daysLeft), ("recipients", number request.owners.size)]⟩
  | .released id tier reason =>
      ⟨.warn, passTopic, "dispatch failed; claim released for retry",
        [("audit_id", id), ("tier", tier), ("reason", reason)]⟩
  | .retained id tier reason fault =>
      ⟨.error, passTopic, "dispatch failed and claim could not be released; tier will not retry",
        [("audit_id", id), ("tier", tier), ("reason", reason), ("release_error", fault.message)]⟩
  | .finished scanned expired sent skipped failed =>
      ⟨.info, passTopic, "reminder run finished",
        [("audits", number scanned), ("expired", number expired), ("sent", number sent),
          ("skipped", number skipped), ("failed", number failed)]⟩

def schemaMigrated (version target : Int) : Note :=
  ⟨.info, schemaTopic, "migrating schema", [("from", number version), ("to", number target)]⟩

def storeOpened (path : String) : Note :=
  ⟨.info, storeTopic, "opened dispatch store", [("path", path)]⟩

def auditInserted (audit : Audit) : Note :=
  ⟨.info, storeTopic, "audit inserted", [("audit_id", audit.id), ("group", audit.group)]⟩

def auditClosed (id : AuditId) (purged : Nat) : Note :=
  ⟨.info, storeTopic, "audit closed", [("audit_id", id), ("purged_records", number purged)]⟩

def claimAttempted (id : AuditId) (tier : String) (claimed : Bool) : Note :=
  ⟨.debug, storeTopic, "claim attempted",
    [("audit_id", id), ("tier", Text.quotedText tier),
     ("claimed", if claimed then "true" else "false")]⟩

def watching (interval : Nat) : Note :=
  ⟨.info, watchTopic, "watching for due reminders", [("interval_secs", number interval)]⟩

def shutdownRequested : Note := ⟨.info, watchTopic, "shutdown requested", []⟩

def passFailed (fault : StoreFault) : Note :=
  ⟨.warn, watchTopic, "scheduler pass failed; retrying next tick",
    [("error", "Store unavailable: " ++ fault.message)]⟩

end AuditReminder.Journal
