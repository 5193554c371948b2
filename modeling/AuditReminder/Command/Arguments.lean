/-
Command lines.

Words are read from the left: names of commands, options that start with two dashes, and operands.
The value of an option follows it as the next word or after an equals sign; a word that starts with
a dash is no value, and after two dashes alone every word is an operand.  Every option is given once
at most, except those that collect values.  Main definition: `Invocation.read`.
-/
import AuditReminder.Command.Basic
import AuditReminder.Number.Bounds
import AuditReminder.Text.Decimal

namespace AuditReminder

/-- What a command line asks for that is no command. -/
inductive Usage where
  /-- The words are not understood. -/
  | wrong
  | version
  | help
deriving DecidableEq

namespace Arguments

/-- How an option is used. -/
inductive Arity where
  | flag
  | one
  /-- One value, which may not be empty. -/
  | path
  /-- One value, which spells a number. -/
  | count
  | many
deriving DecidableEq

/-- An option: its name without the dashes. -/
structure OptionRule where
  name : String
  arity : Arity
deriving DecidableEq

/-- What was given: options with their values, and operands. -/
structure Given where
  options : List (String × String)
  operands : List String
deriving DecidableEq

namespace Given

def none : Given := ⟨[], []⟩

def value? (given : Given) (name : String) : Option String := given.options.lookup name

def values (given : Given) (name : String) : List String :=
  (given.options.filter (·.1 == name)).map (·.2)

def flag (given : Given) (name : String) : Bool := given.options.any (·.1 == name)

end Given

/-- The option whose value is the filter of the journal; every command takes it. -/
def logLevel : OptionRule := ⟨"log-level", .one⟩

/-- Whether a word can be the value of an option or an operand. -/
def isValue (word : String) : Bool := word == "-" || !word.startsWith "-"

/-- The number of 64 bits that a text spells, with or without a plus sign. -/
def count? (s : String) : Option Nat :=
  let ds := match s.toList with
    | '+' :: ds => ds
    | ds => ds
  if ds ≠ [] ∧ ds.all Char.isDigit ∧ Decimal.value ds ≤ greatestNat64 then some (Decimal.value ds)
  else none

/-- Notes an option with its value. -/
def note (option : OptionRule) (value : String) (given : Given) : Except Usage Given :=
  if option.arity ≠ .many ∧ given.flag option.name then .error .wrong
  else if option.arity = .path ∧ value = "" then .error .wrong
  else if option.arity = .count ∧ count? value = none then .error .wrong
  else .ok { given with options := given.options ++ [(option.name, value)] }

/-- The name of an option and the value after its equals sign. -/
def splitOption (word : String) : String × Option String :=
  let cs := word.toList.drop 2
  let name := cs.takeWhile (· != '=')
  match cs.drop name.length with
  | '=' :: value => (String.ofList name, some (String.ofList value))
  | _ => (String.ofList name, none)

/-- Reads an option; the words after it may hold its value. -/
def readOption (options : List OptionRule) (word : String) (given : Given) (words : List String) :
    Except Usage (Given × List String) :=
  let (name, value?) := splitOption word
  match options.find? (·.name == name), value? with
  | none, _ => .error .wrong
  | some option, some value =>
      if option.arity = .flag then .error .wrong
      else (note option value given).map fun given => (given, words)
  | some option, none =>
      if option.arity = .flag then (note option "" given).map fun given => (given, words)
      else match words with
        | [] => .error .wrong
        | value :: words =>
            if isValue value then (note option value given).map fun given => (given, words)
            else .error .wrong

theorem length_of_readOption {options : List OptionRule} {word : String} {given after : Given}
    {words rest : List String} (h : readOption options word given words = .ok (after, rest)) :
    rest.length ≤ words.length := by
  have of_note : ∀ {option : OptionRule} {value : String} {ws : List String},
      (note option value given).map (fun given => (given, ws)) = .ok (after, rest) →
        rest = ws := by
    intro option value ws h
    cases e : note option value given with
    | error u => rw [e] at h; cases h
    | ok g => rw [e] at h; cases h; rfl
  unfold readOption at h
  simp only at h
  split at h
  · cases h
  · split at h
    · cases h
    · exact Nat.le_of_eq (congrArg List.length (of_note h))
  · split at h
    · exact Nat.le_of_eq (congrArg List.length (of_note h))
    · split at h
      · cases h
      · split at h
        · rw [of_note h, List.length_cons]; exact Nat.le_succ _
        · cases h

/-- Reads options up to the name of a command, and gives that name and the words after it; only the
outermost place takes the option that asks for the version. -/
def readName (isOutermost : Bool) (options : List OptionRule) (given : Given) :
    List String → Except Usage (Given × String × List String)
  | [] => .error .wrong
  | word :: words =>
      if isValue word then .ok (given, word, words)
      else if word = "--version" ∨ word = "-V" then
        if isOutermost then .error .version else .error .wrong
      else if word = "--help" ∨ word = "-h" then .error .help
      else if word = "--" ∨ !word.startsWith "--" then .error .wrong
      else
        match h : readOption options word given words with
        | .error usage => .error usage
        | .ok (given, rest) =>
            have := length_of_readOption h
            readName isOutermost options given rest
termination_by words => words.length

/-- Reads the options and the operands of a command. -/
def readRest (options : List OptionRule) (operands : Nat) (given : Given) :
    List String → Except Usage Given
  | [] => if given.operands.length = operands then .ok given else .error .wrong
  | word :: words =>
      if word = "--" then
        let given := { given with operands := given.operands ++ words }
        if given.operands.length = operands then .ok given else .error .wrong
      else if isValue word then
        if given.operands.length < operands then
          readRest options operands { given with operands := given.operands ++ [word] } words
        else .error .wrong
      else if word = "--help" ∨ word = "-h" then .error .help
      else if !word.startsWith "--" then .error .wrong
      else
        match h : readOption options word given words with
        | .error usage => .error usage
        | .ok (given, rest) =>
            have := length_of_readOption h
            readRest options operands given rest
termination_by words => words.length

/-- Something that must have been given. -/
def required : Option α → Except Usage α
  | some a => .ok a
  | none => .error .wrong

/-- The first operand. -/
def operand (given : Given) (index : Nat) : Except Usage String :=
  required given.operands[index]?

def json : OptionRule := ⟨"json", .flag⟩

def nowOption : OptionRule := ⟨"now", .one⟩

def outbox : OptionRule := ⟨"outbox", .path⟩

def endsAt : OptionRule := ⟨"ends-at", .one⟩

/-- The options of a command and the number of its operands. -/
structure Shape where
  options : List OptionRule
  operands : Nat

/-- Reads a command of a shape; what is given to it decides over what was given before it. -/
def readShape (shape : Shape) (words : List String) : Except Usage Given :=
  readRest (logLevel :: shape.options) shape.operands .none words

/-- The filter of the journal, given to the innermost of several commands. -/
def filterOf (outer : List Given) : String :=
  (outer.findSome? fun given => given.value? logLevel.name).getD "warn"

/-- The names of the commands on audits. -/
def auditNames : List String := ["add", "list", "show", "close", "sent"]

/-- The names of the commands on the configuration. -/
def configNames : List String := ["get", "set", "list", "reset"]

/-- The outermost names, each with the names that may follow it. -/
def commandNames : List (String × List String) :=
  [("audit", auditNames), ("run", []), ("watch", []), ("preview", []), ("config", configNames)]

/-- Help on some of several names.  Words after it have to name a command. -/
def askHelp (names : List String) : List String → Usage
  | [] => .help
  | [name] => if name ∈ "help" :: names then .help else .wrong
  | _ => .wrong

/-- Help on any command. -/
def askAnyHelp : List String → Usage
  | name :: words =>
      match commandNames.lookup name, words with
      | some [], [] => .help
      | some [], _ => .wrong
      | some names, words => askHelp names words
      | none, words => if name = "help" ∧ words = [] then .help else .wrong
  | [] => .help

/-- The commands on audits. -/
def readAudit (outer : Given) (words : List String) : Except Usage Invocation := do
  let (given, name, words) ← readName false [logLevel] .none words
  match name with
  | "add" => do
      let own ← readShape
        ⟨[⟨"id", .one⟩, ⟨"group", .one⟩, ⟨"owner", .many⟩, ⟨"starts-at", .one⟩, endsAt], 0⟩ words
      let owners := own.values "owner"
      if owners = [] then .error .wrong
      return ⟨filterOf [own, given, outer],
        .addAudit (own.value? "id") (← required (own.value? "group")) owners
          (← required (own.value? "starts-at")) (← required (own.value? "ends-at"))⟩
  | "list" => do
      let own ← readShape ⟨[json], 0⟩ words
      return ⟨filterOf [own, given, outer], .listAudits (own.flag "json")⟩
  | "show" => do
      let own ← readShape ⟨[], 1⟩ words
      return ⟨filterOf [own, given, outer], .showAudit (← operand own 0)⟩
  | "close" => do
      let own ← readShape ⟨[], 1⟩ words
      return ⟨filterOf [own, given, outer], .closeAudit (← operand own 0)⟩
  | "sent" => do
      let own ← readShape ⟨[json], 1⟩ words
      return ⟨filterOf [own, given, outer], .listSent (← operand own 0) (own.flag "json")⟩
  | "help" => .error (askHelp auditNames words)
  | _ => .error .wrong

/-- The commands on the configuration. -/
def readConfig (outer : Given) (words : List String) : Except Usage Invocation := do
  let (given, name, words) ← readName false [logLevel] .none words
  match name with
  | "get" => do
      let own ← readShape ⟨[], 1⟩ words
      return ⟨filterOf [own, given, outer], .getSetting (← operand own 0)⟩
  | "set" => do
      let own ← readShape ⟨[], 2⟩ words
      return ⟨filterOf [own, given, outer], .setSetting (← operand own 0) (← operand own 1)⟩
  | "list" => do
      let own ← readShape ⟨[], 0⟩ words
      return ⟨filterOf [own, given, outer], .listSettings⟩
  | "reset" => do
      let own ← readShape ⟨[], 0⟩ words
      return ⟨filterOf [own, given, outer], .resetSettings⟩
  | "help" => .error (askHelp configNames words)
  | _ => .error .wrong

end Arguments

open Arguments

/-- The command of a list of words. -/
def Invocation.read (words : List String) : Except Usage Invocation := do
  let (outer, name, words) ← readName true [Arguments.logLevel] .none words
  match name with
  | "audit" => readAudit outer words
  | "config" => readConfig outer words
  | "run" => do
      let own ← readShape ⟨[nowOption, outbox, json], 0⟩ words
      return ⟨filterOf [own, outer],
        .runPass (own.value? "now") (own.value? "outbox") (own.flag "json")⟩
  | "watch" => do
      let own ← readShape ⟨[⟨"interval", .count⟩, outbox], 0⟩ words
      return ⟨filterOf [own, outer],
        .watch ((own.value? "interval").bind count?) (own.value? "outbox")⟩
  | "preview" => do
      let own ← readShape ⟨[endsAt, nowOption, json], 0⟩ words
      return ⟨filterOf [own, outer],
        .preview (← required (own.value? "ends-at")) (own.value? "now") (own.flag "json")⟩
  | "help" => .error (askAnyHelp words)
  | _ => .error .wrong

end AuditReminder
