/-
A machine that is a value.

A disk holds directories and files under the lists of names that lead to them, and two devices: one
that swallows what is written to it and one that is always full.  `Machine` adds a clock, ids not
yet given, an environment and what was printed; `Machine.platform` runs commands on it.
-/
import AuditReminder.Platform
import AuditReminder.Text.Split
import AuditReminder.Time.Text

namespace AuditReminder

/-- The names that lead to a file, from the root. -/
abbrev Path := List String

/-- What is found at a path. -/
inductive Entry where
  | directory
  | file (text : String)
  /-- Swallows everything and is always empty. -/
  | sink
  /-- Takes nothing more. -/
  | full
deriving DecidableEq

/-- Directories and files; the root is always there. -/
structure Disk where
  entries : List (Path × Entry)
deriving DecidableEq

namespace Disk

/-- The disk with nothing but the devices. -/
def blank : Disk :=
  ⟨[(["dev"], .directory), (["dev", "null"], .sink), (["dev", "full"], .full)]⟩

/-- Follows names from a directory, given in reverse; two points lead back. -/
def follow (reversed : List String) : List String → List String
  | [] => reversed.reverse
  | name :: names =>
      if name = "" ∨ name = "." then follow reversed names
      else if name = ".." then follow reversed.tail names
      else follow (name :: reversed) names

/-- The path that a text names from a directory. -/
def resolve (directory : Path) (text : String) : Path :=
  let names := Text.parts '/' text
  if text.startsWith "/" then follow [] names else follow directory.reverse names

/-- What is found at a path. -/
def entry? (disk : Disk) (path : Path) : Option Entry :=
  if path = [] then some .directory
  else (disk.entries.find? (·.1 == path)).map (·.2)

/-- What is found at the end of the names that follow a directory. -/
def walk (disk : Disk) (before : Path) : List String → Except FileFault Entry
  | [] =>
      match disk.entry? before with
      | some entry => .ok entry
      | none => .error .notFound
  | name :: names =>
      match disk.entry? before with
      | none => .error .notFound
      | some .directory => walk disk (before ++ [name]) names
      | some _ => .error .notADirectory

/-- What is found at a path, every directory on the way being there. -/
def find (disk : Disk) (path : Path) : Except FileFault Entry := disk.walk [] path

/-- Puts an entry at a path. -/
def put (disk : Disk) (path : Path) (entry : Entry) : Disk :=
  ⟨if disk.entries.any (·.1 == path) then
      disk.entries.map fun e => if e.1 == path then (path, entry) else e
    else disk.entries ++ [(path, entry)]⟩

/-- The text of a file. -/
def read (disk : Disk) (path : Path) : Except FileFault String := do
  match ← disk.find path with
  | .directory => .error .isADirectory
  | .file text => return text
  | .sink => return ""
  | .full => return ""

/-- Changes the text of a file; one that is not there starts empty if its directory is there. -/
def change (disk : Disk) (path : Path) (f : String → String) : Except FileFault Disk :=
  match disk.find path with
  | .ok .directory => .error .isADirectory
  | .ok (.file text) => .ok (disk.put path (.file (f text)))
  | .ok .sink => .ok disk
  | .ok .full => if f "" = "" then .ok disk else .error .noSpace
  | .error .notFound =>
      match disk.find path.dropLast with
      | .ok .directory => .ok (disk.put path (.file (f "")))
      | .ok _ => .error .notADirectory
      | .error fault => .error fault
  | .error fault => .error fault

def write (disk : Disk) (path : Path) (text : String) : Except FileFault Disk :=
  disk.change path fun _ => text

def append (disk : Disk) (path : Path) (text : String) : Except FileFault Disk :=
  disk.change path fun before => before ++ text

/-- Makes the directories that follow one that is there. -/
def makeFrom (disk : Disk) (before : Path) : List String → Except FileFault Disk
  | [] => .ok disk
  | name :: names =>
      let path := before ++ [name]
      match disk.entry? path with
      | none => makeFrom (disk.put path .directory) path names
      | some .directory => makeFrom disk path names
      | some _ => .error (if names = [] then .alreadyExists else .notADirectory)

/-- Makes a directory and those that lead to it. -/
def makeDirectory (disk : Disk) (path : Path) : Except FileFault Disk := disk.makeFrom [] path

/-- The files within a directory, by the names that lead from it. -/
def filesWithin (disk : Disk) (directory : Path) : List Path :=
  disk.entries.filterMap fun e =>
    match e.2 with
    | .file _ => if directory.isPrefixOf e.1 then some (e.1.drop directory.length) else none
    | _ => none

end Disk

/-- A machine. -/
structure Machine where
  disk : Disk
  /-- The directory that paths start from. -/
  directory : Path
  environment : List (String × String)
  clock : Instant
  /-- The number of ids given. -/
  idsGiven : Nat
  output : String
  errors : String

namespace Machine

/-- The id of a number, in the form of a random one. -/
def idOf (n : Nat) : String :=
  "00000000-0000-4000-8000-" ++ String.ofList (Decimal.padded 12 n)

/-- Changes the disk. -/
def onDisk (change : Disk → Path → Except FileFault Disk) (path : String) :
    StateM Machine (Except FileFault Unit) := do
  let machine ← get
  match change machine.disk (Disk.resolve machine.directory path) with
  | .ok disk =>
      set { machine with disk := disk }
      return .ok ()
  | .error fault => return .error fault

/-- Runs commands on a machine; what is to be done again and again is done once. -/
def platform : Platform (StateM Machine) where
  readText path := do
    let machine ← get
    return machine.disk.read (Disk.resolve machine.directory path)
  writeText path text := onDisk (fun disk path => disk.write path text) path
  appendText path text := onDisk (fun disk path => disk.append path text) path
  makeDirectory path := onDisk Disk.makeDirectory path
  environment name := do
    return ((← get).environment.find? (·.1 == name)).map (·.2)
  now := do return (← get).clock
  freshId := do
    let machine ← get
    set { machine with idsGiven := machine.idsGiven + 1 }
    return idOf (machine.idsGiven + 1)
  timestamp := do return (← get).clock.toText
  print text := modify fun machine => { machine with output := machine.output ++ text }
  printError text := modify fun machine => { machine with errors := machine.errors ++ text }
  every _ action := action

end Machine

end AuditReminder
