/-
The machine that commands run on.

A command reads and writes files, looks at the clock, takes fresh ids, prints, and may do something
again and again.  `Platform` names these operations for any monad, so that a command can be run on
a real machine or on one that is a value.  An operation on a file fails for one of a few reasons,
whose texts are those of the operating system.
-/
import AuditReminder.Time.Instant

namespace AuditReminder

/-- Why an operation on a file fails. -/
inductive FileFault where
  | notFound
  | alreadyExists
  | notADirectory
  | isADirectory
  | noSpace
  | other (reason : String)
deriving DecidableEq

namespace FileFault

def message : FileFault → String
  | notFound => "No such file or directory (os error 2)"
  | alreadyExists => "File exists (os error 17)"
  | notADirectory => "Not a directory (os error 20)"
  | isADirectory => "Is a directory (os error 21)"
  | noSpace => "No space left on device (os error 28)"
  | other reason => reason

end FileFault

/-- What a command asks of its machine. -/
structure Platform (m : Type → Type) where
  readText : String → m (Except FileFault String)
  /-- Replaces what a file holds; a file that is not there is made. -/
  writeText : String → String → m (Except FileFault Unit)
  /-- Adds to the end of a file; a file that is not there is made. -/
  appendText : String → String → m (Except FileFault Unit)
  /-- Makes a directory and all that lead to it; those that are there already are kept. -/
  makeDirectory : String → m (Except FileFault Unit)
  /-- The value of an environment variable. -/
  environment : String → m (Option String)
  now : m Instant
  /-- An id that has not been given before. -/
  freshId : m String
  /-- The time written in front of a line of the journal. -/
  timestamp : m String
  print : String → m Unit
  printError : String → m Unit
  /-- Carries an action out every so many seconds, at first at once, until told to stop. -/
  every : Nat → m Unit → m Unit

end AuditReminder
