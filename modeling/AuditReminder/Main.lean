/-
The program.

Runs a command line on the machine at hand.
-/
import AuditReminder.Command.Perform
import Std.Time.DateTime.Timestamp

namespace AuditReminder.Main

/-- What the operating system says of a file, as a fault. -/
def fileFault : IO.Error → FileFault
  | .noFileOrDirectory _ _ _ => .notFound
  | .alreadyExists _ _ _ => .alreadyExists
  | .inappropriateType _ _ _ => .isADirectory
  | .resourceExhausted _ _ _ => .noSpace
  | error => .other (toString error)

/-- An operation on a file with its fault. -/
def onFile (action : IO α) : IO (Except FileFault α) := do
  try
    return .ok (← action)
  catch error =>
    return .error (fileFault error)

/-- Adds text to the end of a file. -/
def appendTo (path text : String) : IO Unit := do
  let handle ← IO.FS.Handle.mk path .append
  handle.putStr text
  handle.flush

/-- The present instant. -/
def presentInstant : IO Instant := do
  let time ← Std.Time.Timestamp.now
  let milliseconds := time.toMillisecondsSinceUnixEpoch.val
  return (Instant.ofMilliseconds? milliseconds).getD .epoch

/-- An id of random digits. -/
def randomId : IO String := do
  let bytes := (← IO.getRandomBytes 16).toList.map UInt8.toNat
  let variant := Nat.digitChar (8 + (bytes.drop 8).headD 0 % 4)
  let digits := ((bytes.flatMap Hexadecimal.byte).set 12 '4').set 16 variant
  let group := fun start count => String.ofList ((digits.drop start).take count)
  return String.intercalate "-"
    [group 0 8, group 8 4, group 12 4, group 16 4, group 20 12]

/-- Carries an action out again and again. -/
partial def repeatEvery (seconds : Nat) (action : IO Unit) : IO Unit := do
  action
  IO.sleep (UInt32.ofNat (min (seconds * 1000) 4_294_967_295))
  repeatEvery seconds action

/-- The machine at hand. -/
def thisMachine : Platform IO where
  readText path := onFile (IO.FS.readFile path)
  writeText path text := onFile (IO.FS.writeFile path text)
  appendText path text := onFile (appendTo path text)
  makeDirectory path := onFile (IO.FS.createDirAll path)
  environment name := IO.getEnv name
  now := presentInstant
  freshId := randomId
  timestamp := do return (← presentInstant).toText
  print text := IO.print text
  printError text := IO.eprint text
  every seconds action := repeatEvery seconds action

end AuditReminder.Main

/-- Carries out the command line. -/
def main (words : List String) : IO UInt32 := do
  let status ← AuditReminder.perform AuditReminder.Main.thisMachine words
  return UInt32.ofNat status
