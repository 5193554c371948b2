/-
The outbox.

A reminder is handed on as one line of JSON: its recipients, its subject and its body.  A sink
takes lines; its writes and its flushes may begin to fail after a number of messages.  A write
that fails leaves nothing behind, but a flush that fails comes after its line was written.
-/
import AuditReminder.Exchange.Encode

namespace AuditReminder

/-- Why a reminder is not delivered. -/
inductive DeliveryFault where
  | noRecipients
  | transport (reason : String)
deriving DecidableEq

namespace DeliveryFault

def message : DeliveryFault → String
  | noRecipients => "No recipients"
  | transport reason => "Transport failure: " ++ reason

end DeliveryFault

/-- A reminder as it is handed on. -/
structure Message where
  recipients : NameSet
  subject : String
  body : String
deriving DecidableEq

namespace Message

def toJson (m : Message) : Json :=
  .object [("to", m.recipients.toJson), ("subject", .text m.subject), ("body", .text m.body)]

/-- The line of a message, with the break that ends it. -/
def line (m : Message) : String := m.toJson.compact ++ "\n"

end Message

/-- Takes lines: what was written, how often it was flushed, and from which flush on writes and
flushes fail. -/
structure Sink where
  written : String
  flushes : Nat
  writesFailFrom : Option Nat
  flushesFailFrom : Option Nat
deriving DecidableEq

namespace Sink

/-- A sink that never fails. -/
def reliable : Sink := ⟨"", 0, none, none⟩

/-- Whether a limit has been reached. -/
def reached (limit : Option Nat) (flushes : Nat) : Bool :=
  match limit with
  | none => false
  | some n => n ≤ flushes

/-- Writes one line and flushes it. -/
def put (sink : Sink) (line : String) : Except DeliveryFault Unit × Sink :=
  if reached sink.writesFailFrom sink.flushes then (.error (.transport "closed"), sink)
  else
    let sink := { sink with written := sink.written ++ line }
    if reached sink.flushesFailFrom sink.flushes then (.error (.transport "disk full"), sink)
    else (.ok (), { sink with flushes := sink.flushes + 1 })

/-- Hands a message on; one without recipients is refused and writes nothing. -/
def send (sink : Sink) (m : Message) : Except DeliveryFault Unit × Sink :=
  if m.recipients.isEmpty then (.error .noRecipients, sink) else sink.put m.line

end Sink

end AuditReminder
