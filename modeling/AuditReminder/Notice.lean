/-
Notices.

A renderer turns a request into a notice, which has a subject and a body.  It holds a pair of
templates for each kind of notice, the address of the place where members are reviewed, and the
date pattern in which deadlines are shown.  `Renderer.of` refuses templates and patterns that
are at fault; `Renderer.render` fills the templates.
-/
import AuditReminder.Dispatch
import AuditReminder.Template
import AuditReminder.Time.DatePattern

namespace AuditReminder

/-- A rendered reminder. -/
structure Notice where
  subject : String
  body : String
deriving DecidableEq

/-- What keeps a notice from being rendered. -/
inductive RenderStop where
  | fault (fault : RenderFault)
  /-- The date pattern holds a piece that cannot be printed. -/
  | unprintableDate
deriving DecidableEq

/-- Fills templates for requests. -/
structure Renderer where
  baseUrl : String
  dateFormat : String
  standard : TemplatePair
  reminder : TemplatePair
deriving DecidableEq

namespace Renderer

/-- Whether a text is a date pattern. -/
def checkDateFormat (format : String) : Except RenderFault Unit :=
  match DatePattern.read? format.toList with
  | some _ => .ok ()
  | none => .error (.invalidDateFormat format)

/-- A renderer whose pattern and templates are in order; the pattern is judged first. -/
def of (baseUrl dateFormat : String) (standard reminder : TemplatePair) :
    Except RenderFault Renderer := do
  checkDateFormat dateFormat
  standard.check .standard
  reminder.check .reminder
  return ⟨baseUrl, dateFormat, standard, reminder⟩

def defaultBaseUrl : String := "https://groups.example.com/"

def defaultDateFormat : String := "%Y-%m-%d"

def defaultStandard : TemplatePair :=
  { subject := "Membership audit for \x7b\x7bgroup\x7d\x7d"
    body :=
      "Group \x7b\x7bgroup\x7d\x7d is being audited.\n\n" ++
      "As an owner of \x7b\x7bgroup\x7d\x7d, please review its members and confirm who should\n" ++
      "keep access before \x7b\x7bends_at\x7d\x7d.\n\n" ++
      "Start the review here: \x7b\x7burl\x7d\x7d\n" }

def defaultReminder : TemplatePair :=
  { subject := "Reminder: membership audit for \x7b\x7bgroup\x7d\x7d"
    body :=
      "The membership audit for \x7b\x7bgroup\x7d\x7d ends on \x7b\x7bends_at\x7d\x7d " ++
      "(\x7b\x7bdays_left\x7d\x7d days left).\n\n" ++
      "If you have not finished reviewing its members, please do so here: \x7b\x7burl\x7d\x7d\n" }

/-- The renderer used when nothing is configured. -/
def default : Renderer := ⟨defaultBaseUrl, defaultDateFormat, defaultStandard, defaultReminder⟩

/-- The templates of a kind of notice. -/
def templates (r : Renderer) : Kind → TemplatePair
  | .standard => r.standard
  | .reminder => r.reminder

/-- A deadline in a date pattern. -/
def deadlineText (r : Renderer) (endsAt : Instant) : Except RenderStop String :=
  match (DatePattern.read? r.dateFormat.toList).bind (DatePattern.print? · endsAt) with
  | some text => .ok (String.ofList text)
  | none => .error .unprintableDate

/-- The value of a placeholder; an overdue reminder counts no days. -/
def lookup (r : Renderer) (request : Request) (name : String) : Except RenderStop String :=
  match Template.variableFault? request.kind name with
  | some fault => .error (.fault fault)
  | none =>
      if name = "group" then .ok request.group
      else if name = "url" then .ok r.baseUrl
      else if name = "ends_at" then r.deadlineText request.endsAt
      else if name = "tier" then .ok request.tier
      else if name = "days_left" then .ok (Decimal.text (max request.daysLeft 0))
      else .error (.fault (.unknownVariable name))

/-- The notice for a request: the subject is filled first. -/
def render (r : Renderer) (request : Request) : Except RenderStop Notice := do
  let pair := r.templates request.kind
  let unterminated := fun position => RenderStop.fault (.unterminated position)
  let subject ← Template.expand unterminated (r.lookup request) pair.subject
  let body ← Template.expand unterminated (r.lookup request) pair.body
  return ⟨subject, body⟩

end Renderer

end AuditReminder
