/-
Domain names.

A domain name is a row of labels with points between them.  Its characters are mapped to those that
stand for them and composed; each label must be well formed, and together they keep to one
direction.  A label with characters outside ASCII is written in letters and digits after `xn--`.
Main definition: `domain?`.
-/
import AuditReminder.Text.Canonical
import AuditReminder.Text.Direction
import AuditReminder.Text.Joining
import AuditReminder.Url.Address
import AuditReminder.Url.Mapping
import AuditReminder.Url.Punycode

namespace AuditReminder.Url

/-- Characters that may not stand in a domain name. -/
def isForbiddenInDomain (c : Char) : Bool :=
  c.toNat ≤ 0x20 || c.toNat == 0x7F || "%#/:<>?@[\\]^|".toList.contains c

/-- What a label that is written in letters and digits starts with. -/
def encodedMark : List Char := ['x', 'n', '-', '-']

def isAscii (cs : List Char) : Bool := cs.all fun c => c.toNat < 128

/-- Whether a label stands for itself: each character does, and nothing is left to compose. -/
def isSettled (label : List Char) : Bool :=
  (label.all fun c => mapChar? c == some [c]) && Text.Canonical.compose label == label

/-- Whether a label is well formed: no mark at its start, and joiners only where they may stand. -/
def isWellFormed (label : List Char) : Bool :=
  !(label.head?.any Text.isMark) && Text.joinersFit label

/-- The characters that a mapped label shows. -/
def label? (label : List Char) : Option (List Char) :=
  if encodedMark.isPrefixOf label then do
    let decoded ← Punycode.decode? (label.drop encodedMark.length)
    if isAscii decoded ∨ !isSettled decoded ∨ !isWellFormed decoded then none else some decoded
  else if isWellFormed label then some label
  else none

/-- A label in ASCII. -/
def labelText (label : List Char) : List Char :=
  if isAscii label then label else encodedMark ++ Punycode.encode label

/-- A domain name in ASCII. -/
def domain? (cs : List Char) : Option (List Char) := do
  let mapped ← cs.mapM mapChar?
  let labels ← (Text.split '.' (Text.Canonical.compose mapped.flatten)).mapM label?
  let text := Text.join '.' (labels.map labelText)
  if Text.keepDirections labels ∧ !text.any isForbiddenInDomain then some text else none

end AuditReminder.Url
