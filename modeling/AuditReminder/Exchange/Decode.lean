/-
Values taken from other programs.

Each exchanged value is decoded from a document of the form in which it is encoded, or from the
list of its parts.  Fields of other names are passed over.  A status may stand alone, as an object
with its word under `status`, or among the fields of an outcome.
-/
import AuditReminder.Document.Decode
import AuditReminder.Notice

namespace AuditReminder.Exchange

open Document Decode

/-- A set of texts. -/
def nameSet : Decoder NameSet := fun dialect node => (list text dialect node).map NameSet.ofList

/-- An instant in a relaxed form of RFC 3339. -/
def instant : Decoder Instant := fun _ node =>
  match node with
  | .atom (.text s) after =>
      match Time.readRelaxed s.toList with
      | .ok t => .ok t
      | .error fault => .error ⟨.refused fault.message, after⟩
  | node => .error (node.mismatch "an RFC 3339 formatted date and time string")

/-- The words of a type whose values have words. -/
def words (text : α → String) (values : List α) : List (String × α) :=
  values.map fun value => (text value, value)

def kind : Decoder Kind := variant (words Kind.text Kind.all)

def auditStatus : Decoder AuditStatus := variant (words AuditStatus.text AuditStatus.all)

def state : Decoder State := variant (words State.text State.all)

def tier : Decoder Tier :=
  record "struct ReminderTier"
    [.needed "name" text fun name tier => { tier with name := name },
      .needed "offset_days" int64 fun days tier => { tier with offsetDays := days },
      .needed "kind" kind fun kind tier => { tier with kind := kind }]
    ⟨"", 0, .standard⟩

def tiers : Decoder (List Tier) := list tier

def audit : Decoder Audit :=
  record "struct AuditPeriod"
    [.needed "id" text fun id audit => { audit with id := id },
      .needed "group" text fun group audit => { audit with group := group },
      .needed "owners" nameSet fun owners audit => { audit with owners := owners },
      .needed "starts_at" instant fun t audit => { audit with startsAt := t },
      .needed "ends_at" instant fun t audit => { audit with endsAt := t },
      .needed "status" auditStatus fun status audit => { audit with status := status }]
    ⟨"", "", .empty, .epoch, .epoch, .open⟩

def request : Decoder Request :=
  record "struct DispatchRequest"
    [.needed "audit_id" text fun id request => { request with auditId := id },
      .needed "group" text fun group request => { request with group := group },
      .needed "owners" nameSet fun owners request => { request with owners := owners },
      .needed "ends_at" instant fun t request => { request with endsAt := t },
      .needed "days_left" int64 fun days request => { request with daysLeft := days },
      .needed "tier" text fun tier request => { request with tier := tier },
      .needed "kind" kind fun kind request => { request with kind := kind }]
    ⟨"", "", .empty, .epoch, 0, "", .standard⟩

def dispatchRecord : Decoder Record :=
  record "struct DispatchRecord"
    [.needed "audit_id" text fun id record => { record with auditId := id },
      .needed "tier" text fun tier record => { record with tier := tier },
      .needed "sent_at" instant fun t record => { record with sentAt := t }]
    ⟨"", "", .epoch⟩

def templatePair : Decoder TemplatePair :=
  record "struct TemplatePair"
    [.needed "subject" text fun subject pair => { pair with subject := subject },
      .needed "body" text fun body pair => { pair with body := body }]
    ⟨"", ""⟩

def notice : Decoder Notice :=
  record "struct RenderedNotification"
    [.needed "subject" text fun subject notice => { notice with subject := subject },
      .needed "body" text fun body notice => { notice with body := body }]
    ⟨"", ""⟩

/-! ## Statuses -/

/-- The variants of a status, before their reason is known. -/
inductive StatusWord where
  | sent
  | skippedDuplicate
  | failedRolledBack
  | failedClaimRetained
deriving DecidableEq

def statusWords : List (String × StatusWord) :=
  [("sent", .sent), ("skipped_duplicate", .skippedDuplicate),
    ("failed_rolled_back", .failedRolledBack), ("failed_claim_retained", .failedClaimRetained)]

/-- The word of a status.  Among parts set aside its number may stand for it. -/
def statusWord : Decoder StatusWord := fun dialect node =>
  match dialect, node with
  | _, .atom (.text s) _ => variantOf statusWords s
  | .setAside, .atom (.integer n) after =>
      if n < 0 then .error (node.mismatch "variant identifier")
      else match statusWords[n.toNat]? with
        | some (_, word) => .ok word
        | none =>
            .error ⟨.invalidValue ("integer " ++ quoted (Decimal.text n))
              "variant index 0 <= i < 4", after⟩
  | _, node => .error (node.mismatch "variant identifier")

/-- The name under which the word of a status stands. -/
def statusTag : String := "status"

/-- The word of a status and the fields beside it, which are set aside. -/
def splitTag (dialect : Dialect) (word? : Option StatusWord) (aside : List (String × Json)) :
    List (Key × Node) → Except Fault (Option StatusWord × List (String × Json))
  | [] => .ok (word?, aside.reverse)
  | (.error fault, _) :: _ => .error fault
  | (.ok name, node) :: rest =>
      if name = statusTag then
        if word?.isSome then .error (.of (.duplicateField statusTag))
        else do
          let word ← statusWord dialect node
          splitTag dialect (some word) aside rest
      else do
        let value ← json (maxLevels - 1) node
        splitTag dialect word? ((name, value) :: aside) rest

/-- The reason of a failure, from the parts beside its word. -/
def reason (label : String) (aside : Node) : Except Fault String :=
  record ("struct variant DispatchStatus::" ++ label)
    [.needed "reason" text fun reason _ => reason] "" .setAside aside

/-- Nothing, from the parts beside a word that needs none. -/
def noParts (aside : Node) : Except Fault Unit :=
  match aside with
  | .list items _ _ =>
      match surplus .setAside 0 items.length with
      | some fault => .error fault
      | none => .ok ()
  | _ => .ok ()

/-- A status from its word and the parts beside it. -/
def statusOf (aside : Node) : StatusWord → Except Fault Status
  | .sent => do
      noParts aside
      return .sent
  | .skippedDuplicate => do
      noParts aside
      return .skippedDuplicate
  | .failedRolledBack => (reason "FailedRolledBack" aside).map .failedRolledBack
  | .failedClaimRetained => (reason "FailedClaimRetained" aside).map .failedClaimRetained

/-- A status from fields among which its word stands. -/
def statusOfFields (dialect : Dialect) (fs : List (Key × Node)) (ending : Ending) :
    Except Fault Status := do
  let (word?, aside) ← splitTag dialect none [] fs
  match ending with
  | .cut fault _ => .error fault
  | .closed =>
      match word? with
      | none => .error (.of (.missingField statusTag))
      | some word => statusOf (Json.object aside).toNode word

/-- A status: an object with its word, or a list that starts with it. -/
def status : Decoder Status := fun dialect node =>
  match node with
  | .record fs ending _ => statusOfFields dialect fs ending
  | .list [] ending _ =>
      match ending with
      | .cut fault _ => .error fault
      | .closed => .error (.of (.missingField statusTag))
  | .list (tag :: nodes) ending _ => do
      let word ← statusWord dialect tag
      let aside ← jsonItems (maxLevels - 1) nodes
      match ending with
      | .cut fault _ => .error fault
      | .closed => statusOf (Json.list aside).toNode word
  | node => .error (node.mismatch "internally tagged enum DispatchStatus")

/-- The fields of an outcome: its audit, its tier, and the others set aside. -/
def splitOutcome (dialect : Dialect) (auditId? tier? : Option String)
    (aside : List (String × Json)) :
    List (Key × Node) → Except Fault (Option String × Option String × List (String × Json))
  | [] => .ok (auditId?, tier?, aside.reverse)
  | (.error fault, _) :: _ => .error fault
  | (.ok name, node) :: rest =>
      if name = "audit_id" then
        if auditId?.isSome then .error (.of (.duplicateField name))
        else do
          let id ← text dialect node
          splitOutcome dialect (some id) tier? aside rest
      else if name = "tier" then
        if tier?.isSome then .error (.of (.duplicateField name))
        else do
          let tier ← text dialect node
          splitOutcome dialect auditId? (some tier) aside rest
      else do
        let value ← json (maxLevels - 1) node
        splitOutcome dialect auditId? tier? ((name, value) :: aside) rest

/-- An outcome, with its status laid out among its fields. -/
def outcome : Decoder Outcome := fun dialect node =>
  match node with
  | .record fs ending _ => do
      let (auditId?, tier?, aside) ← splitOutcome dialect none none [] fs
      if let .cut fault _ := ending then .error fault
      let some auditId := auditId? | .error (.of (.missingField "audit_id"))
      let some tier := tier? | .error (.of (.missingField "tier"))
      let status ← statusOfFields .setAside (Json.toFields aside) .closed
      return ⟨auditId, tier, status⟩
  | node => .error (node.mismatch "struct DispatchOutcome")

end AuditReminder.Exchange
