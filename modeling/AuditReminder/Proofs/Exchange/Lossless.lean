/-
Exchanged values and their JSON.

A value is carried by its JSON if it is decoded wherever that is read (`Carries`).  Texts, numbers,
instants and names carry what they are made of, a record is carried if each of its parts is, and a
list if each of its items is.  An outcome is laid out by hand: the fields of its status stand beside
the two of its own, are set aside while these are looked for, and make up the status afterwards.

Instants are carried as far as leap seconds end minutes.  A text has no other form for a leap second
within a minute than that of the next second, so what the calendar shows of such a value is carried
in its place (`Exchange.Format.toJson_shown`), and two values may have one text
(`Exchange.Format.lost_within_minute`).

Main statement: `Exchange.Format.lossless`.
-/
import AuditReminder.Proofs.Exchange.Members
import AuditReminder.Proofs.Time.Exchanged

namespace AuditReminder

open Document

/-! ## What JSON carries -/

/-- The value is decoded wherever its JSON is read, and this nests less than so many levels deep. -/
structure Carries {α : Type} (levels : Nat) (decode : Decoder α) (encode : α → Json) (a : α) :
    Prop where
  plain : (encode a).Plain levels
  decode_of_shows : ∀ (dialect : Dialect) (node : Node), (encode a).Shows node →
    decode dialect node = .ok a

namespace Carries

variable {α : Type} {levels : Nat} {decode : Decoder α} {encode : α → Json} {a : α}

theorem source_compact (h : Carries levels decode encode a) :
    Decode.source decode (encode a).compact = .ok a :=
  Json.source_of_shows h.plain (h.decode_of_shows .text)

theorem text (s : String) : Carries levels Decode.text .text s :=
  ⟨trivial, fun _ _ => Json.text_of_shows⟩

theorem int64 {n : Int} (h : isInt64 n = true) : Carries levels Decode.int64 .integer n := by
  refine ⟨Json.whole_of_isInt64 h, ?_⟩
  rintro dialect node ⟨after, rfl⟩
  exact Decode.int64_atom h

theorem nameSet (h : 1 < levels) (s : NameSet) : Carries levels Exchange.nameSet NameSet.toJson s :=
  ⟨s.plain_toJson h, fun _ _ => NameSet.decode_of_shows⟩

theorem instant {t : Instant} (h : t.LeapEndsMinute) :
    Carries levels Exchange.instant Instant.toJson t := by
  refine ⟨trivial, ?_⟩
  rintro dialect node ⟨after, rfl⟩
  simp only [Exchange.instant, Time.readRelaxed_toText, Instant.shown_of_leapEndsMinute h]

theorem kind (k : Kind) : Carries levels Exchange.kind Kind.toJson k := by
  refine ⟨trivial, ?_⟩
  rintro dialect node ⟨after, rfl⟩
  cases k <;> rfl

theorem auditStatus (status : AuditStatus) :
    Carries levels Exchange.auditStatus AuditStatus.toJson status := by
  refine ⟨trivial, ?_⟩
  rintro dialect node ⟨after, rfl⟩
  cases status <;> rfl

theorem list {values : List α} (hlevels : 1 < levels)
    (h : ∀ value ∈ values, Carries (levels - 1) decode encode value) :
    Carries levels (Decode.list decode) (fun values => .list (values.map encode)) values :=
  ⟨⟨hlevels, Json.plainItems_map fun value hvalue => (h value hvalue).plain⟩,
    fun dialect _ => Json.list_of_shows fun value hvalue => (h value hvalue).decode_of_shows dialect⟩

/-- A record is carried if each of its parts is. -/
theorem record {members : List (Member α)} {label : String} {draft : α} (hlevels : 1 < levels)
    (hapart : Member.Apart members)
    (h : ∀ member ∈ members, Carries (levels - 1) member.decode member.encode (member.get a)) :
    Carries levels (Decode.record label (members.map Member.slot) draft) (Member.toJson members)
      a := by
  refine ⟨⟨hlevels, Json.plainFields_iff.mpr fun field hfield => ?_⟩, fun dialect node hnode => ?_⟩
  · obtain ⟨member, hmember, rfl⟩ := List.mem_map.mp hfield
    exact (h member hmember).plain
  · exact Member.record_of_shows hapart
      (fun member hmember => (h member hmember).decode_of_shows dialect) hnode

theorem tier {tier : Tier} (hlevels : 1 < levels) (h : isInt64 tier.offsetDays = true) :
    Carries levels Exchange.tier Tier.toJson tier := by
  refine record hlevels Tier.apart_members ?_
  simp only [Tier.members, List.forall_mem_cons]
  exact ⟨text _, int64 h, kind _, fun _ hmember => by cases hmember⟩

theorem audit {audit : Audit} (hlevels : 2 < levels) (hstarts : audit.startsAt.LeapEndsMinute)
    (hends : audit.endsAt.LeapEndsMinute) : Carries levels Exchange.audit Audit.toJson audit := by
  refine record (by omega) Audit.apart_members ?_
  simp only [Audit.members, List.forall_mem_cons]
  exact ⟨text _, text _, nameSet (by omega) _, instant hstarts, instant hends, auditStatus _,
    fun _ hmember => by cases hmember⟩

theorem request {request : Request} (hlevels : 2 < levels) (h : isInt64 request.daysLeft = true)
    (hends : request.endsAt.LeapEndsMinute) :
    Carries levels Exchange.request Request.toJson request := by
  refine record (by omega) Request.apart_members ?_
  simp only [Request.members, List.forall_mem_cons]
  exact ⟨text _, text _, nameSet (by omega) _, instant hends, int64 h, text _, kind _,
    fun _ hmember => by cases hmember⟩

theorem dispatchRecord {record : Record} (hlevels : 1 < levels)
    (hsent : record.sentAt.LeapEndsMinute) :
    Carries levels Exchange.dispatchRecord Record.toJson record := by
  refine Carries.record hlevels Record.apart_members ?_
  simp only [Record.members, List.forall_mem_cons]
  exact ⟨text _, text _, instant hsent, fun _ hmember => by cases hmember⟩

end Carries

/-! ## Outcomes -/

namespace Status

theorem plainFields_fields (levels : Nat) (status : Status) :
    Json.PlainFields levels status.fields := by
  cases status with
  | sent => exact ⟨trivial, trivial⟩
  | skippedDuplicate => exact ⟨trivial, trivial⟩
  | failedRolledBack reason => exact ⟨trivial, trivial, trivial⟩
  | failedClaimRetained reason => exact ⟨trivial, trivial, trivial⟩

/-- A status is laid out under its word, and its reason beside it where it has one. -/
theorem map_fst_fields (status : Status) :
    status.fields.map Prod.fst = ["status"] ∨ status.fields.map Prod.fst = ["status", "reason"] := by
  cases status with
  | sent => exact .inl rfl
  | skippedDuplicate => exact .inl rfl
  | failedRolledBack reason => exact .inr rfl
  | failedClaimRetained reason => exact .inr rfl

/-- The fields of a status are named otherwise than those of an outcome. -/
theorem name_ne_of_mem_fields {status : Status} {field : String × Json}
    (h : field ∈ status.fields) : field.1 ≠ "audit_id" ∧ field.1 ≠ "tier" := by
  have hname : field.1 ∈ status.fields.map Prod.fst := List.mem_map_of_mem h
  rcases status.map_fst_fields with hnames | hnames
  · rw [hnames, List.mem_singleton] at hname
    rw [hname]
    decide
  · rw [hnames, List.mem_pair] at hname
    rcases hname with hname | hname <;> rw [hname] <;> decide

end Status

namespace Exchange

/-- Fields of other names than those of an outcome are set aside. -/
theorem splitOutcome_of_shows {dialect : Dialect} {auditId? tier? : Option String}
    (aside : List (String × Json)) {fields : List (String × Json)} {parts : List (Key × Node)}
    (hplain : Json.PlainFields (Decode.maxLevels - 1) fields)
    (hshows : Json.ShowsFields fields parts)
    (hnames : ∀ field ∈ fields, field.1 ≠ "audit_id" ∧ field.1 ≠ "tier") :
    splitOutcome dialect auditId? tier? aside parts
      = .ok (auditId?, tier?, aside.reverse ++ fields) := by
  induction fields generalizing aside parts with
  | nil =>
      obtain rfl : parts = [] := hshows
      rw [splitOutcome, List.append_nil]
  | cons field rest ih =>
      obtain ⟨node, others, rfl, hnode, hothers⟩ := hshows
      obtain ⟨hid, htier⟩ := hnames field List.mem_cons_self
      have hrest := ih (field :: aside) hplain.2 hothers fun other ho =>
        hnames other (List.mem_cons_of_mem _ ho)
      rw [splitOutcome, if_neg hid, if_neg htier, Json.json_of_shows _ _ _ hplain.1 hnode]
      simp only [bind, Except.bind]
      rw [hrest, List.reverse_cons, List.append_assoc]
      rfl

/-- A status is made up again from the fields it is laid out in. -/
theorem statusOfFields_fields (status : Status) :
    statusOfFields .setAside (Json.toFields status.fields) .closed = .ok status := by
  cases status <;> rfl

end Exchange

theorem Carries.outcome {levels : Nat} (outcome : Outcome) (hlevels : 1 < levels) :
    Carries levels Exchange.outcome Outcome.toJson outcome := by
  refine ⟨⟨hlevels, trivial, trivial, outcome.status.plainFields_fields _⟩, ?_⟩
  rintro dialect node ⟨parts, before, rfl, hshows⟩
  obtain ⟨_, _, rfl, ⟨after, rfl⟩, _, others, rfl, ⟨after', rfl⟩, hothers⟩ := hshows
  have hsplit : Exchange.splitOutcome dialect none none []
      ((.ok "audit_id", .atom (.text outcome.auditId) after) ::
        (.ok "tier", .atom (.text outcome.tier) after') :: others)
      = .ok (some outcome.auditId, some outcome.tier, outcome.status.fields) :=
    Exchange.splitOutcome_of_shows [] (outcome.status.plainFields_fields _) hothers
      fun _ => Status.name_ne_of_mem_fields
  simp only [Exchange.outcome, hsplit, Exchange.statusOfFields_fields, bind, Except.bind]
  rfl

/-! ## What is shown of a value -/

theorem Instant.toJson_shown (t : Instant) : t.shown.toJson = t.toJson := by
  rw [toJson, toJson, toText, toText, Time.isoText, Time.isoText, t.civil_shown]

/-- What the calendar shows of an audit. -/
def Audit.shown (audit : Audit) : Audit :=
  { audit with startsAt := audit.startsAt.shown, endsAt := audit.endsAt.shown }

theorem Audit.shown_eq_self_iff {audit : Audit} :
    audit.shown = audit ↔ audit.startsAt.LeapEndsMinute ∧ audit.endsAt.LeapEndsMinute := by
  cases audit
  simp [shown, Instant.shown_eq_self_iff]

theorem Audit.toJson_shown (audit : Audit) : audit.shown.toJson = audit.toJson := by
  simp only [toJson, shown, Instant.toJson_shown]

/-- What the calendar shows of a request. -/
def Request.shown (request : Request) : Request := { request with endsAt := request.endsAt.shown }

theorem Request.shown_eq_self_iff {request : Request} :
    request.shown = request ↔ request.endsAt.LeapEndsMinute := by
  cases request
  simp [shown, Instant.shown_eq_self_iff]

theorem Request.toJson_shown (request : Request) : request.shown.toJson = request.toJson := by
  simp only [toJson, shown, Instant.toJson_shown]

/-- What the calendar shows of a record. -/
def Record.shown (record : Record) : Record := { record with sentAt := record.sentAt.shown }

theorem Record.shown_eq_self_iff {record : Record} :
    record.shown = record ↔ record.sentAt.LeapEndsMinute := by
  cases record
  simp [shown, Instant.shown_eq_self_iff]

theorem Record.toJson_shown (record : Record) : record.shown.toJson = record.toJson := by
  simp only [toJson, shown, Instant.toJson_shown]

/-! ## Formats -/

namespace Exchange

/-- What is exchanged: audits, requests, records, outcomes, and the tiers of a schedule. -/
inductive Format where
  | audit
  | request
  | record
  | outcome
  | tiers

namespace Format

/-- The values of a format. -/
def Value : Format → Type
  | audit => Audit
  | request => Request
  | record => Record
  | outcome => Outcome
  | tiers => List Tier

def decoder : (format : Format) → Decoder format.Value
  | audit => Exchange.audit
  | request => Exchange.request
  | record => Exchange.dispatchRecord
  | outcome => Exchange.outcome
  | tiers => Exchange.tiers

def toJson : (format : Format) → format.Value → Json
  | audit => Audit.toJson
  | request => Request.toJson
  | record => Record.toJson
  | outcome => Outcome.toJson
  | tiers => fun tiers => .list (tiers.map Tier.toJson)

/-- The whole numbers of a value have 64 bits. -/
def Fits : (format : Format) → format.Value → Prop
  | request => fun (request : Request) => isInt64 request.daysLeft = true
  | tiers => fun (tiers : List Tier) => ∀ tier ∈ tiers, isInt64 tier.offsetDays = true
  | _ => fun _ => True

/-- The leap seconds of a value end minutes. -/
def LeapsEndMinutes : (format : Format) → format.Value → Prop
  | audit => fun (audit : Audit) => audit.startsAt.LeapEndsMinute ∧ audit.endsAt.LeapEndsMinute
  | request => fun (request : Request) => request.endsAt.LeapEndsMinute
  | record => fun (record : Record) => record.sentAt.LeapEndsMinute
  | _ => fun _ => True

/-- What the calendar shows of a value. -/
def shown : (format : Format) → format.Value → format.Value
  | audit => Audit.shown
  | request => Request.shown
  | record => Record.shown
  | outcome => id
  | tiers => id

theorem shown_eq_self_iff {format : Format} {value : format.Value} :
    format.shown value = value ↔ format.LeapsEndMinutes value := by
  cases format with
  | audit => exact Audit.shown_eq_self_iff
  | request => exact Request.shown_eq_self_iff
  | record => exact Record.shown_eq_self_iff
  | outcome => exact iff_of_true rfl trivial
  | tiers => exact iff_of_true rfl trivial

theorem leapsEndMinutes_shown (format : Format) (value : format.Value) :
    format.LeapsEndMinutes (format.shown value) := by
  cases format with
  | audit => exact ⟨Instant.leapEndsMinute_shown _, Instant.leapEndsMinute_shown _⟩
  | request => exact Instant.leapEndsMinute_shown _
  | record => exact Instant.leapEndsMinute_shown _
  | outcome => trivial
  | tiers => trivial

theorem fits_shown {format : Format} {value : format.Value} (h : format.Fits value) :
    format.Fits (format.shown value) := by
  cases format <;> exact h

/-- What is shown of a value has its text. -/
theorem toJson_shown (format : Format) (value : format.Value) :
    format.toJson (format.shown value) = format.toJson value := by
  cases format with
  | audit => exact Audit.toJson_shown value
  | request => exact Request.toJson_shown value
  | record => exact Record.toJson_shown value
  | outcome => rfl
  | tiers => rfl

theorem carries (format : Format) (value : format.Value) (h : format.Fits value)
    (hleap : format.LeapsEndMinutes value) :
    Carries Decode.maxLevels format.decoder format.toJson value := by
  cases format with
  | audit => exact .audit (by decide) hleap.1 hleap.2
  | request => exact .request (by decide) h hleap
  | record => exact .dispatchRecord (by decide) hleap
  | outcome => exact .outcome value (by decide)
  | tiers => exact .list (by decide) fun tier htier => .tier (by decide) (h tier htier)

/-- The format that JSON is in: each object but an outcome has a field of its own. -/
def ofJson : Json → Format
  | .object fields =>
      let names := fields.map Prod.fst
      if "id" ∈ names then audit
      else if "days_left" ∈ names then request
      else if "sent_at" ∈ names then record
      else outcome
  | _ => tiers

theorem ofJson_toJson (format : Format) (value : format.Value) :
    ofJson (format.toJson value) = format := by
  cases format with
  | audit => rfl
  | request => rfl
  | record => rfl
  | outcome =>
    cases value with
    | mk auditId tier status =>
      cases status <;> rfl
  | tiers => rfl

/-- No two fields of an object have one name. -/
theorem nodup_fields {format : Format} {value : format.Value} {fields : List (String × Json)}
    (h : format.toJson value = .object fields) : (fields.map Prod.fst).Nodup := by
  have hrecord {α : Type} {members : List (Member α)} (hapart : Member.Apart members) (a : α) :
      ((members.map (Member.shown a)).map Prod.fst).Nodup := by
    rw [Member.map_fst_shown]
    exact hapart.names
  cases format with
  | audit =>
    cases h
    exact hrecord Audit.apart_members value
  | request =>
    cases h
    exact hrecord Request.apart_members value
  | record =>
    cases h
    exact hrecord Record.apart_members value
  | outcome =>
    cases h
    show (["audit_id", "tier"] ++ (Outcome.status value).fields.map Prod.fst).Nodup
    rcases (Outcome.status value).map_fst_fields with hnames | hnames <;> rw [hnames] <;> decide
  | tiers => cases h

/-- A text is that of one value in one format, as far as leap seconds end minutes. -/
theorem eq_of_compact {format other : Format} {value : format.Value} {value' : other.Value}
    (h : format.Fits value) (hleap : format.LeapsEndMinutes value) (h' : other.Fits value')
    (hleap' : other.LeapsEndMinutes value')
    (htext : (other.toJson value').compact = (format.toJson value).compact) :
    (⟨other, value'⟩ : (format : Format) × format.Value) = ⟨format, value⟩ := by
  have hjson : other.toJson value' = format.toJson value := by
    have hread := Json.source_compact (other.carries value' h' hleap').plain
    rw [htext, Json.source_compact (format.carries value h hleap).plain] at hread
    exact (Except.ok.inj hread).symm
  obtain rfl : other = format := by
    rw [← ofJson_toJson other value', hjson, ofJson_toJson]
  have hvalue := (other.carries value' h' hleap').source_compact
  rw [htext, (other.carries value h hleap).source_compact] at hvalue
  rw [Except.ok.inj hvalue]

/-- The text of an exchanged value loses nothing but what the calendar does not show: what is decoded
from it is the value itself if its leap seconds end minutes, and otherwise what is shown of it.  It
is the text of no value of which anything else is shown, in any format, and no two fields have one
name. -/
theorem lossless (format : Format) (value : format.Value) (h : format.Fits value) :
    Decode.source format.decoder (format.toJson value).compact = .ok (format.shown value) ∧
    (format.shown value = value ↔ format.LeapsEndMinutes value) ∧
    (∀ (other : Format) (value' : other.Value), other.Fits value' →
      (other.toJson value').compact = (format.toJson value).compact →
        (⟨other, other.shown value'⟩ : (format : Format) × format.Value)
          = ⟨format, format.shown value⟩) ∧
    ∀ fields, format.toJson value = .object fields → (fields.map Prod.fst).Nodup := by
  have hfits := fits_shown h
  have hleaps := format.leapsEndMinutes_shown value
  refine ⟨?_, shown_eq_self_iff, fun other value' h' htext => ?_, fun _ => nodup_fields⟩
  · rw [← format.toJson_shown value]
    exact (format.carries _ hfits hleaps).source_compact
  · rw [← other.toJson_shown value', ← format.toJson_shown value] at htext
    exact eq_of_compact hfits hleaps (fits_shown h') (other.leapsEndMinutes_shown value') htext

/-- A request with the least number of days left, whose deadline lies in a leap second of the first
year there is. -/
def sampleRequest : Request where
  auditId := "a\"b"
  group := "\u00e9"
  owners := NameSet.ofList ["z", "y"]
  endsAt := ⟨earliestSecond + 59, 1_000_000_001, by decide, by decide⟩
  daysLeft := leastInt64
  tier := ""
  kind := .reminder

/-- An outcome whose reason looks like another field. -/
def sampleOutcome : Outcome := ⟨"a", "3d", .failedRolledBack "\",\"status\":\"sent"⟩

theorem lossless_sample :
    (Fits .request sampleRequest ∧
      sampleRequest.endsAt.toText = "-262143-01-01T00:00:60.000000001Z" ∧
      Decode.source Exchange.request sampleRequest.toJson.compact = .ok sampleRequest) ∧
    Fits .outcome sampleOutcome ∧
      Decode.source Exchange.outcome sampleOutcome.toJson.compact = .ok sampleOutcome := by
  have hfits : Fits .request sampleRequest := show isInt64 leastInt64 = true by decide
  have hleap : LeapsEndMinutes .request sampleRequest :=
    show sampleRequest.endsAt.LeapEndsMinute by decide
  obtain ⟨hread, hshown, -⟩ := lossless .request sampleRequest hfits
  rw [hshown.mpr hleap] at hread
  exact ⟨⟨hfits, by decide +kernel, hread⟩, trivial, (lossless .outcome sampleOutcome trivial).1⟩

/-- A record made in a leap second within a minute. -/
def madeWithinMinute : Record := ⟨"a", "3d", .withinMinute⟩

/-- A record in a leap second within a minute has the text of another record, and is decoded as that
one. -/
theorem lost_within_minute :
    madeWithinMinute.sentAt.toText = "1970-01-01T23:56:05.900Z" ∧
      madeWithinMinute ≠ madeWithinMinute.shown ∧
      madeWithinMinute.toJson.compact = madeWithinMinute.shown.toJson.compact ∧
      Decode.source Exchange.dispatchRecord madeWithinMinute.toJson.compact
        = .ok madeWithinMinute.shown := by
  have hshown : madeWithinMinute.toJson = madeWithinMinute.shown.toJson :=
    (toJson_shown .record madeWithinMinute).symm
  have hleaps : LeapsEndMinutes .record madeWithinMinute.shown :=
    leapsEndMinutes_shown .record madeWithinMinute
  refine ⟨by decide +kernel, by decide, congrArg Json.compact hshown, ?_⟩
  rw [hshown]
  exact (carries .record madeWithinMinute.shown trivial hleaps).source_compact

end Format

end Exchange

end AuditReminder
