/-
Exchanged records by their members.

Tiers, audits, requests and records are exchanged as the objects of their parts.  Their members say
so part by part, and each keeps its part in a place of its own (`apart_members`).
-/
import AuditReminder.Exchange.Decode
import AuditReminder.Exchange.Encode
import AuditReminder.Proofs.Document.Members

namespace AuditReminder

open Document

namespace Tier

def members : List (Member Tier) :=
  [⟨String, "name", true, Decode.text, .text, name, fun name tier => { tier with name := name }⟩,
    ⟨Int, "offset_days", true, Decode.int64, .integer, offsetDays,
      fun days tier => { tier with offsetDays := days }⟩,
    ⟨Kind, "kind", true, Exchange.kind, Kind.toJson, kind,
      fun kind tier => { tier with kind := kind }⟩]

theorem apart_members : Member.Apart members where
  names := by decide
  get_put := by simp [members]
  get_put_of_ne := by simp [members]
  ext a b h := by
    simp only [members, List.forall_mem_cons] at h
    obtain ⟨hname, hdays, hkind, -⟩ := h
    cases a
    cases b
    cases hname
    cases hdays
    cases hkind
    rfl

end Tier

namespace Audit

def members : List (Member Audit) :=
  [⟨String, "id", true, Decode.text, .text, id, fun id audit => { audit with id := id }⟩,
    ⟨String, "group", true, Decode.text, .text, group,
      fun group audit => { audit with group := group }⟩,
    ⟨NameSet, "owners", true, Exchange.nameSet, NameSet.toJson, owners,
      fun owners audit => { audit with owners := owners }⟩,
    ⟨Instant, "starts_at", true, Exchange.instant, Instant.toJson, startsAt,
      fun t audit => { audit with startsAt := t }⟩,
    ⟨Instant, "ends_at", true, Exchange.instant, Instant.toJson, endsAt,
      fun t audit => { audit with endsAt := t }⟩,
    ⟨AuditStatus, "status", true, Exchange.auditStatus, AuditStatus.toJson, status,
      fun status audit => { audit with status := status }⟩]

theorem apart_members : Member.Apart members where
  names := by decide
  get_put := by simp [members]
  get_put_of_ne := by simp [members]
  ext a b h := by
    simp only [members, List.forall_mem_cons] at h
    obtain ⟨hid, hgroup, howners, hstarts, hends, hstatus, -⟩ := h
    cases a
    cases b
    cases hid
    cases hgroup
    cases howners
    cases hstarts
    cases hends
    cases hstatus
    rfl

end Audit

namespace Request

def members : List (Member Request) :=
  [⟨String, "audit_id", true, Decode.text, .text, auditId,
      fun id request => { request with auditId := id }⟩,
    ⟨String, "group", true, Decode.text, .text, group,
      fun group request => { request with group := group }⟩,
    ⟨NameSet, "owners", true, Exchange.nameSet, NameSet.toJson, owners,
      fun owners request => { request with owners := owners }⟩,
    ⟨Instant, "ends_at", true, Exchange.instant, Instant.toJson, endsAt,
      fun t request => { request with endsAt := t }⟩,
    ⟨Int, "days_left", true, Decode.int64, .integer, daysLeft,
      fun days request => { request with daysLeft := days }⟩,
    ⟨String, "tier", true, Decode.text, .text, tier,
      fun tier request => { request with tier := tier }⟩,
    ⟨Kind, "kind", true, Exchange.kind, Kind.toJson, kind,
      fun kind request => { request with kind := kind }⟩]

theorem apart_members : Member.Apart members where
  names := by decide
  get_put := by simp [members]
  get_put_of_ne := by simp [members]
  ext a b h := by
    simp only [members, List.forall_mem_cons] at h
    obtain ⟨hid, hgroup, howners, hends, hdays, htier, hkind, -⟩ := h
    cases a
    cases b
    cases hid
    cases hgroup
    cases howners
    cases hends
    cases hdays
    cases htier
    cases hkind
    rfl

end Request

namespace Record

def members : List (Member Record) :=
  [⟨String, "audit_id", true, Decode.text, .text, auditId,
      fun id record => { record with auditId := id }⟩,
    ⟨String, "tier", true, Decode.text, .text, tier,
      fun tier record => { record with tier := tier }⟩,
    ⟨Instant, "sent_at", true, Exchange.instant, Instant.toJson, sentAt,
      fun t record => { record with sentAt := t }⟩]

theorem apart_members : Member.Apart members where
  names := by decide
  get_put := by simp [members]
  get_put_of_ne := by simp [members]
  ext a b h := by
    simp only [members, List.forall_mem_cons] at h
    obtain ⟨hid, htier, hsent, -⟩ := h
    cases a
    cases b
    cases hid
    cases htier
    cases hsent
    rfl

end Record

end AuditReminder
