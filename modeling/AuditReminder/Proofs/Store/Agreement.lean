/-
The two stores are the same store.

The store in memory keeps audits and records as they are, and its audits in the order of their ids;
the database keeps rows of texts in the order in which they came.  For instants of whole
milliseconds in years of four digits nothing of this shows, as long as no id is added twice: the one
store would replace the audit and the other refuse it.  Leap seconds are kept by both where they end
a minute; one after another second is kept in memory alone, and the database tells of the next
second in its place (`Operations.apart_within_minute`).

    Agree taken store db     the rows of the database are those of the audits and records in memory:
                             the audits up to their order, the records in the same order

Every operation keeps the two in agreement and is answered alike.  Lists of audits agree although
the audits come in another order, since no two audits have the same place in a list
(`ByTime.mergeSort_eq_of_perm`).  A pass is made of such operations, so it reports and sends the
same over either store.

Main statement: `Operations.same_store`.
-/
import AuditReminder.Proofs.Store.Contents
import AuditReminder.Proofs.Store.Listed
import AuditReminder.Proofs.Store.Operations

namespace AuditReminder

theorem Audit.IsCommon.closedAt {audit : Audit} (h : audit.IsCommon) (id : AuditId) :
    (audit.closedAt id).IsCommon := by
  unfold Audit.closedAt
  split <;> exact h

/-! ## Agreement -/

/-- The rows of the database are those of the audits and records in memory.  The ids of the audits
are among those taken. -/
structure Agree (taken : List AuditId) (store : Memory) (db : Database) : Prop where
  rows : ∃ audits : List Audit, audits.Perm store.audits ∧ db.Holds audits store.records
  keyed : store.Keyed
  audits : ∀ audit ∈ store.audits, audit.IsCommon
  records : ∀ record ∈ store.records, record.sentAt.IsCommon
  taken : ∀ audit ∈ store.audits, audit.id ∈ taken

/-- The id of the audit, unless something is wrong with it. -/
def Audit.accepted? (audit : Audit) : Option AuditId :=
  if audit.fault? = none then some audit.id else none

theorem Memory.nodup_ids {store : Memory} (h : store.Keyed) : (store.audits.map Audit.id).Nodup :=
  List.pairwise_map.mpr (h.imp fun {_ _} hlt => String.ne_of_lt hlt)

/-- A fresh id finds its place among the others, and none gives way. -/
theorem Memory.perm_place {audit : Audit} {audits : List Audit}
    (h : audit.id ∉ audits.map Audit.id) : (place audit audits).Perm (audit :: audits) := by
  induction audits with
  | nil => exact .refl _
  | cons head rest ih =>
      rw [List.map_cons, List.mem_cons, not_or] at h
      rw [place]
      split
      · exact .refl _
      · rw [if_neg h.1]
        exact ((ih h.2).cons head).trans (.swap audit head rest)

namespace Agree

variable {taken : List AuditId} {store : Memory} {db : Database} {c : Connection}

theorem start : Agree [] .empty .fresh where
  rows := ⟨[], .refl _, Database.holds_fresh⟩
  keyed := Memory.keyed_empty
  audits := by
    intro audit ha
    cases ha
  records := by
    intro record hr
    cases hr
  taken := by
    intro audit ha
    cases ha

/-- An audit under an id that nobody took comes into both stores, and a wrong one into neither. -/
theorem add (h : Agree taken store db) {audit : Audit} (hcommon : audit.IsCommon)
    (hid : ∀ id ∈ audit.accepted?, id ∉ taken) :
    (Memory.operations.add store audit).1 = (db.addAudit c audit).1 ∧
      Agree (audit.accepted?.toList ++ taken) (Memory.operations.add store audit).2
        (db.addAudit c audit).2 := by
  cases hfault : audit.fault? with
  | some fault =>
      have hrejected : audit.accepted? = none := by rw [Audit.accepted?, hfault]; rfl
      have hmemory : Memory.operations.add store audit = (.error (.invalid fault), store) := by
        simp only [Memory.operations, Memory.add, hfault]
      rw [Database.Holds.addAudit_invalid hfault, hmemory, hrejected]
      exact ⟨rfl, h⟩
  | none =>
      have haccepted : audit.accepted? = some audit.id := if_pos hfault
      have hmemory : Memory.operations.add store audit
          = (.ok (), { store with audits := Memory.place audit store.audits }) := by
        simp only [Memory.operations, Memory.add, hfault]
      have hnew : audit.id ∉ store.audits.map Audit.id := by
        intro hmem
        obtain ⟨other, hother, he⟩ := List.mem_map.mp hmem
        exact hid audit.id haccepted (he ▸ h.taken other hother)
      obtain ⟨audits, hperm, hholds⟩ := h.rows
      obtain ⟨db', hadd, hholds'⟩ := hholds.addAudit_new (c := c) hfault
        (mt (hperm.map Audit.id).mem_iff.mp hnew)
      rw [hmemory, hadd, haccepted]
      have hplace : (audits ++ [audit]).Perm (Memory.place audit store.audits) :=
        ((List.perm_append_singleton audit audits).trans (hperm.cons audit)).trans
          (Memory.perm_place hnew).symm
      refine ⟨rfl, ⟨_, hplace, hholds'⟩, Memory.keyed_place h.keyed, ?_, h.records, ?_⟩
      · intro other hother
        rcases Memory.mem_place hother with rfl | hother
        · exact hcommon
        · exact h.audits other hother
      · intro other hother
        rcases Memory.mem_place hother with rfl | hother
        · exact List.mem_cons_self
        · exact List.mem_cons_of_mem _ (h.taken other hother)

theorem close (h : Agree taken store db) (id : AuditId) :
    (Memory.operations.close store id).1 = (db.close c id).1 ∧
      Agree taken (Memory.operations.close store id).2 (db.close c id).2 := by
  obtain ⟨audits, hperm, hholds⟩ := h.rows
  obtain ⟨db', hclose, hholds'⟩ := hholds.close (c := c) id
  rw [hclose]
  refine ⟨congrArg Except.ok hperm.symm.any_eq,
    ⟨_, hperm.map (Audit.closedAt id), hholds'⟩, Memory.keyed_close h.keyed id, ?_, ?_, ?_⟩
  · intro closed hclosed
    obtain ⟨audit, haudit, rfl⟩ := List.mem_map.mp hclosed
    exact (h.audits audit haudit).closedAt id
  · intro record hrecord
    exact h.records record (List.mem_filter.mp hrecord).1
  · intro closed hclosed
    obtain ⟨audit, haudit, rfl⟩ := List.mem_map.mp hclosed
    exact (Audit.id_closedAt id audit).symm ▸ h.taken audit haudit

theorem claim (h : Agree taken store db) {now : Instant} (hnow : now.IsCommon) (id : AuditId)
    (tier : String) :
    (Memory.backend.claim store id tier now).1 = (db.claim c id tier now).1 ∧
      Agree taken (Memory.backend.claim store id tier now).2 (db.claim c id tier now).2 := by
  obtain ⟨audits, hperm, hholds⟩ := h.rows
  cases hpair : store.records.any fun r => r.auditId == id && r.tier == tier with
  | true =>
      have hmemory : store.claim id tier now = (false, store) := by
        rw [Memory.claim, Memory.isClaimed, hpair]
        rfl
      obtain ⟨db', hclaim, hholds'⟩ := hholds.claim_taken (c := c) hpair now
      simp only [Memory.backend, hmemory, hclaim]
      exact ⟨trivial, ⟨audits, hperm, hholds'⟩, h.keyed, h.audits, h.records, h.taken⟩
  | false =>
      have hmemory : store.claim id tier now
          = (true, { store with records := store.records ++ [⟨id, tier, now⟩] }) := by
        rw [Memory.claim, Memory.isClaimed, hpair]
        rfl
      obtain ⟨db', hclaim, hholds'⟩ := hholds.claim_new (c := c) hpair now
      simp only [Memory.backend, hmemory, hclaim]
      refine ⟨trivial, ⟨audits, hperm, hholds'⟩, h.keyed, h.audits, ?_, h.taken⟩
      intro record hrecord
      rcases List.mem_append.mp hrecord with hrecord | hrecord
      · exact h.records record hrecord
      · rw [List.mem_singleton.mp hrecord]
        exact hnow

theorem release (h : Agree taken store db) (id : AuditId) (tier : String) :
    (Memory.backend.release store id tier).1 = (db.release c id tier).1 ∧
      Agree taken (Memory.backend.release store id tier).2 (db.release c id tier).2 := by
  obtain ⟨audits, hperm, hholds⟩ := h.rows
  obtain ⟨db', hrelease, hholds'⟩ := hholds.release (c := c) id tier
  rw [hrelease]
  refine ⟨rfl, ⟨audits, hperm, hholds'⟩, h.keyed, h.audits, ?_, h.taken⟩
  intro record hrecord
  exact h.records record (List.mem_filter.mp hrecord).1

theorem listOpen (h : Agree taken store db) :
    Memory.backend.listOpen store = (Database.backend c).listOpen db := by
  obtain ⟨audits, hperm, hholds⟩ := h.rows
  have hcommon : ∀ audit ∈ audits, audit.IsCommon := fun audit ha =>
    h.audits audit (hperm.mem_iff.mp ha)
  have hids : ((store.audits.filter Audit.isOpen).map Audit.id).Nodup :=
    (Memory.nodup_ids h.keyed).sublist (List.filter_sublist.map _)
  have hkept : (audits.filter Audit.isOpen).map Audit.kept = audits.filter Audit.isOpen := by
    rw [List.map_congr_left fun audit ha =>
      (hcommon audit (List.mem_filter.mp ha).1).kept_eq, List.map_id']
  calc Memory.backend.listOpen store
      = .ok ((store.audits.filter Audit.isOpen).mergeSort Audit.listedBefore) := rfl
    _ = .ok ((audits.filter Audit.isOpen).mergeSort Audit.listedBefore) := by
        rw [ByTime.mergeSort_eq_of_perm Audit.listedBefore_iff (hperm.filter _) hids]
    _ = (db.view c).listOpen := by
        rw [hholds.listOpen fun audit ha => (hcommon audit ha).plain, hkept]

theorem sentTiers (h : Agree taken store db) (id : AuditId) :
    Memory.backend.sentTiers store id = (Database.backend c).sentTiers db id := by
  obtain ⟨audits, -, hholds⟩ := h.rows
  exact (hholds.sentTiers id).symm

theorem recordsOf (h : Agree taken store db) (id : AuditId) :
    Memory.operations.recordsOf store id = (db.view c).recordsOf id := by
  obtain ⟨audits, -, hholds⟩ := h.rows
  have hkept : (store.records.filter (·.auditId == id)).map Record.kept
      = store.records.filter (·.auditId == id) := by
    rw [List.map_congr_left fun record hr =>
      Record.kept_eq (h.records record (List.mem_filter.mp hr).1), List.map_id']
  rw [hholds.recordsOf (fun record hr => (h.records record hr).1) id, hkept]
  rfl

/-- Stores in agreement answer a pass alike. -/
theorem related {now : Instant} (hnow : now.IsCommon) :
    Backend.Related (Agree taken) now Memory.backend (Database.backend c) where
  listOpen h := h.listOpen
  sentTiers h id := h.sentTiers id
  claim h id tier := h.claim hnow id tier
  release h id tier := h.release id tier

end Agree

/-! ## Calls -/

namespace Call

variable {ω : Type}

/-- The instants of the call are common. -/
def IsCommon : Call ω → Prop
  | .add audit => audit.IsCommon
  | .claim _ _ now => now.IsCommon
  | .pass _ _ _ now => now.IsCommon
  | _ => True

/-- The id under which an audit is added. -/
def accepted? : Call ω → Option AuditId
  | .add audit => audit.accepted?
  | _ => none

end Call

namespace Operations

variable {ω : Type} {taken : List AuditId} {c : Connection}

/-- One call is answered alike. -/
theorem perform_agree {call : Call ω} (hcall : call.IsCommon)
    (hid : ∀ id ∈ call.accepted?, id ∉ taken) {scene : Scene Memory ω} {scene' : Scene Database ω}
    (h : scene.Related (Agree taken) scene') :
    (Memory.operations.perform call scene).1 = ((Database.operations c).perform call scene').1 ∧
      (Memory.operations.perform call scene).2.Related (Agree (call.accepted?.toList ++ taken))
        ((Database.operations c).perform call scene').2 := by
  have hstore := h.store
  cases call with
  | add audit =>
      obtain ⟨hanswer, hagree⟩ := hstore.add (c := c) hcall hid
      exact ⟨congrArg Reply.added hanswer, hagree, h.out, h.events⟩
  | close id =>
      obtain ⟨hanswer, hagree⟩ := hstore.close (c := c) id
      exact ⟨congrArg Reply.closed hanswer, hagree, h.out, h.events⟩
  | listOpen => exact ⟨congrArg Reply.listed hstore.listOpen, h⟩
  | sentTiers id => exact ⟨congrArg Reply.read (hstore.sentTiers id), h⟩
  | claim id tier now =>
      obtain ⟨hanswer, hagree⟩ := hstore.claim (c := c) hcall id tier
      exact ⟨congrArg Reply.claimed hanswer, hagree, h.out, h.events⟩
  | release id tier =>
      obtain ⟨hanswer, hagree⟩ := hstore.release (c := c) id tier
      exact ⟨congrArg Reply.released hanswer, hagree, h.out, h.events⟩
  | recordsOf id => exact ⟨congrArg Reply.recorded (hstore.recordsOf id), h⟩
  | pass render send plan now =>
      obtain ⟨hanswer, hagree⟩ := (Agree.related (c := c) hcall).run render send plan h
      exact ⟨congrArg Reply.passed hanswer, hagree⟩

/-- Calls are answered alike as long as no id is accepted twice. -/
theorem performAll_agree {calls : List (Call ω)} (hcalls : ∀ call ∈ calls, call.IsCommon)
    (hids : (calls.filterMap Call.accepted?).Nodup)
    (hfresh : ∀ id ∈ calls.filterMap Call.accepted?, id ∉ taken) {scene : Scene Memory ω}
    {scene' : Scene Database ω} (h : scene.Related (Agree taken) scene') :
    (Memory.operations.performAll calls scene).1
        = ((Database.operations c).performAll calls scene').1 ∧
      ∃ taken', (Memory.operations.performAll calls scene).2.Related (Agree taken')
        ((Database.operations c).performAll calls scene').2 := by
  induction calls generalizing taken scene scene' with
  | nil => exact ⟨rfl, taken, h⟩
  | cons call calls ih =>
      have hlater : ∀ other ∈ calls, other.IsCommon := fun other hother =>
        hcalls other (List.mem_cons_of_mem _ hother)
      have hid : ∀ id ∈ call.accepted?, id ∉ taken := fun id hid =>
        hfresh id (List.mem_filterMap.mpr ⟨call, List.mem_cons_self, hid⟩)
      obtain ⟨hanswer, hagree⟩ := perform_agree (c := c) (hcalls call List.mem_cons_self) hid h
      have hrest : (calls.filterMap Call.accepted?).Nodup ∧
          ∀ id ∈ calls.filterMap Call.accepted?, id ∉ call.accepted?.toList ++ taken := by
        cases haccepted : call.accepted? with
        | none =>
            rw [List.filterMap_cons_none haccepted] at hids hfresh
            exact ⟨hids, hfresh⟩
        | some new =>
            rw [List.filterMap_cons_some haccepted, List.nodup_cons] at hids
            refine ⟨hids.2, fun id hid' hmem => ?_⟩
            rcases List.mem_cons.mp hmem with rfl | hmem
            · exact hids.1 hid'
            · refine hfresh id ?_ hmem
              rw [List.filterMap_cons_some haccepted]
              exact List.mem_cons_of_mem _ hid'
      obtain ⟨hanswers, taken', hagree'⟩ := ih hlater hrest.1 hrest.2 hagree
      exact ⟨congrArg₂ List.cons hanswer hanswers, taken', hagree'⟩

/-- The store in memory and a fresh database are the same store: calls at whole milliseconds of
years of four digits, in no leap second but at the end of a minute and no id accepted twice, are
answered alike.  Passes among them come to the same
reports, leave the world they send to in the same state and note the same events. -/
theorem same_store {calls : List (Call ω)} (hcalls : ∀ call ∈ calls, call.IsCommon)
    (hids : (calls.filterMap Call.accepted?).Nodup) (out : ω) :
    let inMemory := Memory.operations.performAll calls ⟨.empty, out, []⟩
    let inDatabase := (Database.operations c).performAll calls ⟨.fresh, out, []⟩
    inMemory.1 = inDatabase.1 ∧ inMemory.2.out = inDatabase.2.out ∧
      inMemory.2.events = inDatabase.2.events := by
  have hstart : Scene.Related (Agree []) (⟨.empty, out, []⟩ : Scene Memory ω) ⟨.fresh, out, []⟩ :=
    ⟨Agree.start, rfl, rfl⟩
  obtain ⟨hanswers, taken, hscenes⟩ :=
    performAll_agree (c := c) hcalls hids (fun _ _ => List.not_mem_nil) hstart
  exact ⟨hanswers, hscenes.out, hscenes.events⟩

/-- Calls on two audits with one deadline, which come in against the order of their ids. -/
def sampleCalls : List (Call (List Message)) :=
  let render : RenderNotice := fun request => .ok ⟨request.group, request.tier⟩
  let send : SendMessage (List Message) := fun message sent => (.ok (), sent ++ [message])
  [.add { Audit.sample with id := "b" }, .add .sample, .listOpen, .claim "b" "overdue" .epoch,
    .pass render send .sample .epoch, .recordsOf "a", .close "a", .release "c" "none", .listOpen]

theorem same_store_sample :
    (sampleCalls.filterMap Call.accepted? = ["b", "a"] ∧ ∀ call ∈ sampleCalls, call.IsCommon) ∧
      (Memory.operations.performAll sampleCalls ⟨.empty, [], []⟩).1
        = ((Database.operations 0).performAll sampleCalls ⟨.fresh, [], []⟩).1 := by
  have hids : sampleCalls.filterMap Call.accepted? = ["b", "a"] := by decide
  have hepoch : Instant.epoch.IsCommon := by decide +kernel
  have hsample : Audit.sample.IsCommon := ⟨by decide +kernel, hepoch⟩
  have hcalls : ∀ call ∈ sampleCalls, call.IsCommon := by
    intro call hcall
    simp only [sampleCalls, List.mem_cons, List.not_mem_nil, or_false] at hcall
    rcases hcall with rfl | rfl | rfl | rfl | rfl | rfl | rfl | rfl | rfl
    · exact hsample
    · exact hsample
    · trivial
    · exact hepoch
    · exact hepoch
    all_goals trivial
  exact ⟨⟨hids, hcalls⟩, (same_store hcalls (hids ▸ by decide) []).1⟩

open Instant (withinMinute afterLeapSecond)

/-- Claims in a leap second within a minute and in the second that follows. -/
def claimsWithinMinute : List (Call Unit) :=
  [.claim "a" "first" withinMinute, .claim "a" "second" afterLeapSecond, .recordsOf "a"]

/-- The store in memory tells of two claims in their order and at their instants; the database tells
of the first one in the second after its leap second, and after the other. -/
theorem apart_within_minute :
    (withinMinute < afterLeapSecond ∧ withinMinute.HasPlainYear ∧ withinMinute.IsWhole ∧
        afterLeapSecond.HasPlainYear ∧ afterLeapSecond.IsWhole) ∧
      (Memory.operations.performAll claimsWithinMinute ⟨.empty, (), []⟩).1
        = [.claimed (.ok true), .claimed (.ok true),
            .recorded (.ok [⟨"a", "first", withinMinute⟩, ⟨"a", "second", afterLeapSecond⟩])] ∧
      ((Database.operations 0).performAll claimsWithinMinute ⟨.fresh, (), []⟩).1
        = [.claimed (.ok true), .claimed (.ok true),
            .recorded (.ok [⟨"a", "second", afterLeapSecond⟩,
              ⟨"a", "first", withinMinute.shown⟩])] := by
  have hfirst : withinMinute.HasPlainYear := by decide +kernel
  have hsecond : afterLeapSecond.HasPlainYear := by decide +kernel
  refine ⟨⟨by decide, hfirst, rfl, hsecond, rfl⟩, ?_, ?_⟩
  · have hsorted : [⟨"a", "first", withinMinute⟩, ⟨"a", "second", afterLeapSecond⟩].mergeSort
          Record.listedBefore = [⟨"a", "first", withinMinute⟩, ⟨"a", "second", afterLeapSecond⟩] :=
      List.mergeSort_of_pairwise (by decide)
    rw [← hsorted]
    rfl
  · have hfree : (([] : List Record).any fun r => r.auditId == "a" && r.tier == "first") = false :=
      rfl
    obtain ⟨db, hclaim, hholds⟩ := Database.holds_fresh.claim_new (c := 0) hfree withinMinute
    have hfree' : (([] ++ [⟨"a", "first", withinMinute⟩] : List Record).any fun r =>
        r.auditId == "a" && r.tier == "second") = false := rfl
    obtain ⟨db', hclaim', hholds'⟩ := hholds.claim_new (c := 0) hfree' afterLeapSecond
    have hplain : ∀ record ∈
        ([⟨"a", "first", withinMinute⟩, ⟨"a", "second", afterLeapSecond⟩] : List Record),
        record.sentAt.HasPlainYear := by
      simp [hfirst, hsecond]
    have hsorted : [⟨"a", "first", withinMinute.shown⟩, ⟨"a", "second", afterLeapSecond⟩].mergeSort
          Record.listedBefore
        = [⟨"a", "second", afterLeapSecond⟩, ⟨"a", "first", withinMinute.shown⟩] :=
      (ByTime.mergeSort_eq_of_perm Record.listedBefore_iff (.swap _ _ _) (by decide)).trans
        (List.mergeSort_of_pairwise (by decide))
    have hrecords : (db'.view 0).recordsOf "a"
        = .ok [⟨"a", "second", afterLeapSecond⟩, ⟨"a", "first", withinMinute.shown⟩] := by
      rw [← hsorted]
      exact hholds'.recordsOf hplain "a"
    simp only [claimsWithinMinute, performAll, perform, Database.operations, Database.backend,
      hclaim, hclaim', hrecords]

end Operations

end AuditReminder
