/-
Closing an audit while passes run.

Any number of instances work on one store, and between any two of their operations an audit may be
closed.  Closing removes the records of the audit.  It does not reach a pass that has listed the
audit already: the claim of such a pass asks only whether the pair has a record, and now none is
left.  What a closed audit is still asked about is therefore decided by what was in sight when it
was closed:

    in sight of i     the pass that i is in has listed the audit as open
    before closing    any pass may list the audit
    after closing     nobody lists it again, so whoever still asks about it had it in sight then,
                      and is still in that same pass

Records made after closing are the claims of those passes.  Once none of them runs any more, nothing
is asked about the audit, and it gets no record.

A program keeps to what is in its sight whatever it is answered (`Program.Within`), which follows
for a pass from what it asks for.  Main statements: `Site.quiet_after_close`, and
`Site.sent_again_after_close`, a run in which a tier goes out a second time after the close.
-/
import AuditReminder.Proofs.Pass.Phase
import AuditReminder.Proofs.Pass.Requests
import AuditReminder.Proofs.Store.Closing
import Mathlib.Data.List.Induction
import Mathlib.Logic.Function.Basic
import Mathlib.Logic.Relation

namespace AuditReminder

/-! ## What a pass has in sight -/

/-- The audit that an operation is about; a note asks nothing. -/
def Ask.audit? : Ask → Option AuditId
  | .listOpen => none
  | .sentTiers id => some id
  | .claim id _ _ => some id
  | .deliver request => some request.auditId
  | .release id _ => some id
  | .note _ => none

/-- What is for an audit is about this audit. -/
theorem Ask.audit?_of_isFor {plan : Plan} {now : Instant} {audit : Audit} {ask : Ask} {id : AuditId}
    (hfor : ask.IsFor plan now audit) (hid : ask.audit? = some id) : audit.id = id := by
  cases ask with
  | listOpen => exact hfor.elim
  | note event => cases hid
  | sentTiers other => exact hfor.symm.trans (Option.some.inj hid)
  | claim other tier instant => exact hfor.1.symm.trans (Option.some.inj hid)
  | release other tier => exact hfor.symm.trans (Option.some.inj hid)
  | deliver request =>
      obtain ⟨tier, -, rfl⟩ := hfor
      exact Option.some.inj hid

/-- Some audits, by their ids. -/
abbrev Sight := AuditId → Prop

namespace Event

/-- The event lists the audit as open. -/
def Lists (id : AuditId) : Event → Prop
  | ⟨.listOpen, .ok audits⟩ => ∃ audit ∈ audits, audit.isOpen ∧ audit.id = id
  | _ => False

/-- What is in sight after an event: a list replaces all that was. -/
def sight (seen : Sight) : Event → Sight
  | ⟨.listOpen, .ok audits⟩ => fun id => ∃ audit ∈ audits, audit.isOpen ∧ audit.id = id
  | _ => seen

theorem sight_cases {seen : Sight} {e : Event} {id : AuditId} (h : e.sight seen id) :
    e.Lists id ∨ seen id := by
  obtain ⟨ask, answer⟩ := e
  cases ask with
  | listOpen =>
      rcases answer with fault | audits
      · exact Or.inr h
      · exact Or.inl h
  | sentTiers | claim | deliver | release | note => exact Or.inr h

end Event

namespace Program

variable {α β : Type} {seen : Sight}

/-- A program that does not list and asks only about audits in sight. -/
def Only (seen : Sight) : Program α → Prop
  | .done _ => True
  | .step ask next =>
      ask ≠ .listOpen ∧ (∀ id, ask.audit? = some id → seen id) ∧
        ∀ answer, (next answer).Only seen

/-- A program that asks only about audits that are in sight when it asks. -/
def Within : Program α → Sight → Prop
  | .done _, _ => True
  | .step ask next, seen =>
      (∀ id, ask.audit? = some id → seen id) ∧
        ∀ answer, (next answer).Within (Event.sight seen ⟨ask, answer⟩)

theorem only_done (v : α) : (Program.done v).Only seen := trivial

theorem only_bind {p : Program α} {f : α → Program β} (hp : p.Only seen)
    (hf : ∀ v, (f v).Only seen) : (p.bind f).Only seen := by
  induction p with
  | done v => exact hf v
  | step ask next ih => exact ⟨hp.1, hp.2.1, fun answer => ih answer (hp.2.2 answer)⟩

/-- A program that asks for nothing else. -/
theorem only_of_asks {p : Program α}
    (h : p.Asks fun ask => ask ≠ .listOpen ∧ ∀ id, ask.audit? = some id → seen id) :
    p.Only seen := by
  induction p with
  | done v => trivial
  | step ask next ih => exact ⟨h.1.1, h.1.2, fun answer => ih answer (h.2 answer)⟩

theorem only_note {event : PassEvent} {f : Unit → Program α} (h : (f ()).Only seen) :
    ((note event).bind f).Only seen :=
  ⟨nofun, nofun, fun _ => h⟩

/-- What a program that does not list has in sight stays as it is. -/
theorem within_of_only {p : Program α} (h : p.Only seen) : p.Within seen := by
  induction p with
  | done v => trivial
  | step ask next ih =>
      refine ⟨h.2.1, fun answer => ?_⟩
      cases ask with
      | listOpen => exact (h.1 rfl).elim
      | sentTiers | claim | deliver | release | note => exact ih answer (h.2.2 answer)

theorem within_note {event : PassEvent} {f : Unit → Program α} (h : (f ()).Within seen) :
    ((note event).bind f).Within seen :=
  ⟨nofun, fun _ => h⟩

theorem within_list {f : Except StoreFault (List Audit) → Program α}
    (h : ∀ answer, (f answer).Within (Event.sight seen ⟨.listOpen, answer⟩)) :
    ((ask .listOpen).bind f).Within seen :=
  ⟨nofun, h⟩

end Program

namespace Pass

open Program

variable {plan : Plan} {now : Instant} {seen : Sight}

/-- The scan looks at the open audits of its list alone. -/
theorem only_scan {audits : List Audit} (h : ∀ audit ∈ audits, audit.isOpen → seen audit.id)
    (report : Report) : (scan plan now report audits).Only seen := by
  refine only_of_asks (asks_scan report (fun audit ha hopen _ ask hfor => ?_) fun event => ?_)
  · refine ⟨?_, fun id hid => Ask.audit?_of_isFor hfor hid ▸ h audit ha hopen⟩
    rintro rfl
    exact hfor.elim
  · exact ⟨nofun, nofun⟩

/-- Every pass starts with nothing in sight and asks about no audit that it did not list. -/
theorem within_program : (program plan now).Within fun _ => False := by
  refine within_note (within_list fun answer => ?_)
  rcases answer with fault | audits
  · exact within_of_only (only_note (only_done _))
  · refine within_of_only (only_bind ?_ fun result => ?_)
    · exact only_scan (fun audit ha hopen => ⟨audit, ha, hopen, rfl⟩) _
    · rcases result with stop | report
      · exact only_done _
      · exact only_note (only_done _)

end Pass

/-! ## Instances, and those who close -/

/-- What happens at a site, and in which instance. -/
inductive Deed (ι : Type) where
  | started (i : ι)
  | asked (i : ι) (event : Event)
  | finished (i : ι)
  /-- Somebody closed an audit, or tried to. -/
  | closing (id : AuditId) (answer : Except StoreFault Bool)

/-- A store with the instances that work on it, and all that was done. -/
structure Site (σ ι : Type) where
  store : σ
  /-- What is left of the pass that an instance is in; nothing between two passes. -/
  running : ι → Option (Program (Except PassStop Report))
  /-- The earliest first. -/
  deeds : List (Deed ι)

/-- A list that is read is what the store holds. -/
def Backend.ListsAsHeld {σ : Type} (b : Backend σ) (s : σ) : Event → Prop
  | ⟨.listOpen, .ok audits⟩ => b.listOpen s = .ok audits
  | _ => True

namespace Site

variable {σ ι : Type} [DecidableEq ι]

/-- Nothing has happened yet. -/
def idle (s : σ) : Site σ ι := ⟨s, fun _ => none, []⟩

/-- What an instance has in sight after a deed. -/
def sightAfter (i : ι) (seen : Sight) : Deed ι → Sight
  | .started j => if j = i then fun _ => False else seen
  | .asked j e => if j = i then e.sight seen else seen
  | .finished j => if j = i then fun _ => False else seen
  | .closing _ _ => seen

/-- The pass that the instance is in has listed the audit as open. -/
def inSight (deeds : List (Deed ι)) (i : ι) : Sight := deeds.foldl (sightAfter i) fun _ => False

theorem inSight_concat (deeds : List (Deed ι)) (d : Deed ι) (i : ι) :
    inSight (deeds ++ [d]) i = sightAfter i (inSight deeds i) d := by
  simp only [inSight, List.foldl_append, List.foldl_cons, List.foldl_nil]

/-- An audit that an instance has in sight was listed lately, or was in sight before and the
instance is in the same pass still. -/
theorem inSight_append {deeds more : List (Deed ι)} {i : ι} {id : AuditId}
    (h : inSight (deeds ++ more) i id) :
    (∃ e : Event, .asked i e ∈ more ∧ e.Lists id) ∨
      (inSight deeds i id ∧ .started i ∉ more ∧ .finished i ∉ more) := by
  induction more using List.reverseRecOn with
  | nil => exact Or.inr ⟨by rwa [List.append_nil] at h, List.not_mem_nil, List.not_mem_nil⟩
  | append_singleton more d ih =>
      rw [← List.append_assoc, inSight_concat] at h
      -- the last deed either leaves sight alone or is of this instance
      have hkept (hd : inSight (deeds ++ more) i id) (hs : d ≠ .started i)
          (hf : d ≠ .finished i) :
          (∃ e : Event, .asked i e ∈ more ++ [d] ∧ e.Lists id) ∨
            (inSight deeds i id ∧ .started i ∉ more ++ [d] ∧ .finished i ∉ more ++ [d]) := by
        rcases ih hd with ⟨e, he, hlists⟩ | ⟨hbefore, hstarted, hfinished⟩
        · exact Or.inl ⟨e, List.mem_append_left _ he, hlists⟩
        · refine Or.inr ⟨hbefore, ?_, ?_⟩
          · simpa [hstarted] using hs.symm
          · simpa [hfinished] using hf.symm
      cases d with
      | started j =>
          by_cases hji : j = i
          · rw [sightAfter, if_pos hji] at h
            exact h.elim
          · rw [sightAfter, if_neg hji] at h
            exact hkept h (fun he => hji (Deed.started.inj he)) nofun
      | finished j =>
          by_cases hji : j = i
          · rw [sightAfter, if_pos hji] at h
            exact h.elim
          · rw [sightAfter, if_neg hji] at h
            exact hkept h nofun (fun he => hji (Deed.finished.inj he))
      | closing other answer => exact hkept h nofun nofun
      | asked j e =>
          by_cases hji : j = i
          · rw [sightAfter, if_pos hji] at h
            subst hji
            rcases Event.sight_cases h with hlists | hbefore
            · exact Or.inl ⟨e, List.mem_append_right _ List.mem_cons_self, hlists⟩
            · exact hkept hbefore nofun nofun
          · rw [sightAfter, if_neg hji] at h
            exact hkept h nofun nofun

/-- One step: an instance starts a pass, carries out one operation of it or is through with it,
somebody closes an audit or fails to, or something else changes the store, leaves the records alone
and opens no audit that was closed.  An operation of the store may fail without effect, and the
tiers that are read may be stale, but a list is what the store holds. -/
inductive Step (store : ClosingStore) (connection : ι → Connection) :
    Site store.State ι → Site store.State ι → Prop
  | start {site : Site store.State ι} {i : ι} (plan : Plan) (now : Instant) :
      site.running i = none →
      Step store connection site
        ⟨site.store, Function.update site.running i (some (Pass.program plan now)),
          site.deeds ++ [.started i]⟩
  | act {site : Site store.State ι} {i : ι} {ask : Ask}
      {next : ask.Answer → Program (Except PassStop Report)} {answer : ask.Answer}
      {s : store.State} :
      site.running i = some (.step ask next) →
      (store.backend (connection i)).Serves site.store ⟨ask, answer⟩ s →
      (store.backend (connection i)).ListsAsHeld site.store ⟨ask, answer⟩ →
      Step store connection site
        ⟨s, Function.update site.running i (some (next answer)),
          site.deeds ++ [.asked i ⟨ask, answer⟩]⟩
  | finish {site : Site store.State ι} {i : ι} {result : Except PassStop Report} :
      site.running i = some (.done result) →
      Step store connection site
        ⟨site.store, Function.update site.running i none, site.deeds ++ [.finished i]⟩
  | close {site : Site store.State ι} {c : Connection} {id : AuditId}
      {answer : Except StoreFault Bool} {s : store.State} :
      store.close c site.store id = (answer, s) →
      Step store connection site ⟨s, site.running, site.deeds ++ [.closing id answer]⟩
  | unclosed {site : Site store.State ι} (id : AuditId) (fault : StoreFault) :
      Step store connection site
        ⟨site.store, site.running, site.deeds ++ [.closing id (.error fault)]⟩
  | elsewhere {site : Site store.State ι} {s : store.State} :
      store.ledger.rows s = store.ledger.rows site.store →
      (∀ id, store.Opens s id → .closing id (.ok true) ∈ site.deeds →
        store.Opens site.store id) →
      Step store connection site ⟨s, site.running, site.deeds⟩

/-- Any number of steps. -/
abbrev Steps (store : ClosingStore) (connection : ι → Connection) :
    Site store.State ι → Site store.State ι → Prop :=
  Relation.ReflTransGen (Step store connection)

variable {store : ClosingStore} {connection : ι → Connection} {site site' : Site store.State ι}

/-- A close that is sent is answered as the store answers. -/
theorem Step.of_close (c : Connection) (id : AuditId) :
    Step store connection site
      ⟨(store.close c site.store id).2, site.running,
        site.deeds ++ [.closing id (store.close c site.store id).1]⟩ :=
  .close rfl

/-- A step adds one deed, or none. -/
theorem deeds_step (h : Step store connection site site') :
    site'.deeds = site.deeds ∨ ∃ d, site'.deeds = site.deeds ++ [d] := by
  cases h with
  | start | act | finish | close | unclosed => exact Or.inr ⟨_, rfl⟩
  | elsewhere => exact Or.inl rfl

/-- A run falls apart at each of its deeds. -/
theorem split_at {s : store.State} {before after : List (Deed ι)} {d : Deed ι}
    (h : Steps store connection (idle s) site) (hd : site.deeds = before ++ d :: after) :
    ∃ at' next : Site store.State ι, Steps store connection (idle s) at' ∧
      Step store connection at' next ∧ Steps store connection next site ∧
      at'.deeds = before ∧ next.deeds = before ++ [d] := by
  induction h generalizing after with
  | refl =>
      have hnil : ([] : List (Deed ι)) = before ++ d :: after := hd
      simp at hnil
  | @tail middle last hmiddle hlast ih =>
      rcases deeds_step hlast with hsame | ⟨last', hmore⟩
      · obtain ⟨at', next, hbefore, hstep, hrest, h₁, h₂⟩ := ih (hsame ▸ hd)
        exact ⟨at', next, hbefore, hstep, hrest.tail hlast, h₁, h₂⟩
      · rw [hmore] at hd
        rcases List.eq_nil_or_concat after with rfl | ⟨after', d', rfl⟩
        · obtain ⟨h₁, h₂⟩ := List.append_inj' hd rfl
          exact ⟨middle, last, hmiddle, hlast, .refl, h₁, by rw [hmore, h₁, h₂]⟩
        · have hd' : middle.deeds ++ [last'] = (before ++ d :: after') ++ [d'] := by
            rw [hd, List.concat_eq_append, List.append_assoc, List.cons_append]
          obtain ⟨h₁, -⟩ := List.append_inj' hd' rfl
          obtain ⟨at', next, hbefore, hstep, hrest, h₃, h₄⟩ := ih h₁
          exact ⟨at', next, hbefore, hstep, hrest.tail hlast, h₃, h₄⟩

/-! ## What all runs keep -/

/-- Every instance keeps to what it has in sight, and what was closed is open nowhere. -/
structure Guarded (store : ClosingStore) (site : Site store.State ι) : Prop where
  within {i : ι} {p : Program (Except PassStop Report)} :
    site.running i = some p → p.Within (inSight site.deeds i)
  shut {id : AuditId} : .closing id (.ok true) ∈ site.deeds → ¬ store.Opens site.store id

theorem guarded_idle (s : store.State) : Guarded store (idle s : Site store.State ι) where
  within h := by cases h
  shut h := (List.not_mem_nil h).elim

/-- When one instance goes on within its sight and the others see what they saw, all are within
their sight. -/
theorem Guarded.within_update (h : Guarded store site) {i : ι} {d : Deed ι}
    {p : Option (Program (Except PassStop Report))}
    (hi : ∀ q, p = some q → q.Within (inSight (site.deeds ++ [d]) i))
    (hothers : ∀ j, j ≠ i → inSight (site.deeds ++ [d]) j = inSight site.deeds j)
    {j : ι} {q : Program (Except PassStop Report)}
    (hj : Function.update site.running i p j = some q) :
    q.Within (inSight (site.deeds ++ [d]) j) := by
  by_cases hji : j = i
  · subst hji
    rw [Function.update_self] at hj
    exact hi q hj
  · rw [Function.update_of_ne hji] at hj
    rw [hothers j hji]
    exact h.within hj

theorem guarded_step (h : Guarded store site) (hstep : Step store connection site site') :
    Guarded store site' := by
  cases hstep with
  | @start i plan now hrun =>
      constructor
      · intro j q hj
        refine h.within_update ?_ ?_ hj
        · rintro q ⟨⟩
          rw [inSight_concat, sightAfter, if_pos rfl]
          exact Pass.within_program
        · intro j hji
          rw [inSight_concat, sightAfter, if_neg (Ne.symm hji)]
      · intro id hid
        exact h.shut (by simpa using hid)
  | @act i ask next answer s hrun hs hlist =>
      constructor
      · intro j q hj
        refine h.within_update ?_ ?_ hj
        · rintro q ⟨⟩
          rw [inSight_concat, sightAfter, if_pos rfl]
          exact (h.within hrun).2 answer
        · intro j hji
          rw [inSight_concat, sightAfter, if_neg (Ne.symm hji)]
      · intro id hid hopen
        exact h.shut (by simpa using hid) (store.opens_of_serves hs hopen)
  | @finish i result hrun =>
      constructor
      · intro j q hj
        refine h.within_update ?_ ?_ hj
        · rintro q ⟨⟩
        · intro j hji
          rw [inSight_concat, sightAfter, if_neg (Ne.symm hji)]
      · intro id hid
        exact h.shut (by simpa using hid)
  | @close c id answer s hclose =>
      constructor
      · intro j q hj
        rw [inSight_concat]
        exact h.within hj
      · intro other hother hopen
        rcases answer with fault | found
        · obtain rfl := store.close_error hclose
          exact h.shut (by simpa using hother) hopen
        · obtain ⟨hbefore, hne⟩ := store.opens_of_close hclose hopen
          exact h.shut (by simpa [hne] using hother) hbefore
  | unclosed id fault =>
      constructor
      · intro j q hj
        rw [inSight_concat]
        exact h.within hj
      · intro other hother
        exact h.shut (by simpa using hother)
  | elsewhere hrows hopens =>
      exact ⟨h.within, fun hid hopen => h.shut hid (hopens _ hopen hid)⟩

/-- Whatever happens, instances keep to their sight and what was closed stays closed. -/
theorem guarded_steps (h : Guarded store site) (hsteps : Steps store connection site site') :
    Guarded store site' := by
  induction hsteps with
  | refl => exact h
  | tail _ hstep ih => exact guarded_step ih hstep

/-! ## Where records come from -/

omit [DecidableEq ι] in
/-- The record of a claim that some instance made. -/
def Claimed (store : ClosingStore) (deeds : List (Deed ι)) (row : store.ledger.Row) : Prop :=
  ∃ i id tier now, .asked i ⟨.claim id tier now, .ok true⟩ ∈ deeds ∧
    row = store.ledger.entry (id, tier) now

/-- Rows are as before, or claimed meanwhile. -/
theorem claimed_step (h : Step store connection site site') :
    ∃ more, site'.deeds = site.deeds ++ more ∧
      ∀ row ∈ store.ledger.rows site'.store,
        row ∈ store.ledger.rows site.store ∨ Claimed store more row := by
  cases h with
  | start | finish | unclosed => exact ⟨_, rfl, fun row hrow => Or.inl hrow⟩
  | elsewhere hrows => exact ⟨[], (List.append_nil _).symm, fun row hrow => Or.inl (hrows ▸ hrow)⟩
  | @act i ask next answer s hrun hs hlist =>
      refine ⟨_, rfl, fun row hrow => ?_⟩
      rcases store.ledger.mem_of_takes ((store.keeps _).takes hs) hrow with hold | hnew
      · exact Or.inl hold
      · obtain ⟨id, tier, now, he, rfl⟩ := hnew
        exact Or.inr ⟨i, id, tier, now, List.mem_singleton.mpr (by rw [he]), rfl⟩
  | @close c id answer s hclose =>
      refine ⟨_, rfl, fun row hrow => Or.inl ?_⟩
      rcases answer with fault | found
      · rwa [store.close_error hclose] at hrow
      · rw [store.rows_of_close hclose] at hrow
        exact (store.ledger.mem_apartFrom.mp hrow).1

theorem claimed_steps (h : Steps store connection site site') :
    ∃ more, site'.deeds = site.deeds ++ more ∧
      ∀ row ∈ store.ledger.rows site'.store,
        row ∈ store.ledger.rows site.store ∨ Claimed store more row := by
  induction h with
  | refl => exact ⟨[], (List.append_nil _).symm, fun row hrow => Or.inl hrow⟩
  | tail _ hlast ih =>
      obtain ⟨more, hmore, hrows⟩ := ih
      obtain ⟨more', hmore', hrows'⟩ := claimed_step hlast
      refine ⟨more ++ more', by rw [hmore', hmore, List.append_assoc], fun row hrow => ?_⟩
      rcases hrows' row hrow with hrow | ⟨i, id, tier, now, he, rfl⟩
      · rcases hrows row hrow with hrow | ⟨i, id, tier, now, he, rfl⟩
        · exact Or.inl hrow
        · exact Or.inr ⟨i, id, tier, now, List.mem_append_left _ he, rfl⟩
      · exact Or.inr ⟨i, id, tier, now, List.mem_append_right _ he, rfl⟩

/-! ## After closing -/

variable {s : store.State} {before after : List (Deed ι)} {id : AuditId}

/-- The state in which an instance carried an operation out. -/
theorem asked_at (h : Steps store connection (idle s) site) {i : ι} {e : Event}
    (hd : site.deeds = before ++ .asked i e :: after) :
    ∃ (at' : Site store.State ι) (next : e.ask.Answer → Program (Except PassStop Report)),
      Steps store connection (idle s) at' ∧ at'.deeds = before ∧
        at'.running i = some (.step e.ask next) ∧
        (store.backend (connection i)).ListsAsHeld at'.store e := by
  obtain ⟨at', next, hbefore, hstep, -, hat, hnext⟩ := split_at h hd
  have hdeed {d : Deed ι} (hd : next.deeds = at'.deeds ++ [d]) : d = .asked i e := by
    rw [hnext, hat] at hd
    exact (List.cons.inj (List.append_cancel_left hd)).1.symm
  cases hstep with
  | start | finish | close | unclosed => exact absurd (hdeed rfl) nofun
  | elsewhere => exact absurd (hat ▸ hnext) (by simp)
  | act hrun hs hlist =>
      cases hdeed rfl
      exact ⟨at', _, hbefore, hat, hrun, hlist⟩

/-- The state right after an audit was closed: it has no rows. -/
theorem closed_at (h : Steps store connection (idle s) site)
    (hd : site.deeds = before ++ .closing id (.ok true) :: after) :
    ∃ next : Site store.State ι, Steps store connection next site ∧
      next.deeds = before ++ [.closing id (.ok true)] ∧
        ∀ row ∈ store.ledger.rows next.store, (store.ledger.pair row).1 ≠ id := by
  obtain ⟨at', next, -, hstep, hrest, hat, hnext⟩ := split_at h hd
  have hdeed {d : Deed ι} (hd : next.deeds = at'.deeds ++ [d]) : d = .closing id (.ok true) := by
    rw [hnext, hat] at hd
    exact (List.cons.inj (List.append_cancel_left hd)).1.symm
  cases hstep with
  | start | act | finish | unclosed => exact absurd (hdeed rfl) nofun
  | elsewhere => exact absurd (hat ▸ hnext) (by simp)
  | close hclose =>
      cases hdeed rfl
      refine ⟨_, hrest, hnext, fun row hrow => ?_⟩
      rw [store.rows_of_close hclose] at hrow
      exact (store.ledger.mem_apartFrom.mp hrow).2

/-- After closing nobody lists the audit. -/
theorem not_lists_after (h : Steps store connection (idle s) site)
    (hd : site.deeds = before ++ .closing id (.ok true) :: after) {i : ι} {e : Event}
    (he : .asked i e ∈ after) : ¬ e.Lists id := by
  intro hlists
  obtain ⟨mid, rest, rfl⟩ := List.append_of_mem he
  rw [← List.cons_append, ← List.append_assoc] at hd
  obtain ⟨at', next, hbefore, hat, -, hlist⟩ := asked_at h hd
  have hshut : ¬ store.Opens at'.store id :=
    (guarded_steps (guarded_idle s) hbefore).shut (by rw [hat]; simp)
  obtain ⟨ask, answer⟩ := e
  cases ask with
  | listOpen =>
      rcases answer with fault | audits
      · exact hlists
      · obtain ⟨audit, ha, -, rfl⟩ := hlists
        exact hshut (store.opens_of_listed hlist ha)
  | sentTiers | claim | deliver | release | note => exact hlists

/-- What an instance asks about, it has in sight. -/
theorem inSight_of_asked (h : Steps store connection (idle s) site) {i : ι} {e : Event}
    (hd : site.deeds = before ++ .asked i e :: after) (he : e.ask.audit? = some id) :
    inSight before i id := by
  obtain ⟨at', next, hbefore, hat, hrun, -⟩ := asked_at h hd
  rw [← hat]
  exact ((guarded_steps (guarded_idle s) hbefore).within hrun).1 id he

/-- An audit that was closed is in sight only of who had it in sight when it was closed, and is in
the same pass still. -/
theorem inSight_since (h : Steps store connection (idle s) site) {mid rest : List (Deed ι)}
    (hd : site.deeds = before ++ .closing id (.ok true) :: (mid ++ rest)) {i : ι}
    (hi : inSight (before ++ .closing id (.ok true) :: mid) i id) :
    inSight before i id ∧ .finished i ∉ mid := by
  rcases inSight_append hi with ⟨e, he, hlists⟩ | ⟨hbefore, -, hfinished⟩
  · have hmid : .asked i e ∈ mid := by simpa using he
    exact (not_lists_after h hd (List.mem_append_left _ hmid) hlists).elim
  · exact ⟨hbefore, fun hmem => hfinished (List.mem_cons_of_mem _ hmem)⟩

/-- What is left to a closed audit. -/
structure Quiet (store : ClosingStore) (site : Site store.State ι) (before after : List (Deed ι))
    (id : AuditId) : Prop where
  /-- The audit is open nowhere, and nobody listed it since. -/
  shut : ¬ store.Opens site.store id
  unlisted {i : ι} {e : Event} : .asked i e ∈ after → ¬ e.Lists id
  /-- Whoever asked about it since had it in sight when it was closed, and was in the same pass. -/
  asked {mid rest : List (Deed ι)} {i : ι} {e : Event} :
    after = mid ++ .asked i e :: rest → e.ask.audit? = some id →
      inSight before i id ∧ .finished i ∉ mid
  /-- Its records are claims made since. -/
  recorded {row : store.ledger.Row} :
    row ∈ store.ledger.rows site.store → (store.ledger.pair row).1 = id →
      ∃ i tier now, .asked i ⟨.claim id tier now, .ok true⟩ ∈ after ∧
        row = store.ledger.entry (id, tier) now

theorem quiet_of_steps (h : Steps store connection (idle s) site)
    (hd : site.deeds = before ++ .closing id (.ok true) :: after) :
    Quiet store site before after id := by
  constructor
  · exact (guarded_steps (guarded_idle s) h).shut (by rw [hd]; simp)
  · exact fun he => not_lists_after h hd he
  · rintro mid rest i e rfl he
    have hsplit := hd
    rw [← List.cons_append, ← List.append_assoc] at hsplit
    exact inSight_since h hd (inSight_of_asked h hsplit he)
  · intro row hrow hid
    obtain ⟨next, hrest, hnext, hnone⟩ := closed_at h hd
    obtain ⟨more, hmore, hrows⟩ := claimed_steps hrest
    rcases hrows row hrow with hold | ⟨i, other, tier, now, he, rfl⟩
    · exact (hnone row hold hid).elim
    · obtain rfl : more = after := by
        rw [hd, hnext, List.append_assoc] at hmore
        exact (List.cons.inj (List.append_cancel_left hmore)).2.symm
      obtain rfl : other = id := by
        rw [store.ledger.pair_entry] at hid
        exact hid
      exact ⟨i, tier, now, he, rfl⟩

/-- An audit that was in nobody's sight when it was closed is asked about no more and has no
record. -/
theorem Quiet.untouched (hquiet : Quiet store site before after id)
    (hnobody : ∀ i, ¬ inSight before i id) :
    (∀ i e, .asked i e ∈ after → e.ask.audit? ≠ some id) ∧
      ∀ row ∈ store.ledger.rows site.store, (store.ledger.pair row).1 ≠ id := by
  have hasked (i : ι) (e : Event) (he : .asked i e ∈ after) : e.ask.audit? ≠ some id := by
    intro hid
    obtain ⟨mid, rest, hsplit⟩ := List.append_of_mem he
    exact hnobody i (hquiet.asked hsplit hid).1
  refine ⟨hasked, fun row hrow hid => ?_⟩
  obtain ⟨i, tier, now, he, -⟩ := hquiet.recorded hrow hid
  exact hasked i _ he rfl

/-- A closed audit that is in nobody's sight is asked about no more and gets no record. -/
theorem nothing_later (h : Steps store connection (idle s) site)
    (hd : site.deeds = before ++ .closing id (.ok true) :: after)
    (hnobody : ∀ i, ¬ inSight site.deeds i id) {later : Site store.State ι}
    (hlater : Steps store connection site later) :
    ∃ more, later.deeds = site.deeds ++ more ∧
      (∀ i e, .asked i e ∈ more → e.ask.audit? ≠ some id) ∧
      ∀ row ∈ store.ledger.rows later.store, (store.ledger.pair row).1 = id →
        row ∈ store.ledger.rows site.store := by
  obtain ⟨more, hmore, hrows⟩ := claimed_steps hlater
  have hall := h.trans hlater
  have hasked (i : ι) (e : Event) (he : .asked i e ∈ more) : e.ask.audit? ≠ some id := by
    intro hid
    obtain ⟨mid, rest, rfl⟩ := List.append_of_mem he
    rw [← List.append_assoc] at hmore
    have hsight := inSight_of_asked hall hmore hid
    rcases inSight_append hsight with ⟨e', he', hlists⟩ | ⟨hbefore, -⟩
    · have hd' : later.deeds =
          before ++ .closing id (.ok true) :: (after ++ mid ++ .asked i e :: rest) := by
        rw [hmore, hd]
        simp only [List.append_assoc, List.cons_append]
      exact not_lists_after hall hd'
        (List.mem_append_left _ (List.mem_append_right _ he')) hlists
    · exact hnobody i hbefore
  refine ⟨more, hmore, hasked, fun row hrow hid => ?_⟩
  rcases hrows row hrow with hold | ⟨i, other, tier, now, he, rfl⟩
  · exact hold
  · rw [store.ledger.pair_entry] at hid
    exact (hasked i _ he (congrArg some hid)).elim

/-- However passes and closings follow one another: a closed audit stays closed and is listed no
more, whatever was asked about it since was asked by passes that had listed it before, and its
records are their claims.  If it was in nobody's sight, nothing was asked about it and it has no
record; and once it is in nobody's sight, nothing is asked and nothing is recorded any more. -/
theorem quiet_after_close (h : Steps store connection (idle s) site)
    (hd : site.deeds = before ++ .closing id (.ok true) :: after) :
    Quiet store site before after id ∧
      ((∀ i, ¬ inSight before i id) →
        (∀ i e, .asked i e ∈ after → e.ask.audit? ≠ some id) ∧
        ∀ row ∈ store.ledger.rows site.store, (store.ledger.pair row).1 ≠ id) ∧
      ((∀ i, ¬ inSight site.deeds i id) → ∀ later, Steps store connection site later →
        ∃ more, later.deeds = site.deeds ++ more ∧
          (∀ i e, .asked i e ∈ more → e.ask.audit? ≠ some id) ∧
          ∀ row ∈ store.ledger.rows later.store, (store.ledger.pair row).1 = id →
            row ∈ store.ledger.rows site.store) := by
  have hquiet : Quiet store site before after id := quiet_of_steps h hd
  refine ⟨hquiet, hquiet.untouched, ?_⟩
  intro hnobody later hlater
  exact nothing_later h hd hnobody hlater

/-! ## A close between a list and a claim -/

/-- Two instances list the audit, and the second sends its tier and is through. -/
def sampleBefore : List (Deed Bool) :=
  .started true :: ((Pass.sampleTrace .epoch).take 3).map (.asked true) ++
    .started false :: (Pass.sampleTrace .epoch).map (.asked false) ++ [.finished false]

/-- The first instance goes on with what it listed. -/
def sampleAfter : List (Deed Bool) :=
  ((Pass.sampleTrace .epoch).drop 3).map (.asked true) ++ [.finished true]

/-- In between the audit is closed. -/
theorem steps_sample : ∃ site : Site Memory Bool,
    Steps .memory (fun _ => 0) (idle .sample) site ∧
      site.deeds = sampleBefore ++ .closing "a" (.ok true) :: sampleAfter ∧
      site.store = ⟨[Audit.sample.close], [⟨"a", "overdue", .epoch⟩]⟩ := by
  have h0 : Steps .memory (fun _ => 0) (idle .sample) (idle .sample : Site Memory Bool) := .refl
  have h1 := h0.tail (.start (i := true) .sample .epoch rfl)
  have h2 := h1.tail (.act (i := true) rfl (.noted _) trivial)
  have h3 := h2.tail (.act (i := true) rfl (.listed (.ok [.sample])) Memory.listOpen_sample)
  have h4 := h3.tail (.act (i := true) rfl (.read _ (.ok .empty)) trivial)
  have h5 := h4.tail (.start (i := false) .sample .epoch rfl)
  have h6 := h5.tail (.act (i := false) rfl (.noted _) trivial)
  have h7 := h6.tail (.act (i := false) rfl (.listed (.ok [.sample])) Memory.listOpen_sample)
  have h8 := h7.tail (.act (i := false) rfl (.read _ (.ok .empty)) trivial)
  have h9 := h8.tail (.act (i := false) rfl (.claimed _ _ _) trivial)
  have h10 := h9.tail (.act (i := false) rfl (.delivered _ .sent) trivial)
  have h11 := h10.tail (.act (i := false) rfl (.noted _) trivial)
  have h12 := h11.tail (.act (i := false) rfl (.noted _) trivial)
  have h13 := h12.tail (.finish (i := false) rfl)
  have h14 := h13.tail (.of_close 0 "a")
  have h15 := h14.tail (.act (i := true) rfl (.claimed _ _ _) trivial)
  have h16 := h15.tail (.act (i := true) rfl (.delivered _ .sent) trivial)
  have h17 := h16.tail (.act (i := true) rfl (.noted _) trivial)
  have h18 := h17.tail (.act (i := true) rfl (.noted _) trivial)
  have h19 := h18.tail (.finish (i := true) rfl)
  exact ⟨_, h19, rfl, rfl⟩

/-- The claim after the close is by an instance that had the audit in sight, and the record of the
closed audit is this claim. -/
theorem quiet_after_late_claim : ∃ site : Site Memory Bool,
    Steps .memory (fun _ => 0) (idle .sample) site ∧
      Quiet .memory site sampleBefore sampleAfter "a" ∧ inSight sampleBefore true "a" ∧
      ∀ later, Steps .memory (fun _ => 0) site later →
        ∀ r ∈ later.store.records, r.auditId = "a" → r = ⟨"a", "overdue", .epoch⟩ := by
  obtain ⟨site, h, hd, hstore⟩ := steps_sample
  obtain ⟨hquiet, -, hlater⟩ := quiet_after_close h hd
  have hsight : inSight sampleBefore true "a" :=
    (hquiet.asked (show sampleAfter = [] ++ _ :: _ from rfl) rfl).1
  refine ⟨site, h, hquiet, hsight, fun later hsteps r hr hid => ?_⟩
  have hnobody (i : Bool) : ¬ inSight site.deeds i "a" := by
    rw [hd]
    cases i <;> exact id
  obtain ⟨more, -, -, hrows⟩ := hlater hnobody later hsteps
  have hold : r ∈ site.store.records := hrows r hr hid
  rw [hstore] at hold
  exact List.mem_singleton.mp hold

/-- A tier that was sent before the close is claimed and sent again after it, and the closed audit
has a record. -/
theorem sent_again_after_close : ∃ site : Site Memory Bool,
    Steps .memory (fun _ => 0) (idle .sample) site ∧
      site.deeds = sampleBefore ++ .closing "a" (.ok true) :: sampleAfter ∧
      (∃ request : Request, request.pair = ("a", "overdue") ∧
        .asked false ⟨.deliver request, .sent⟩ ∈ sampleBefore) ∧
      .asked true ⟨.claim "a" "overdue" .epoch, .ok true⟩ ∈ sampleAfter ∧
      (∃ request : Request, request.pair = ("a", "overdue") ∧
        .asked true ⟨.deliver request, .sent⟩ ∈ sampleAfter) ∧
      site.store = ⟨[Audit.sample.close], [⟨"a", "overdue", .epoch⟩]⟩ := by
  obtain ⟨site, h, hd, hstore⟩ := steps_sample
  let request : Request := .of .sample ⟨"overdue", 0, .reminder⟩ (daysLeft .epoch .epoch)
  refine ⟨site, h, hd, ⟨request, rfl, ?_⟩, ?_, ⟨request, rfl, ?_⟩, hstore⟩
  · have hsent : ⟨.deliver request, .sent⟩ ∈ Pass.sampleTrace .epoch :=
      List.mem_of_getElem? (i := 4) rfl
    exact List.mem_append_left _ (List.mem_append_right _ (List.mem_cons_of_mem _
      (List.mem_map_of_mem hsent)))
  · exact List.mem_append_left _ List.mem_cons_self
  · exact List.mem_append_left _ (List.mem_cons_of_mem _ List.mem_cons_self)

end Site

end AuditReminder
