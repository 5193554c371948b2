/-
What a program asks for.

`Program.Asks P` says of a program, from its tree alone, that all it asks for has the property `P`,
whatever it is answered.  What holds of one operation with that property then holds along a run: an
invariant of the states (`Program.run_invariant`), a relation between two runs
(`Program.run_related`), a property of the events (`Program.forall_mem_trace`).

The property that the programs of a pass have is `Ask.IsFor`: while a pass handles an audit it
reads, claims and releases for this audit alone, and what it delivers are reminders of tiers of its
plan, with the days that are left at its instant.

Main statements: `Pass.asks_handle`, `Pass.asks_scan` and `Pass.listed_of_yields`.
-/
import AuditReminder.Proofs.Pass.Trace
import AuditReminder.Proofs.Schedule

namespace AuditReminder

namespace Program

variable {α β : Type} {P Q : Ask → Prop}

/-- All that the program asks for has the property. -/
def Asks (P : Ask → Prop) : Program α → Prop
  | .done _ => True
  | .step ask next => P ask ∧ ∀ answer, (next answer).Asks P

theorem asks_done (v : α) : (Program.done v).Asks P := trivial

theorem asks_bind {p : Program α} {f : α → Program β} (hp : p.Asks P)
    (hf : ∀ v, (f v).Asks P) : (p.bind f).Asks P := by
  induction p with
  | done v => exact hf v
  | step ask next ih => exact ⟨hp.1, fun answer => ih answer (hp.2 answer)⟩

theorem asks_ask {a : Ask} {f : a.Answer → Program β} (ha : P a)
    (hf : ∀ answer, (f answer).Asks P) : ((ask a).bind f).Asks P :=
  ⟨ha, hf⟩

theorem Asks.imp {p : Program α} (hp : p.Asks P) (h : ∀ ask, P ask → Q ask) : p.Asks Q := by
  induction p with
  | done v => trivial
  | step ask next ih => exact ⟨h ask hp.1, fun answer => ih answer (hp.2 answer)⟩

/-! ## Runs -/

/-- What each operation keeps, a run keeps. -/
theorem run_invariant {σ : Type} {I : σ → Prop} {handle : Handler σ}
    (hI : ∀ ask, P ask → ∀ s, I s → I (handle ask s).2) {p : Program α} (hp : p.Asks P) {s : σ}
    (h : I s) : I (p.run handle s).2 := by
  induction p generalizing s with
  | done v => exact h
  | step ask next ih => exact ih _ (hp.2 _) (hI ask hp.1 s h)

/-- Two handlers that answer alike and keep a relation run a program alike. -/
theorem run_related {σ τ : Type} {R : σ → τ → Prop} {handle : Handler σ} {handle' : Handler τ}
    (hR : ∀ ask, P ask → ∀ s t, R s t →
      (handle ask s).1 = (handle' ask t).1 ∧ R (handle ask s).2 (handle' ask t).2)
    {p : Program α} (hp : p.Asks P) {s : σ} {t : τ} (h : R s t) :
    (p.run handle s).1 = (p.run handle' t).1 ∧ R (p.run handle s).2 (p.run handle' t).2 := by
  induction p generalizing s t with
  | done v => exact ⟨rfl, h⟩
  | step ask next ih =>
      obtain ⟨hanswer, hnext⟩ := hR ask hp.1 s t h
      rw [run_step, run_step, ← hanswer]
      exact ih _ (hp.2 _) hnext

/-- What each answer of a handler has, each event of a run has. -/
theorem forall_mem_trace {σ : Type} {I : σ → Prop} {E : Event → Prop} {handle : Handler σ}
    (hI : ∀ ask, P ask → ∀ s, I s → E ⟨ask, (handle ask s).1⟩ ∧ I (handle ask s).2)
    {p : Program α} (hp : p.Asks P) {s : σ} (h : I s) : ∀ e ∈ p.trace handle s, E e := by
  induction p generalizing s with
  | done v =>
      intro e he
      cases he
  | step ask next ih =>
      obtain ⟨hanswer, hnext⟩ := hI ask hp.1 s h
      intro e he
      rcases List.mem_cons.mp he with rfl | he
      · exact hanswer
      · exact ih _ (hp.2 _) hnext e he

/-- Every event of a trace is of an operation that was asked for. -/
theorem asks_of_yields {p : Program α} (hp : p.Asks P) {trace : List Event} {v : α}
    (h : p.Yields trace v) : ∀ e ∈ trace, P e.ask := by
  induction h with
  | done v =>
      intro e he
      cases he
  | step _ ih => exact List.forall_mem_cons.mpr ⟨hp.1, ih (hp.2 _)⟩

end Program

/-! ## What a pass asks for -/

/-- The request reminds of the audit, for a tier of the plan, at this instant. -/
def Plan.Reminds (plan : Plan) (now : Instant) (audit : Audit) (request : Request) : Prop :=
  ∃ tier ∈ plan.schedule.tiers, request = .of audit tier (daysLeft now audit.endsAt)

/-- The operation is for one audit. -/
def Ask.IsFor (plan : Plan) (now : Instant) (audit : Audit) : Ask → Prop
  | .listOpen => False
  | .sentTiers id => id = audit.id
  | .claim id _ instant => id = audit.id ∧ instant = now
  | .deliver request => plan.Reminds now audit request
  | .release id _ => id = audit.id
  | .note _ => True

/-- The operation is no listing, and what it delivers is a reminder for an audit of the listing that
is open and not long past. -/
def Ask.Follows (plan : Plan) (now : Instant) (listing : Except StoreFault (List Audit))
    (ask : Ask) : Prop :=
  ask ≠ .listOpen ∧ ∀ request, ask = .deliver request → ∃ audits, listing = .ok audits ∧
    ∃ audit ∈ audits, audit.isOpen = true ∧ plan.isExpired now audit = false ∧
      plan.Reminds now audit request

namespace Pass

open Program

variable {plan : Plan} {now : Instant} {audit : Audit} {P : Ask → Prop}

theorem asks_rollBack {id : AuditId} (tier reason : String) (hid : id = audit.id) :
    (rollBack id tier reason).Asks (Ask.IsFor plan now audit) := by
  refine asks_ask hid fun answer => ?_
  cases answer with
  | ok done => exact asks_ask trivial fun _ => asks_done _
  | error fault => exact asks_ask trivial fun _ => asks_done _

theorem asks_deliverClaimed {request : Request} (h : plan.Reminds now audit request) :
    (deliverClaimed request).Asks (Ask.IsFor plan now audit) := by
  have hid : request.auditId = audit.id := by
    obtain ⟨tier, -, rfl⟩ := h
    rfl
  refine asks_ask h fun delivery => ?_
  cases delivery with
  | sent => exact asks_ask trivial fun _ => asks_done _
  | renderFailed fault => exact asks_bind (asks_rollBack _ _ hid) fun _ => asks_done _
  | sendFailed fault => exact asks_bind (asks_rollBack _ _ hid) fun _ => asks_done _
  | halted => exact asks_done _

theorem asks_dispatch {tier : Tier} (ht : tier ∈ plan.schedule.tiers) :
    (dispatch now audit (daysLeft now audit.endsAt) tier).Asks (Ask.IsFor plan now audit) := by
  refine asks_ask ⟨rfl, rfl⟩ fun answer => ?_
  rcases answer with fault | claimed
  · exact asks_ask trivial fun _ => asks_done _
  · cases claimed with
    | false => exact asks_ask trivial fun _ => asks_done _
    | true => exact asks_deliverClaimed ⟨tier, ht, rfl⟩

theorem asks_dispatchAll {tiers : List Tier} (ht : ∀ tier ∈ tiers, tier ∈ plan.schedule.tiers) :
    (dispatchAll now audit (daysLeft now audit.endsAt) tiers).Asks
      (Ask.IsFor plan now audit) := by
  induction tiers with
  | nil => exact asks_done _
  | cons tier rest ih =>
      refine asks_bind (asks_dispatch (ht tier List.mem_cons_self)) fun status => ?_
      rcases status with stop | status
      · exact asks_done _
      · have hrest := ih fun other ho => ht other (List.mem_cons_of_mem _ ho)
        refine asks_bind hrest fun outcomes => ?_
        rcases outcomes with stop | outcomes <;> exact asks_done _

/-- While a pass handles an audit, all that it asks for is for this audit. -/
theorem asks_handle : (handle plan now audit).Asks (Ask.IsFor plan now audit) := by
  refine asks_ask rfl fun answer => ?_
  rcases answer with fault | sent
  · exact asks_ask trivial fun _ => asks_done _
  · exact asks_dispatchAll fun tier ht => (Schedule.mem_due.mp ht).1

/-- All that a scan asks for is for one of the audits that it looks at, or a note. -/
theorem asks_scan {audits : List Audit} (report : Report)
    (hP : ∀ audit ∈ audits, audit.isOpen = true → plan.isExpired now audit = false →
      ∀ ask, Ask.IsFor plan now audit ask → P ask)
    (hnote : ∀ event, P (.note event)) : (scan plan now report audits).Asks P := by
  induction audits generalizing report with
  | nil => exact asks_done _
  | cons audit rest ih =>
      have hrest := fun report => ih report fun other ho => hP other (List.mem_cons_of_mem _ ho)
      rw [scan]
      split
      · exact hrest report
      · next hopen =>
        split
        · exact asks_ask (hnote _) fun _ => hrest _
        · next hlooked =>
          have hfor := hP audit List.mem_cons_self (by simpa using hopen) (by simpa using hlooked)
          refine asks_bind (asks_handle.imp hfor) fun result => ?_
          rcases result with stop | outcomes
          · exact asks_done _
          · exact hrest _

/-- What comes after the listing of a pass follows it. -/
theorem listed_of_yields {trace : List Event} {result : Except PassStop Report}
    (h : (program plan now).Yields trace result) :
    ∃ listing rest, trace = ⟨.note (.started now), ()⟩ :: ⟨.listOpen, listing⟩ :: rest ∧
      ∀ e ∈ rest, e.ask.Follows plan now listing := by
  obtain ⟨rest, rfl, hlisting⟩ := yields_note.mp h
  obtain ⟨listing, rest, rfl, hnext⟩ := yields_ask.mp hlisting
  have hnote (event : PassEvent) : (Ask.note event).Follows plan now listing :=
    ⟨nofun, fun _ h => by cases h⟩
  refine ⟨listing, rest, rfl, asks_of_yields ?_ hnext⟩
  rcases listing with fault | audits
  · exact asks_ask (hnote _) fun _ => asks_done _
  · refine asks_bind (asks_scan _ ?_ hnote) fun result => ?_
    · intro audit haudit hopen hlooked ask hfor
      constructor
      · rintro rfl
        exact hfor
      · rintro request rfl
        exact ⟨audits, rfl, audit, haudit, hopen, hlooked, hfor⟩
    · rcases result with stop | report
      · exact asks_done _
      · exact asks_ask (hnote _) fun _ => asks_done _

section Listing

variable {trace : List Event} {result : Except PassStop Report}

/-- A pass lists once. -/
theorem listing_unique (h : (program plan now).Yields trace result)
    {listing listing' : Except StoreFault (List Audit)} (hl : ⟨.listOpen, listing⟩ ∈ trace)
    (hl' : ⟨.listOpen, listing'⟩ ∈ trace) : listing = listing' := by
  obtain ⟨first, rest, rfl, hfollows⟩ := listed_of_yields h
  have hfirst {listing : Except StoreFault (List Audit)}
      (hl : ⟨.listOpen, listing⟩ ∈ (⟨.note (.started now), ()⟩ :: ⟨.listOpen, first⟩ :: rest
        : List Event)) : listing = first := by
    rcases List.mem_cons.mp hl with he | hl
    · cases he
    · rcases List.mem_cons.mp hl with he | hl
      · exact eq_of_heq (Event.mk.inj he).2
      · exact ((hfollows _ hl).1 rfl).elim
  exact (hfirst hl).trans (hfirst hl').symm

/-- What a pass delivers are reminders for audits that it was told of and that it looks at. -/
theorem reminds_of_mem (h : (program plan now).Yields trace result) {audits : List Audit}
    (hl : ⟨.listOpen, .ok audits⟩ ∈ trace) {e : Event} (he : e ∈ trace) {request : Request}
    (hask : e.ask = .deliver request) :
    ∃ audit ∈ audits, audit.isOpen = true ∧ plan.isExpired now audit = false ∧
      plan.Reminds now audit request := by
  obtain ⟨listing, rest, rfl, hfollows⟩ := listed_of_yields h
  have hlisting : listing = .ok audits :=
    listing_unique h (List.mem_cons_of_mem _ List.mem_cons_self) hl
  rcases List.mem_cons.mp he with rfl | he
  · cases hask
  · rcases List.mem_cons.mp he with rfl | he
    · cases hask
    · obtain ⟨audits', hlisting', hreminds⟩ := (hfollows e he).2 request hask
      obtain rfl := Except.ok.inj (hlisting.symm.trans hlisting')
      exact hreminds

end Listing

end Pass

end AuditReminder
