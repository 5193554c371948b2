/-
Previews of a pass.

A preview asks the schedule alone which tiers a fresh audit with a deadline would bring.  A pass
comes to that question by another way: the store lists the audit, an audit that is long past is left
aside, and the tiers read as sent are left out.  Over a store that holds the one audit and no
records, what a pass tries to dispatch (`attempts`) compares with the preview like this:

    not long past     the tiers of the preview, in their order
    long past         none, whatever the preview shows

A pass that halts on a deadline without a text has tried the first of them.  A preview knows of no
horizon, so the two part for good once the deadline lies further back than that
(`Config.previewed_beyond_horizon`).

Main statement: `Config.attempts_as_previewed`.
-/
import AuditReminder.Command.Preview
import AuditReminder.Proofs.Pass.InTime
import AuditReminder.Proofs.Pass.Meaning
import AuditReminder.Proofs.Store.Contents
import AuditReminder.Proofs.Store.Ready

namespace AuditReminder

/-! ## Attempts -/

/-- The pair that an operation tries to claim. -/
def Ask.attempt? : Ask → Option Pair
  | .claim id tier _ => some (id, tier)
  | _ => none

/-- The pairs that a pass tries to dispatch, in order. -/
def attempts (trace : List Event) : List Pair := trace.filterMap fun e => e.ask.attempt?

theorem attempts_append (first rest : List Event) :
    attempts (first ++ rest) = attempts first ++ attempts rest := List.filterMap_append

/-- The pairs of tiers for one audit. -/
def Audit.pairsOf (audit : Audit) (tiers : List Tier) : List Pair :=
  tiers.map fun tier => (audit.id, tier.name)

/-- A program run after another leaves its trace behind that of the other. -/
theorem Program.trace_bind {α β σ : Type} (handle : Handler σ) (p : Program α)
    (f : α → Program β) (s : σ) :
    (p.bind f).trace handle s
      = p.trace handle s ++ (f (p.run handle s).1).trace handle (p.run handle s).2 := by
  induction p generalizing s with
  | done v => rfl
  | step ask next ih => exact congrArg (_ :: ·) (ih _ _)

namespace Pass

open Program

variable {plan : Plan} {now : Instant} {audit : Audit} {daysLeft : Int} {trace : List Event}

/-- A claimed reminder is delivered, or its claim is given back, without a further attempt. -/
theorem attempts_deliverClaimed {request : Request} {result : Except PassStop Status}
    (h : (deliverClaimed request).Yields trace result) : attempts trace = [] := by
  have hroll (reason : String) :
      (rollBack request.auditId request.tier reason).Asks fun ask => ask.attempt? = none := by
    refine asks_ask rfl ?_
    intro answer
    cases answer with
    | ok done => exact asks_ask rfl fun _ => asks_done _
    | error fault => exact asks_ask rfl fun _ => asks_done _
  have hasks : (deliverClaimed request).Asks fun ask => ask.attempt? = none := by
    refine asks_ask rfl ?_
    intro delivery
    cases delivery with
    | sent => exact asks_ask rfl fun _ => asks_done _
    | renderFailed fault => exact asks_bind (hroll _) fun _ => asks_done _
    | sendFailed fault => exact asks_bind (hroll _) fun _ => asks_done _
    | halted => exact asks_done _
  exact List.filterMap_eq_nil_iff.mpr (asks_of_yields hasks h)

theorem attempts_dispatch {tier : Tier} {result : Except PassStop Status}
    (h : (dispatch now audit daysLeft tier).Yields trace result) :
    attempts trace = [(audit.id, tier.name)] := by
  obtain ⟨answer, rest, rfl, hnext⟩ := yields_ask.mp h
  have hrest : attempts rest = [] := by
    rcases answer with fault | claimed
    · obtain ⟨rest, rfl, hdone⟩ := yields_note.mp hnext
      obtain ⟨rfl, -⟩ := yields_done.mp hdone
      rfl
    · cases claimed with
      | true => exact attempts_deliverClaimed hnext
      | false =>
          obtain ⟨rest, rfl, hdone⟩ := yields_note.mp hnext
          obtain ⟨rfl, -⟩ := yields_done.mp hdone
          rfl
  show (audit.id, tier.name) :: attempts rest = _
  rw [hrest]

/-- Tiers are attempted in order, up to the first that stops the pass. -/
theorem attempts_dispatchAll {tiers : List Tier} {result : Except PassStop (List Outcome)}
    (h : (dispatchAll now audit daysLeft tiers).Yields trace result) :
    attempts trace <+: audit.pairsOf tiers ∧
      ∀ outcomes, result = .ok outcomes → attempts trace = audit.pairsOf tiers := by
  induction tiers generalizing trace result with
  | nil =>
      obtain ⟨rfl, -⟩ := yields_done.mp h
      exact ⟨List.prefix_refl _, fun _ _ => rfl⟩
  | cons tier rest ih =>
      obtain ⟨first, others, status, rfl, hfirst, hothers⟩ := yields_bind.mp h
      rw [attempts_append, attempts_dispatch hfirst]
      rcases status with stop | status
      · obtain ⟨rfl, rfl⟩ := yields_done.mp hothers
        exact ⟨⟨audit.pairsOf rest, rfl⟩, fun outcomes ho => by cases ho⟩
      · obtain ⟨middle, last, outcomes, rfl, hmiddle, hlast⟩ := yields_bind.mp hothers
        obtain ⟨hbegins, hall⟩ := ih hmiddle
        rcases outcomes with stop | outcomes
        · obtain ⟨rfl, rfl⟩ := yields_done.mp hlast
          rw [List.append_nil]
          exact ⟨(List.prefix_cons_inj _).mpr hbegins, fun told ht => by cases ht⟩
        · obtain ⟨rfl, rfl⟩ := yields_done.mp hlast
          rw [List.append_nil, hall outcomes rfl]
          exact ⟨List.prefix_refl _, fun _ _ => rfl⟩

/-! ## A pass over one audit -/

section One

variable {ω : Type} {store : ReadyStore} {render : RenderNotice} {send : SendMessage ω}
  {scene : Scene store.State ω}

/-- An operation on a ready store stops no pass, unless it lists or halts. -/
theorem goes_on (hrender : ∀ request, render request ≠ .error .unprintableDate) {ask : Ask}
    (hask : ask.IsFor plan now audit) (h : store.Ready scene.store) :
    (⟨ask, (handler store.backend render send ask scene).1⟩ : Event).stop? = none ∧
      store.Ready (handler store.backend render send ask scene).2.store := by
  cases ask with
  | listOpen => exact hask.elim
  | note event => exact ⟨rfl, h⟩
  | sentTiers id =>
      obtain ⟨sent, hsent⟩ := store.sentTiers_ok h id
      refine ⟨?_, h⟩
      show (⟨.sentTiers id, store.backend.sentTiers scene.store id⟩ : Event).stop? = none
      rw [hsent]
      rfl
  | claim id tier now =>
      obtain ⟨claimed, s', hclaim, hready⟩ := store.claim_ok h id tier now
      simp only [handler, hclaim]
      exact ⟨rfl, hready⟩
  | deliver request =>
      refine ⟨?_, h⟩
      generalize hd : (handler store.backend render send (.deliver request) scene).1 = delivery
      cases delivery with
      | halted => exact (hrender request (render_of_halted hd)).elim
      | sent | renderFailed | sendFailed => rfl
  | release id tier =>
      obtain ⟨s', hrelease, hready⟩ := store.release_ok h id tier
      simp only [handler, hrelease]
      exact ⟨rfl, hready⟩

/-- The due tiers of one audit, dispatched at an instant. -/
def dueFor (plan : Plan) (now : Instant) (audit : Audit) (sent : NameSet) :
    Program (Except PassStop (List Outcome)) :=
  dispatchAll now audit (AuditReminder.daysLeft now audit.endsAt)
    (plan.schedule.due now audit.endsAt sent)

/-- Over a ready store all due tiers are dispatched, unless a deadline cannot be printed. -/
theorem dueFor_through (plan : Plan) (now : Instant) (audit : Audit) (send : SendMessage ω)
    (hrender : ∀ request, render request ≠ .error .unprintableDate)
    (h : store.Ready scene.store) (sent : NameSet) :
    ∃ outcomes, ((dueFor plan now audit sent).run (handler store.backend render send) scene).1
      = .ok outcomes := by
  have hasks : (dueFor plan now audit sent).Asks (Ask.IsFor plan now audit) :=
    asks_dispatchAll fun tier ht => (Schedule.mem_due.mp ht).1
  have hevents : ∀ e ∈ (dueFor plan now audit sent).trace (handler store.backend render send) scene,
      e.stop? = none :=
    forall_mem_trace (I := fun reached => store.Ready reached.store)
      (fun ask hask _ hs => goes_on hrender hask hs) hasks h
  obtain ⟨hstops, -⟩ := dispatchAll_yields
    (yields_trace (handler store.backend render send) (dueFor plan now audit sent) scene)
  rw [stops, List.filterMap_eq_nil_iff.mpr hevents] at hstops
  rcases hrun : ((dueFor plan now audit sent).run (handler store.backend render send) scene).1
    with stop | outcomes
  · rw [hrun] at hstops
    cases hstops
  · exact ⟨outcomes, rfl⟩

/-- An audit is handled by reading its sent tiers and dispatching what is due without them. -/
theorem handle_read (plan : Plan) (now : Instant) (render : RenderNotice) (send : SendMessage ω)
    {sent : NameSet} (hsent : store.backend.sentTiers scene.store audit.id = .ok sent) :
    (handle plan now audit).trace (handler store.backend render send) scene
        = ⟨.sentTiers audit.id, .ok sent⟩ ::
            (dueFor plan now audit sent).trace (handler store.backend render send) scene ∧
      (handle plan now audit).run (handler store.backend render send) scene
        = (dueFor plan now audit sent).run (handler store.backend render send) scene := by
  constructor
  · simp only [handle, Bind.bind, ask, Program.bind, Program.trace, handler, hsent]
    rfl
  · simp only [handle, Bind.bind, ask, Program.bind, run_step, handler, hsent]
    rfl

/-- What a scan of one open audit that is not long past comes to. -/
theorem scan_one (hopen : audit.isOpen = true) (hlooked : plan.isExpired now audit = false)
    (report : Report) :
    scan plan now report [audit] = (handle plan now audit).bind fun result =>
      .done (result.map fun outcomes => { report with
        scanned := report.scanned + 1, outcomes := report.outcomes ++ outcomes }) := by
  rw [scan, hopen, hlooked]
  show (handle plan now audit).bind _ = _
  congr
  funext result
  cases result with
  | error stop => rfl
  | ok outcomes => rfl

/-- A pass over one audit attempts what its scan attempts, and ends as the scan does. -/
theorem attempts_program (plan : Plan) (now : Instant) (render : RenderNotice)
    (send : SendMessage ω) (hlist : store.backend.listOpen scene.store = .ok [audit]) :
    ∃ noted : Scene store.State ω, noted.store = scene.store ∧
      attempts ((program plan now).trace (handler store.backend render send) scene)
        = attempts ((scan plan now (.start now) [audit]).trace
            (handler store.backend render send) noted) ∧
      (run store.backend render send plan now scene).1
        = ((scan plan now (.start now) [audit]).run
            (handler store.backend render send) noted).1 := by
  refine ⟨{ scene with events := scene.events ++ [.started now] }, rfl, ?_, ?_⟩
  · simp only [program, Bind.bind, note, ask, Program.bind, Program.trace, handler, hlist,
      trace_bind]
    show attempts (_ ++ _) = _
    rw [attempts_append]
    rcases ((scan plan now (.start now) [audit]).run (handler store.backend render send)
      { scene with events := scene.events ++ [.started now] }).1 with stop | report
    · exact List.append_nil _
    · exact List.append_nil _
  · simp only [run, program, Bind.bind, note, ask, Program.bind, run_step, handler, hlist, run_bind]
    rcases hscan : (scan plan now (.start now) [audit]).run (handler store.backend render send)
      { scene with events := scene.events ++ [.started now] } with ⟨stop | report, after⟩
    · rfl
    · rfl

/-! ## Fresh audits -/

/-- The store lists one audit, which is open, and holds no records. -/
structure HoldsFresh (store : ReadyStore) (s : store.State) (audit : Audit) : Prop where
  ready : store.Ready s
  listed : store.backend.listOpen s = .ok [audit]
  isOpen : audit.isOpen = true
  unsent : store.rows s = []

/-- No tier is read as sent for a fresh audit. -/
theorem HoldsFresh.sentTiers {s : store.State} (h : HoldsFresh store s audit) :
    store.backend.sentTiers s audit.id = .ok .empty := by
  obtain ⟨sent, hsent⟩ := store.sentTiers_ok h.ready audit.id
  have hempty : sent = .empty := by
    refine NameSet.eq_of_mem_iff fun name => ?_
    rw [store.shows.sentTiers hsent name]
    refine iff_of_false ?_ (NameSet.not_mem_empty name)
    rintro ⟨row, hrow, -⟩
    have hnone : row ∈ store.rows s := hrow
    rw [h.unsent] at hnone
    cases hnone
  rw [hsent, hempty]

/-- A fresh audit that is long past is left aside. -/
theorem attempts_expired (h : HoldsFresh store scene.store audit)
    (hpast : plan.isExpired now audit = true) :
    attempts ((program plan now).trace (handler store.backend render send) scene) = [] ∧
      (run store.backend render send plan now scene).1 = .ok ⟨now, 0, 1, []⟩ := by
  obtain ⟨noted, -, hattempts, hrun⟩ :=
    attempts_program plan now render send h.listed
  have hscan : scan plan now (.start now) [audit]
      = .step (.note (.expired audit.id audit.endsAt)) fun _ =>
          .done (.ok ⟨now, 0, 1, []⟩) := by
    rw [scan, h.isOpen, hpast]
    rfl
  rw [hattempts, hrun, hscan]
  exact ⟨rfl, rfl⟩

/-- For a fresh audit that is not long past the due tiers are attempted in their order, and all of
them unless a deadline cannot be printed. -/
theorem attempts_fresh (h : HoldsFresh store scene.store audit)
    (hlooked : plan.isExpired now audit = false) :
    attempts ((program plan now).trace (handler store.backend render send) scene)
        <+: audit.pairsOf (plan.schedule.due now audit.endsAt .empty) ∧
      ((∀ request, render request ≠ .error .unprintableDate) →
        attempts ((program plan now).trace (handler store.backend render send) scene)
            = audit.pairsOf (plan.schedule.due now audit.endsAt .empty) ∧
          ∃ report, (run store.backend render send plan now scene).1 = .ok report ∧
            report.outcomes.map Outcome.pair
              = audit.pairsOf (plan.schedule.due now audit.endsAt .empty)) := by
  obtain ⟨noted, hnoted, hattempts, hrun⟩ :=
    attempts_program plan now render send h.listed
  have hsent : store.backend.sentTiers noted.store audit.id = .ok .empty := by
    rw [hnoted]
    exact h.sentTiers
  obtain ⟨htrace, hhandle⟩ :=
    handle_read plan now render send hsent
  have hyields := yields_trace (handler store.backend render send)
    (dueFor plan now audit .empty) noted
  -- behind the due tiers the scan of one audit only adds up its report
  have hscan : attempts ((scan plan now (.start now) [audit]).trace
      (handler store.backend render send) noted)
        = attempts ((dueFor plan now audit .empty).trace
            (handler store.backend render send) noted) := by
    rw [scan_one h.isOpen hlooked, trace_bind, attempts_append, htrace]
    exact List.append_nil _
  obtain ⟨hbegins, hall⟩ := attempts_dispatchAll hyields
  rw [hattempts, hscan, hrun]
  refine ⟨hbegins, fun hrender => ?_⟩
  have hready : store.Ready noted.store := by
    rw [hnoted]
    exact h.ready
  obtain ⟨outcomes, hthrough⟩ :=
    dueFor_through plan now audit send hrender hready .empty
  obtain ⟨-, -, hpairs⟩ := dispatchAll_yields hyields
  refine ⟨hall outcomes hthrough, ⟨now, 1, 0, outcomes⟩, ?_, (hpairs outcomes hthrough).1⟩
  rw [scan_one h.isOpen hlooked, run_bind, hhandle, hthrough]
  rfl

end One

/-- An open audit between instants that are kept whole is fresh in every database that holds it and
nothing else. -/
theorem holdsFresh_of_holds {db : Database} (h : db.Holds [audit] []) (hopen : audit.isOpen = true)
    (hcommon : audit.IsCommon) (c : Connection) : HoldsFresh (.database c) db audit where
  ready := by
    refine ⟨?_, [], ?_⟩
    · rw [Database.isLockedFor, h.unlocked]
    · rw [h.view_eq]
      exact h.recordRows
  isOpen := hopen
  unsent := by
    show (db.view c).claimRows = []
    rw [h.view_eq, Tables.claimRows, h.recordRows]
    rfl
  listed := by
    show (db.view c).listOpen = _
    have hplain' : ∀ a ∈ [audit], a.IsPlain := by
      intro a ha
      rw [List.mem_singleton.mp ha]
      exact hcommon.plain
    rw [h.listOpen hplain', List.filter_cons_of_pos hopen, List.filter_nil,
      List.map_singleton, List.mergeSort_singleton, hcommon.kept_eq]

theorem holdsFresh_sample : HoldsFresh (.database 0) sampleDatabase .sample := by
  have hholds : sampleDatabase.Holds [.sample] [] := ⟨rfl, rfl, rfl⟩
  have hcommon : Audit.sample.IsCommon := ⟨by decide +kernel, by decide +kernel⟩
  exact holdsFresh_of_holds hholds rfl hcommon 0

end Pass

/-! ## Previews under a configuration -/

namespace Config

/-- A pass under a configuration that passes its check, over a store that holds one fresh audit.  It
leaves an audit aside that lies further back than the horizon.  For any other it attempts what the
preview of its deadline shows, in that order: all of it if every deadline can be printed, and
otherwise up to the first that cannot. -/
theorem attempts_as_previewed {c : Config} (h : c.validate = .ok ()) :
    ∃ schedule plan, c.schedule = .ok schedule ∧ c.plan = .ok plan ∧
      plan.horizon = ⟨c.scheduler.retentionHorizonDays * secondsPerDay * nanosPerSecond⟩ ∧
      ∀ {ω : Type} (store : ReadyStore) (render : RenderNotice) (send : SendMessage ω)
        (now : Instant) (audit : Audit) (scene : Scene store.State ω),
        Pass.HoldsFresh store scene.store audit →
        let attempted := attempts
          ((Pass.program plan now).trace (Pass.handler store.backend render send) scene)
        let result := (Pass.run store.backend render send plan now scene).1
        let previewed := audit.pairsOf (Preview.of schedule now audit.endsAt).due
        (plan.isExpired now audit = true → attempted = [] ∧ result = .ok ⟨now, 0, 1, []⟩) ∧
        (plan.isExpired now audit = false → attempted <+: previewed ∧
          ((∀ request, render request ≠ .error .unprintableDate) → attempted = previewed ∧
            ∃ report, result = .ok report ∧ report.outcomes.map Outcome.pair = previewed)) := by
  obtain ⟨plan, hplan, htiers, hhorizon, -⟩ := plan_of_validate h
  have hschedule : c.schedule = .ok plan.schedule := by
    rw [Config.schedule, htiers]
    rfl
  refine ⟨plan.schedule, plan, hschedule, hplan, hhorizon, ?_⟩
  intro ω store render send now audit scene hfresh
  exact ⟨Pass.attempts_expired hfresh, Pass.attempts_fresh hfresh⟩

/-- At its deadline the sample audit brings the three default tiers. -/
theorem attempts_default_sample :
    default.validate = .ok () ∧ ∃ plan, default.plan = .ok plan ∧
      Pass.HoldsFresh (.database 0) Pass.sampleDatabase .sample ∧
      plan.isExpired .epoch .sample = false ∧
      attempts ((Pass.program plan .epoch).trace
          (Pass.handler (Database.backend 0) (fun request => .ok ⟨request.tier, request.group⟩)
            (fun _ sent => (.ok (), sent + 1))) ⟨Pass.sampleDatabase, 0, []⟩)
        = [("a", "14d"), ("a", "3d"), ("a", "overdue")] := by
  obtain ⟨schedule, plan, hschedule, hplan, -, hall⟩ := attempts_as_previewed validate_default
  obtain rfl : plan = Plan.default := by
    cases hplan
    rfl
  obtain rfl : schedule = Schedule.default := by
    cases hschedule
    rfl
  have hlooked : Plan.default.isExpired .epoch .sample = false := by decide +kernel
  obtain ⟨-, hattempts⟩ := hall (.database 0)
    (fun request => .ok ⟨request.tier, request.group⟩) (fun _ sent => (.ok (), sent + 1)) .epoch
    .sample ⟨Pass.sampleDatabase, 0, []⟩ Pass.holdsFresh_sample
  obtain ⟨-, hprinted⟩ := hattempts hlooked
  obtain ⟨hpreviewed, -⟩ := hprinted fun request hrequest => by cases hrequest
  have hshown : Audit.sample.pairsOf (Preview.of .default .epoch .epoch).due
      = [("a", "14d"), ("a", "3d"), ("a", "overdue")] := by decide +kernel
  exact ⟨validate_default, _, hplan, Pass.holdsFresh_sample, hlooked, hpreviewed.trans hshown⟩

/-- The sixtieth day past the deadline lies beyond the default horizon.  The preview shows three
tiers, and a pass attempts none of them. -/
theorem previewed_beyond_horizon :
    default.validate = .ok () ∧ ∃ schedule plan, default.schedule = .ok schedule ∧
      default.plan = .ok plan ∧ Pass.HoldsFresh (.database 0) Pass.sampleDatabase .sample ∧
      (Preview.of schedule (day 60) Audit.sample.endsAt).due.map Tier.name
        = ["14d", "3d", "overdue"] ∧
      let handle := Pass.handler (Database.backend 0)
        (fun request => .ok ⟨request.tier, request.group⟩) (fun _ sent => (.ok (), sent + 1))
      attempts ((Pass.program plan (day 60)).trace handle ⟨Pass.sampleDatabase, 0, []⟩) = [] ∧
        ((Pass.program plan (day 60)).run handle ⟨Pass.sampleDatabase, 0, []⟩).1
          = .ok ⟨day 60, 0, 1, []⟩ := by
  have hscene : Pass.HoldsFresh (.database 0)
      (⟨Pass.sampleDatabase, 0, []⟩ : Scene (ReadyStore.database 0).State Nat).store .sample :=
    Pass.holdsFresh_sample
  have hpast : Plan.default.isExpired (day 60) .sample = true := by decide +kernel
  exact ⟨validate_default, .default, .default, rfl, rfl, Pass.holdsFresh_sample,
    by decide +kernel, Pass.attempts_expired hscene hpast⟩

end Config

end AuditReminder
