/-
Tiers in time.

The thresholds of a configuration and its horizon are checked one by one, each for being no further
from a deadline than a century.  They meet in a pass, where an audit that is long past is left aside
before any tier is asked for.  At the instant at which a tier falls due the two compare as numbers
of days:

    tier within the horizon     the audit is looked at, and the tier is dispatched
    tier beyond it              the audit is long past, then and whenever the tier is reached

Main statement: `Config.dispatches_in_time`.
-/
import AuditReminder.Proofs.Config
import AuditReminder.Proofs.Pass.CatchUp
import AuditReminder.Proofs.Pass.Requests

namespace AuditReminder

/-! ## Passes that dispatch a tier -/

/-- A pass at the instant dispatches the tier for the audit if it lists the audit and finds no
record of the tier. -/
structure Plan.Dispatches (plan : Plan) (now : Instant) (audit : Audit) (tier : Tier) : Prop where
  /-- Whatever fails in it, the report of a pass that comes to one tells how the tier ended. -/
  told {trace : List Event} {report : Report} {audits : List Audit} :
    (Pass.program plan now).Yields trace (.ok report) → ⟨.listOpen, .ok audits⟩ ∈ trace →
      audit ∈ audits → (∀ sent, (audit.id, sent) ∈ reads trace → tier.name ∉ sent) →
        ∃ o ∈ report.outcomes, o.pair = (audit.id, tier.name)
  /-- If nothing fails, the tier is sent and recorded. -/
  sent {store : RecordStore} {s s' : store.State} {trace : List Event}
      {result : Except PassStop Report} {audits : List Audit} :
    Pass.Ran store.backend plan now s trace result s' → store.backend.SmoothAll s trace s' →
      store.backend.listOpen s = .ok audits → audit ∈ audits →
        ¬ store.ledger.Has (store.rows s) (audit.id, tier.name) →
          ∃ report, result = .ok report ∧ ⟨audit.id, tier.name, .sent⟩ ∈ report.outcomes ∧
            store.ledger.Has (store.rows s') (audit.id, tier.name)

namespace Pass

variable {plan : Plan} {now : Instant} {audit : Audit} {tier : Tier}

/-- A tier that is reached for an audit that a pass looks at, and that it does not read as sent, has
an outcome. -/
theorem told_of_reached (hlooks : plan.looksAt now audit = true)
    (htier : tier ∈ plan.schedule.tiers) (hreached : daysLeft now audit.endsAt ≤ tier.offsetDays)
    {trace : List Event} {report : Report} {audits : List Audit}
    (hy : (program plan now).Yields trace (.ok report)) (hl : ⟨.listOpen, .ok audits⟩ ∈ trace)
    (ha : audit ∈ audits) (hunsent : ∀ sent, (audit.id, sent) ∈ reads trace → tier.name ∉ sent) :
    ∃ o ∈ report.outcomes, o.pair = (audit.id, tier.name) := by
  obtain ⟨audits', visits, hl', account⟩ := (account_of_yields hy).2 report rfl
  obtain rfl : audits = audits' := Except.ok.inj (listing_unique hy hl hl')
  have hvisited : audit ∈ visits.map Visit.audit := by
    rw [account.visited]
    exact List.mem_filter.mpr ⟨ha, hlooks⟩
  obtain ⟨visit, hvisit, rfl⟩ := List.mem_map.mp hvisited
  have hread : (visit.audit.id, visit.sent) ∈ reads trace := by
    rw [account.read]
    exact List.mem_map_of_mem hvisit
  have hdue : (visit.audit.id, tier.name) ∈ visit.outcomes.map Outcome.pair := by
    rw [account.due visit hvisit]
    exact List.mem_map_of_mem (f := fun tier : Tier => (visit.audit.id, tier.name))
      (Schedule.mem_due.mpr ⟨htier, hreached, hunsent _ hread⟩)
  obtain ⟨o, ho, hpair⟩ := List.mem_map.mp hdue
  refine ⟨o, ?_, hpair⟩
  rw [account.outcomes]
  exact List.mem_append_right _ (List.mem_flatMap.mpr ⟨visit, hvisit, ho⟩)

/-- If nothing fails and the tier has no row before the pass, it is sent. -/
theorem sent_of_reached {store : RecordStore} (hplan : Tier.InOrder plan.schedule.tiers)
    (hlooks : plan.looksAt now audit = true)
    (htier : tier ∈ plan.schedule.tiers) (hreached : daysLeft now audit.endsAt ≤ tier.offsetDays)
    {s s' : store.State} {trace : List Event} {result : Except PassStop Report}
    {audits : List Audit} (hr : Ran store.backend plan now s trace result s')
    (hs : store.backend.SmoothAll s trace s') (hl : store.backend.listOpen s = .ok audits)
    (ha : audit ∈ audits) (hfree : ¬ store.ledger.Has (store.rows s) (audit.id, tier.name)) :
    ∃ report, result = .ok report ∧ ⟨audit.id, tier.name, .sent⟩ ∈ report.outcomes ∧
      store.ledger.Has (store.rows s') (audit.id, tier.name) := by
  obtain ⟨audits', visits, report, hl', rfl, hvisited, hwalk, houtcomes, -⟩ :=
    smooth_pass store.keeps store.shows hplan hr hs
  obtain rfl := Except.ok.inj (hl.symm.trans hl')
  have hmem : audit ∈ visits.map Prod.fst := by
    rw [hvisited]
    exact List.mem_filter.mpr ⟨ha, hlooks⟩
  obtain ⟨visit, hvisit, rfl⟩ := List.mem_map.mp hmem
  have hhas := store.ledger.recorded_of_visits hwalk hvisit htier hreached
  refine ⟨report, rfl, ?_, hhas⟩
  -- the row is new, so one of the visits has sent the tier
  obtain hhas | hsent := (store.ledger.gains_of_visits hwalk tier.name).mp hhas
  · exact (hfree hhas).elim
  · obtain ⟨other, hother, hname⟩ := List.mem_flatMap.mp hsent
    split at hname
    · next hid =>
      obtain ⟨tier', htier', hsame⟩ := List.mem_map.mp hname
      rw [houtcomes]
      refine List.mem_flatMap.mpr ⟨other, hother, List.mem_map.mpr ⟨tier', htier', ?_⟩⟩
      rw [hid, hsame]
    · cases hname

end Pass

/-! ## Configurations -/

namespace Config

/-- What a pass goes by under a configuration that passes its check. -/
theorem plan_of_validate {c : Config} (h : c.validate = .ok ()) :
    ∃ plan, c.plan = .ok plan ∧ Schedule.ofTiers c.tiers = .ok plan.schedule ∧
      plan.horizon = ⟨c.scheduler.retentionHorizonDays * secondsPerDay * nanosPerSecond⟩ ∧
      0 ≤ c.scheduler.retentionHorizonDays := by
  obtain ⟨⟨schedule, hschedule⟩, hdays, -, -⟩ := validate_eq_ok_iff.mp h
  have hspan : c.horizon?
      = some ⟨c.scheduler.retentionHorizonDays * secondsPerDay * nanosPerSecond⟩ := by
    refine if_pos ?_
    simp only [maxOffsetDays, Span.maxSeconds, secondsPerDay] at hdays ⊢
    omega
  refine ⟨⟨schedule, _⟩, ?_, schedule_eq_ok_iff.mp hschedule, rfl, by omega⟩
  simp only [plan, hschedule, hspan]
  rfl

/-- A configuration that passes its check: when a tier falls due, an audit is looked at exactly if
the tier lies within the horizon, and then a pass at this instant dispatches the tier. -/
theorem dispatches_in_time {c : Config} (h : c.validate = .ok ()) :
    ∃ plan, c.plan = .ok plan ∧ plan.schedule.tiers.Perm c.tiers ∧
      ∀ tier ∈ plan.schedule.tiers, ∀ (audit : Audit) (now : Instant), audit.isOpen = true →
        ¬ audit.endsAt.IsLeap → Schedule.dueAt? tier audit.endsAt = some now →
          (plan.isExpired now audit = false ↔
            -tier.offsetDays ≤ c.scheduler.retentionHorizonDays) ∧
          (-tier.offsetDays ≤ c.scheduler.retentionHorizonDays →
            plan.Dispatches now audit tier) := by
  obtain ⟨plan, hplan, htiers, hhorizon, hdays⟩ := plan_of_validate h
  obtain ⟨hperm, horder⟩ := Schedule.inOrder_ofTiers htiers
  refine ⟨plan, hplan, hperm, ?_⟩
  intro tier htier audit now hopen hends hdue
  have hlooked := Plan.isExpired_of_dueAt? hhorizon hdays hends hdue
  refine ⟨hlooked, fun hwithin => ?_⟩
  have hlooks : plan.looksAt now audit = true := by
    simp [Plan.looksAt, hopen, hlooked.mpr hwithin]
  have hreached : daysLeft now audit.endsAt ≤ tier.offsetDays :=
    Int.le_of_eq (Schedule.daysLeft_of_dueAt? hends hdue)
  exact ⟨Pass.told_of_reached hlooks htier hreached,
    Pass.sent_of_reached horder hlooks htier hreached⟩

/-- The defaults, but for the tiers. -/
def withTiers (tiers : List Tier) : Config := { default with tiers := tiers }

theorem validate_withTiers {tiers : List Tier}
    (h : ∃ schedule, Schedule.ofTiers tiers = .ok schedule) :
    (withTiers tiers).validate = .ok () := by
  obtain ⟨schedule, h⟩ := h
  obtain ⟨-, hdays, hinterval, hrenderer⟩ := validate_eq_ok_iff.mp validate_default
  refine validate_eq_ok_iff.mpr ⟨⟨schedule, ?_⟩, hdays, hinterval, hrenderer⟩
  rw [Config.schedule, withTiers, h]
  rfl

/-- A tier some days past the deadline. -/
def late (days : Int) : Tier := ⟨"late", -days, .reminder⟩

/-- An instant some days after the sample audit ends. -/
def day (n : Fin 365) : Instant :=
  { Instant.epoch with
    second := n * 86_400
    inRange := by
      simp only [earliestSecond, latestSecond]
      omega }

/-- The events of a pass that sends a tier thirty days past the deadline. -/
def lastDayTrace : List Event :=
  let request : Request := .of .sample (late 30) (daysLeft (day 30) .epoch)
  [⟨.note (.started (day 30)), ()⟩, ⟨.listOpen, .ok [.sample]⟩, ⟨.sentTiers "a", .ok .empty⟩,
    ⟨.claim "a" "late" (day 30), .ok true⟩, ⟨.deliver request, .sent⟩,
    ⟨.note (.sent request), ()⟩, ⟨.note (.finished 1 0 1 0 0), ()⟩]

/-- The default horizon is thirty days, and a tier thirty days past the deadline is sent. -/
theorem dispatched_on_last_day :
    (withTiers [late 30]).validate = .ok () ∧ ∃ plan, (withTiers [late 30]).plan = .ok plan ∧
      plan.isExpired (day 30) .sample = false ∧
      ∃ trace report s', Pass.Ran Memory.backend plan (day 30) .sample trace (.ok report) s' ∧
        ⟨"a", "late", .sent⟩ ∈ report.outcomes := by
  have hvalid : (withTiers [late 30]).validate = .ok () := validate_withTiers ⟨_, rfl⟩
  obtain ⟨plan, hplan, -, hall⟩ := dispatches_in_time hvalid
  obtain rfl : plan = ⟨⟨[late 30]⟩, Plan.default.horizon⟩ := by
    cases hplan
    rfl
  obtain ⟨hlooked, hdispatches⟩ := hall (late 30) (List.mem_singleton_self _) .sample (day 30) rfl
    (by decide) (by decide +kernel)
  have hsmooth : RecordStore.memory.backend.SmoothAll Memory.sample lastDayTrace _ :=
    .cons (.noted _) (.cons (.listed Memory.listOpen_sample) (.cons (.read rfl)
      (.cons (.claimed rfl) (.cons (.delivered _) (.cons (.noted _) (.cons (.noted _)
        (.nil _)))))))
  have hran : Pass.Ran RecordStore.memory.backend ⟨⟨[late 30]⟩, Plan.default.horizon⟩ (day 30)
      Memory.sample lastDayTrace (.ok _) _ :=
    ⟨.step (.step (.step (.step (.step (.step (.step (.done _))))))),
      hsmooth.map id Backend.Smooth.serves⟩
  have hwithin : -(late 30).offsetDays ≤ (withTiers [late 30]).scheduler.retentionHorizonDays := by
    decide
  have hfree : ¬ RecordStore.memory.ledger.Has (RecordStore.memory.rows Memory.sample)
      ("a", "late") := by
    rintro ⟨row, hrow, -⟩
    cases hrow
  obtain ⟨report, hreport, hsent, -⟩ := (hdispatches hwithin).sent hran hsmooth
    Memory.listOpen_sample (List.mem_singleton_self _) hfree
  cases hreport
  exact ⟨hvalid, _, hplan, hlooked.mpr hwithin, _, _, _, hran, hsent⟩

/-- A tier sixty days past the deadline passes the check as well.  When it falls due the audit is
long past, as it is whenever the tier is reached, and a pass leaves it aside. -/
theorem never_in_time :
    (withTiers [late 60]).validate = .ok () ∧ ∃ plan, (withTiers [late 60]).plan = .ok plan ∧
      late 60 ∈ plan.schedule.tiers ∧ Audit.sample.isOpen = true ∧ ¬ Audit.sample.endsAt.IsLeap ∧
      Schedule.dueAt? (late 60) Audit.sample.endsAt = some (day 60) ∧
      plan.isExpired (day 60) .sample = true ∧
      (∀ later, ¬ later.IsLeap → daysLeft later Audit.sample.endsAt ≤ (late 60).offsetDays →
        plan.isExpired later .sample = true) ∧
      (Pass.run Memory.backend (fun request => .ok ⟨request.tier, request.group⟩)
        (fun _ sent => (.ok (), sent + 1)) plan (day 60) ⟨.sample, 0, []⟩).1
          = .ok ⟨day 60, 0, 1, []⟩ := by
  have hvalid : (withTiers [late 60]).validate = .ok () := validate_withTiers ⟨_, rfl⟩
  have hends : ¬ Audit.sample.endsAt.IsLeap := by decide
  have hdue : Schedule.dueAt? (late 60) Audit.sample.endsAt = some (day 60) := by decide +kernel
  refine ⟨hvalid, ⟨⟨[late 60]⟩, Plan.default.horizon⟩, rfl, List.mem_singleton_self _, rfl, hends,
    hdue, by decide +kernel, fun later hlater hreached => ?_, ?_⟩
  · exact Plan.isExpired_of_reached rfl (by decide) hends hlater hdue (by decide) hreached
  · exact congrArg Prod.fst (Pass.run_of_scan Memory.listOpen_sample rfl)

end Config

end AuditReminder
