/-
Catching up.

A scheduler that was down sends late what it would have sent in time.  When nothing fails, passes at
several instants and a single pass at the last of them send the same tiers for an audit, in the same
order, and leave the same pairs recorded, unless the audit is long past by then.

What makes this work is that each part looks at one audit only.  A pass adds for an audit the tiers
that it sends (`Pass.gains_of_smooth`), and it sends what is due on the rows before it
(`Pass.sentFor_of_looked`): visits to other audits do not matter.  Two looks at a schedule add up to
the later one (`Ledger.dueOn_append`), as tiers that are reached stay reached and come first.  The
rest is an induction on the passes.

Main statement: `Pass.catch_up`.
-/
import AuditReminder.Proofs.Deadline
import AuditReminder.Proofs.Pass.History

namespace AuditReminder

/-- An audit that a pass looks at would have been looked at earlier. -/
theorem Plan.looksAt_of_le {plan : Plan} {now later : Instant} {audit : Audit} (hle : now ≤ later)
    (h : plan.looksAt later audit = true) : plan.looksAt now audit = true := by
  obtain ⟨hopen, hlooked⟩ := Bool.and_eq_true_iff.mp h
  refine Bool.and_eq_true_iff.mpr ⟨hopen, ?_⟩
  rw [Bool.not_eq_true'] at hlooked ⊢
  refine Bool.eq_false_iff.mpr fun hpast => ?_
  rw [Plan.isExpired_of_le hle hpast] at hlooked
  cases hlooked

/-! ## Tiers sent for an audit -/

/-- The tier that an event sends for the audit. -/
def Event.sentTier? (id : AuditId) : Event → Option String
  | ⟨.deliver request, .sent⟩ => if request.auditId = id then some request.tier else none
  | _ => none

/-- The tiers that were sent for the audit, in order. -/
def sentFor (id : AuditId) (trace : List Event) : List String :=
  trace.filterMap (Event.sentTier? id)

/-- The tiers that passes sent for the audit, in order. -/
def sentOver (id : AuditId) (history : List PassRun) : List String :=
  history.flatMap fun run => sentFor id run.trace

/-- The tiers of the visits to the audit. -/
def visitedFor (id : AuditId) (visits : List (Audit × List Tier)) : List String :=
  visits.flatMap fun visit => if visit.1.id = id then visit.2.map Tier.name else []

/-- The tier that a line tells to be sent for the audit. -/
def Settled.sentTier? (id : AuditId) (line : Settled) : Option String :=
  if line.how = .sent ∧ line.pair.1 = id then some line.pair.2 else none

theorem sentFor_eq (id : AuditId) (now : Instant) (trace : List Event) :
    sentFor id trace = (settled now trace).filterMap (Settled.sentTier? id) := by
  rw [sentFor, settled, List.filterMap_filterMap]
  refine List.filterMap_congr fun e _ => ?_
  obtain ⟨ask, answer⟩ := e
  cases ask with
  | deliver request =>
      cases answer <;> simp [Event.sentTier?, Event.settled?, Settled.sentTier?, Request.pair]
  | claim id tier instant =>
      rcases answer with fault | claimed
      · rfl
      · cases claimed <;> simp [Event.sentTier?, Event.settled?, Settled.sentTier?]
  | release id tier =>
      cases answer <;> simp [Event.sentTier?, Event.settled?, Settled.sentTier?]
  | listOpen | sentTiers | note => rfl

theorem sentTier?_sentOutcomes (id : AuditId) (now : Instant) (visit : Audit × List Tier) :
    ((sentOutcomes visit).map (Outcome.settled now)).filterMap (Settled.sentTier? id)
      = if visit.1.id = id then visit.2.map Tier.name else [] := by
  obtain ⟨audit, tiers⟩ := visit
  induction tiers with
  | nil => simp [sentOutcomes]
  | cons tier rest ih =>
      simp only [sentOutcomes, List.map_cons, List.filterMap_cons] at ih ⊢
      rw [ih]
      by_cases hid : audit.id = id <;>
        simp [Outcome.settled, Outcome.pair, Status.settlement, Settled.sentTier?, hid]

/-! ## Rows gained for an audit -/

namespace Ledger

variable {σ : Type} (l : Ledger σ)

/-- The rows of one audit, before and after some tiers were added. -/
def Gains (id : AuditId) (names : List String) (rows rows' : List l.Row) : Prop :=
  ∀ name, l.Has rows' (id, name) ↔ l.Has rows (id, name) ∨ name ∈ names

variable {l} {plan : Plan} {schedule : Schedule} {now later : Instant} {audit : Audit}
  {id : AuditId} {rows rows' rows'' : List l.Row} {names names' : List String}
  {visits : List (Audit × List Tier)} {visit : Audit × List Tier}

theorem Gains.trans (h : l.Gains id names rows rows') (h' : l.Gains id names' rows' rows'') :
    l.Gains id (names ++ names') rows rows'' := by
  intro name
  rw [h' name, h name, List.mem_append, or_assoc]

theorem gains_of_visit (h : l.Visits plan now rows visit rows') :
    l.Gains id (if visit.1.id = id then visit.2.map Tier.name else []) rows rows' := by
  intro name
  rw [h.added, l.has_append]
  refine or_congr_right ⟨?_, ?_⟩
  · rintro ⟨row, hrow, hpair⟩
    obtain ⟨tier, htier, rfl⟩ := List.mem_map.mp hrow
    rw [l.pair_entry] at hpair
    cases hpair
    rw [if_pos rfl]
    exact List.mem_map_of_mem htier
  · intro hname
    split at hname
    · next hid =>
      subst hid
      obtain ⟨tier, htier, rfl⟩ := List.mem_map.mp hname
      exact ⟨_, List.mem_map_of_mem htier, l.pair_entry _ _⟩
    · cases hname

/-- Visits add the tiers of the visits to the audit. -/
theorem gains_of_visits (h : Walk (l.Visits plan now) rows visits rows') :
    l.Gains id (visitedFor id visits) rows rows' := by
  induction h with
  | nil rows => exact fun name => by simp [visitedFor]
  | cons hvisit _ ih => exact (gains_of_visit hvisit).trans ih

theorem dueOn_congr (h : ∀ name, l.Has rows' (audit.id, name) ↔ l.Has rows (audit.id, name)) :
    l.dueOn schedule now audit rows' = l.dueOn schedule now audit rows := by
  refine List.filter_congr fun tier _ => ?_
  rw [decide_eq_decide.mpr (h tier.name)]

theorem visitedFor_of_not_mem (h : ∀ visit ∈ visits, visit.1.id ≠ id) :
    visitedFor id visits = [] := by
  refine List.flatMap_eq_nil_iff.mpr fun visit hv => ?_
  rw [if_neg (h visit hv)]

/-- For an audit that is visited once, what is sent is what is due on the rows before all visits. -/
theorem visitedFor_of_mem (h : Walk (l.Visits plan now) rows visits rows')
    (hids : (visits.map fun visit => visit.1.id).Nodup) (hv : visit ∈ visits) :
    visitedFor visit.1.id visits = (l.dueOn plan.schedule now visit.1 rows).map Tier.name := by
  obtain ⟨before, after, middle, next, rfl, hbefore, hvisit, -⟩ := h.split_of_mem hv
  rw [List.map_append, List.map_cons, List.nodup_append] at hids
  obtain ⟨-, hafter, hdisjoint⟩ := hids
  rw [List.nodup_cons] at hafter
  -- no visit before or after is to the same audit
  have hnone : visitedFor visit.1.id before = [] := by
    refine visitedFor_of_not_mem fun other ho he => ?_
    exact hdisjoint _ (List.mem_map_of_mem ho) _ List.mem_cons_self he
  have hnone' : visitedFor visit.1.id after = [] := by
    refine visitedFor_of_not_mem fun other ho he => hafter.1 ?_
    exact he ▸ List.mem_map_of_mem ho
  have hsame : l.Gains visit.1.id [] rows middle := hnone ▸ gains_of_visits hbefore
  have hdue :
      l.dueOn plan.schedule now visit.1 middle = l.dueOn plan.schedule now visit.1 rows := by
    refine dueOn_congr fun name => ?_
    rw [hsame name]
    simp
  calc visitedFor visit.1.id (before ++ visit :: after)
      = visitedFor visit.1.id before ++ (visit.2.map Tier.name ++ visitedFor visit.1.id after) := by
        simp [visitedFor]
    _ = visit.2.map Tier.name := by rw [hnone, hnone', List.nil_append, List.append_nil]
    _ = (l.dueOn plan.schedule now visit.1 rows).map Tier.name := by rw [hvisit.due, hdue]

/-- What is due now and then what is due later is what is due later at once. -/
theorem dueOn_append (hplan : Tier.InOrder schedule.tiers)
    (hle : daysLeft later audit.endsAt ≤ daysLeft now audit.endsAt)
    (h : l.Gains audit.id ((l.dueOn schedule now audit rows).map Tier.name) rows rows') :
    l.dueOn schedule now audit rows ++ l.dueOn schedule later audit rows'
      = l.dueOn schedule later audit rows := by
  -- a tier has a row in between if it had one before or was due now
  have hrow (tier : Tier) (ht : tier ∈ schedule.tiers) :
      l.Has rows' (audit.id, tier.name) ↔
        l.Has rows (audit.id, tier.name) ∨ tier.isReached (daysLeft now audit.endsAt) = true := by
    rw [h tier.name]
    constructor
    · rintro (hhas | hname)
      · exact Or.inl hhas
      · obtain ⟨other, hother, hsame⟩ := List.mem_map.mp hname
        obtain ⟨ho, hreached, -⟩ := mem_dueOn.mp hother
        obtain rfl := List.inj_on_of_nodup_map hplan.names ho ht hsame
        exact Or.inr (by simpa [Tier.isReached] using hreached)
    · rintro (hhas | hreached)
      · exact Or.inl hhas
      · by_cases hhas : l.Has rows (audit.id, tier.name)
        · exact Or.inl hhas
        · refine Or.inr (List.mem_map_of_mem (mem_dueOn.mpr ⟨ht, ?_, hhas⟩))
          simpa [Tier.isReached] using hreached
  have hlater : l.dueOn schedule later audit rows' = schedule.tiers.filter fun tier =>
      tier.isReached (daysLeft later audit.endsAt) && !tier.isReached (daysLeft now audit.endsAt) &&
        !decide (l.Has rows (audit.id, tier.name)) := by
    refine List.filter_congr fun tier ht => ?_
    by_cases hhas : l.Has rows (audit.id, tier.name) <;>
      by_cases hreached : tier.isReached (daysLeft now audit.endsAt) = true <;>
        simp [hrow tier ht, hhas, hreached]
  rw [hlater]
  exact filter_reached_append hplan hle _

/-- Where all tiers that are reached have rows, nothing is due at any of the visits. -/
theorem eq_nil_of_visits (h : Walk (l.Visits plan now) rows visits rows') (hv : visit ∈ visits)
    (hall : ∀ tier ∈ plan.schedule.tiers, daysLeft now visit.1.endsAt ≤ tier.offsetDays →
      l.Has rows (visit.1.id, tier.name)) : visit.2 = [] := by
  obtain ⟨before, after, middle, next, rfl, hbefore, hvisit, -⟩ := h.split_of_mem hv
  refine List.eq_nil_iff_forall_not_mem.mpr fun tier htier => ?_
  rw [hvisit.due] at htier
  obtain ⟨ht, hreached, hfree⟩ := mem_dueOn.mp htier
  exact hfree (has_of_visits hbefore (hall tier ht hreached))

end Ledger

/-! ## Passes in which nothing fails -/

/-- Passes by one plan in which nothing fails. -/
abbrev RecordStore.SmoothPasses (store : RecordStore) (plan : Plan) :
    store.State → List PassRun → store.State → Prop :=
  Walk fun s run s' => run.plan = plan ∧
    Pass.Ran store.backend plan run.now s run.trace run.result s' ∧
      store.backend.SmoothAll s run.trace s'

namespace Pass

variable {store : RecordStore} {plan : Plan} {s s' : store.State} {now : Instant}
  {trace : List Event} {result : Except PassStop Report} {id : AuditId} {audits : List Audit}
  {audit : Audit}

/-- The visits of a pass in which nothing fails, with what it sends for each audit. -/
theorem visits_of_smooth (hplan : Tier.InOrder plan.schedule.tiers)
    (hr : Ran store.backend plan now s trace result s') (hs : store.backend.SmoothAll s trace s')
    (hl : store.backend.listOpen s = .ok audits) :
    ∃ visits, visits.map Prod.fst = audits.filter (plan.looksAt now) ∧
      Walk (store.ledger.Visits plan now) (store.rows s) visits (store.rows s') ∧
      ∀ id, sentFor id trace = visitedFor id visits := by
  obtain ⟨audits', visits, report, hlisted, rfl, hvisited, hwalk, houtcomes, -⟩ :=
    smooth_pass store.keeps store.shows hplan hr hs
  rw [hl] at hlisted
  cases hlisted
  refine ⟨visits, hvisited, hwalk, fun id => ?_⟩
  obtain ⟨_, _, -, account⟩ := (account_of_yields hr.yields).2 report rfl
  have hlines : settled now trace = (visits.flatMap sentOutcomes).map (Outcome.settled now) := by
    rw [account.lines, ← houtcomes, account.outcomes]
    rfl
  rw [sentFor_eq id now, hlines, List.map_flatMap, List.filterMap_flatMap]
  refine List.flatMap_congr fun visit _ => ?_
  exact sentTier?_sentOutcomes id now visit

/-- A pass adds for an audit what it sends for it. -/
theorem gains_of_smooth (hplan : Tier.InOrder plan.schedule.tiers)
    (hr : Ran store.backend plan now s trace result s') (hs : store.backend.SmoothAll s trace s')
    (hl : store.backend.listOpen s = .ok audits) (id : AuditId) :
    store.ledger.Gains id (sentFor id trace) (store.rows s) (store.rows s') := by
  obtain ⟨visits, -, hwalk, hsent⟩ := visits_of_smooth hplan hr hs hl
  rw [hsent id]
  exact store.ledger.gains_of_visits hwalk

/-- For an audit that it looks at, a pass sends what is due on the rows before it. -/
theorem sentFor_of_looked (hplan : Tier.InOrder plan.schedule.tiers)
    (hr : Ran store.backend plan now s trace result s') (hs : store.backend.SmoothAll s trace s')
    (hl : store.backend.listOpen s = .ok audits) (hids : (audits.map Audit.id).Nodup)
    (ha : audit ∈ audits) (hlooked : plan.looksAt now audit = true) :
    sentFor audit.id trace
      = (store.ledger.dueOn plan.schedule now audit (store.rows s)).map Tier.name := by
  obtain ⟨visits, hvisited, hwalk, hsent⟩ := visits_of_smooth hplan hr hs hl
  have hmem : audit ∈ visits.map Prod.fst := by
    rw [hvisited]
    exact List.mem_filter.mpr ⟨ha, hlooked⟩
  obtain ⟨visit, hvisit, rfl⟩ := List.mem_map.mp hmem
  have hnodup : (visits.map fun visit => visit.1.id).Nodup := by
    have hsub : ((visits.map Prod.fst).map Audit.id).Nodup := by
      rw [hvisited]
      exact hids.sublist (List.filter_sublist.map _)
    rwa [List.map_map] at hsub
  rw [hsent]
  exact store.ledger.visitedFor_of_mem hwalk hnodup hvisit

theorem sentFor_of_not_looked (hplan : Tier.InOrder plan.schedule.tiers)
    (hr : Ran store.backend plan now s trace result s') (hs : store.backend.SmoothAll s trace s')
    (hl : store.backend.listOpen s = .ok audits)
    (hnot : ∀ audit ∈ audits, audit.id = id → plan.looksAt now audit = false) :
    sentFor id trace = [] := by
  obtain ⟨visits, hvisited, -, hsent⟩ := visits_of_smooth hplan hr hs hl
  rw [hsent]
  refine Ledger.visitedFor_of_not_mem fun visit hv he => ?_
  have hmem : visit.1 ∈ audits.filter (plan.looksAt now) := hvisited ▸ List.mem_map_of_mem hv
  obtain ⟨hmem, hlooks⟩ := List.mem_filter.mp hmem
  rw [hnot visit.1 hmem he] at hlooks
  cases hlooks

/-! ## Many passes -/

section Many

variable {history earlier : List PassRun} {last : PassRun}

/-- Passes add for an audit what they send for it. -/
theorem gains_of_smoothPasses (hplan : Tier.InOrder plan.schedule.tiers)
    (h : store.SmoothPasses plan s history s') (hl : store.backend.listOpen s = .ok audits)
    (id : AuditId) :
    store.ledger.Gains id (sentOver id history) (store.rows s) (store.rows s') := by
  induction h with
  | nil s => exact fun name => by simp [sentOver]
  | cons hrun _ ih =>
      obtain ⟨-, hr, hs⟩ := hrun
      have hl' := (store.shows.listOpen_servesAll hr.served).trans hl
      exact (gains_of_smooth hplan hr hs hl id).trans (ih hl')

theorem sentOver_of_not_looked (hplan : Tier.InOrder plan.schedule.tiers)
    (h : store.SmoothPasses plan s history s') (hl : store.backend.listOpen s = .ok audits)
    (hnot : ∀ run ∈ history, ∀ audit ∈ audits, audit.id = id →
      plan.looksAt run.now audit = false) : sentOver id history = [] := by
  induction h with
  | nil s => rfl
  | cons hrun _ ih =>
      obtain ⟨-, hr, hs⟩ := hrun
      have hl' := (store.shows.listOpen_servesAll hr.served).trans hl
      rw [List.forall_mem_cons] at hnot
      rw [sentOver, List.flatMap_cons, sentFor_of_not_looked hplan hr hs hl hnot.1]
      exact ih hl' hnot.2

/-- Passes over an audit that all of them look at send what is due at the last of them. -/
theorem sentOver_of_looked (hplan : Tier.InOrder plan.schedule.tiers)
    (h : store.SmoothPasses plan s (earlier ++ [last]) s')
    (hl : store.backend.listOpen s = .ok audits) (hids : (audits.map Audit.id).Nodup)
    (ha : audit ∈ audits) (hlooked : ∀ run ∈ earlier ++ [last], plan.looksAt run.now audit = true)
    (hdays : ∀ run ∈ earlier, daysLeft last.now audit.endsAt ≤ daysLeft run.now audit.endsAt) :
    sentOver audit.id (earlier ++ [last])
      = (store.ledger.dueOn plan.schedule last.now audit (store.rows s)).map Tier.name := by
  induction earlier generalizing s with
  | nil =>
      obtain ⟨s₁, ⟨-, hr, hs⟩, -⟩ := Walk.cons_iff.mp h
      have hlast := hlooked last List.mem_cons_self
      rw [List.nil_append, sentOver, List.flatMap_cons,
        sentFor_of_looked hplan hr hs hl hids ha hlast]
      exact List.append_nil _
  | cons run rest ih =>
      obtain ⟨s₁, ⟨-, hr, hs⟩, hrest⟩ := Walk.cons_iff.mp h
      rw [List.cons_append, List.forall_mem_cons] at hlooked
      rw [List.forall_mem_cons] at hdays
      have hl' := (store.shows.listOpen_servesAll hr.served).trans hl
      have hfirst := sentFor_of_looked hplan hr hs hl hids ha hlooked.1
      have hgains := gains_of_smooth hplan hr hs hl audit.id
      rw [hfirst] at hgains
      calc sentOver audit.id (run :: (rest ++ [last]))
          = sentFor audit.id run.trace ++ sentOver audit.id (rest ++ [last]) := List.flatMap_cons
        _ = (store.ledger.dueOn plan.schedule run.now audit (store.rows s)
              ++ store.ledger.dueOn plan.schedule last.now audit (store.rows s₁)).map
                Tier.name := by
            rw [hfirst, ih hrest hl' hlooked.2 hdays.2, List.map_append]
        _ = (store.ledger.dueOn plan.schedule last.now audit (store.rows s)).map Tier.name := by
            rw [store.ledger.dueOn_append hplan hdays.1 hgains]

/-- Passes in order and one pass at the last of them send the same for each audit that is not long
past at the end. -/
theorem sentOver_eq_sentFor {s₁ : store.State} (hplan : Tier.InOrder plan.schedule.tiers)
    (hpasses : store.SmoothPasses plan s (earlier ++ [last]) s')
    (hr : Ran store.backend plan last.now s trace result s₁)
    (hs : store.backend.SmoothAll s trace s₁)
    (hl : store.backend.listOpen s = .ok audits) (hids : (audits.map Audit.id).Nodup)
    (hle : ∀ run ∈ earlier ++ [last], run.now ≤ last.now)
    (hleap : ∀ run ∈ earlier ++ [last], ¬ run.now.IsLeap)
    (hends : ∀ audit ∈ audits, ¬ audit.endsAt.IsLeap)
    (hpast : ∀ audit ∈ audits, audit.id = id → audit.isOpen = true →
      plan.isExpired last.now audit = false) :
    sentOver id (earlier ++ [last]) = sentFor id trace := by
  have hmem : last ∈ earlier ++ [last] := List.mem_append_right _ (List.mem_singleton_self last)
  by_cases hopen : ∃ audit ∈ audits, audit.id = id ∧ audit.isOpen = true
  · obtain ⟨audit, ha, rfl, hopen⟩ := hopen
    have hlast : plan.looksAt last.now audit = true := by
      simp [Plan.looksAt, hopen, hpast audit ha rfl hopen]
    rw [sentFor_of_looked hplan hr hs hl hids ha hlast]
    refine sentOver_of_looked hplan hpasses hl hids ha ?_ ?_
    · exact fun run hrun => Plan.looksAt_of_le (hle run hrun) hlast
    · intro run hrun
      have hrun := List.mem_append_left [last] hrun
      exact daysLeft_le_of_le (hle run hrun) (hleap run hrun) (hleap last hmem) (hends audit ha)
  · -- no pass looks at an audit with this id
    have hnot (now : Instant) : ∀ audit ∈ audits, audit.id = id →
        plan.looksAt now audit = false := by
      intro audit ha hid
      refine Bool.eq_false_iff.mpr fun hlooks => hopen ⟨audit, ha, hid, ?_⟩
      exact (Bool.and_eq_true_iff.mp hlooks).1
    rw [sentOver_of_not_looked hplan hpasses hl fun run _ => hnot run.now,
      sentFor_of_not_looked hplan hr hs hl (hnot last.now)]

/-- A second pass at the same instant finds nothing to do. -/
theorem nothing_again {result' : Except PassStop Report} {trace' : List Event} {s'' : store.State}
    (hplan : Tier.InOrder plan.schedule.tiers)
    (hr : Ran store.backend plan now s trace result s') (hs : store.backend.SmoothAll s trace s')
    (hr' : Ran store.backend plan now s' trace' result' s'')
    (hs' : store.backend.SmoothAll s' trace' s'') :
    (∃ report, result' = .ok report ∧ report.outcomes = []) ∧ s'' = s' := by
  obtain ⟨audits, visits, -, hlisted, -, hvisited, hwalk, -, -⟩ :=
    smooth_pass store.keeps store.shows hplan hr hs
  obtain ⟨audits', visits', report, hlisted', rfl, hvisited', hwalk', houtcomes, hsame⟩ :=
    smooth_pass store.keeps store.shows hplan hr' hs'
  rw [store.shows.listOpen_servesAll hr.served, hlisted] at hlisted'
  cases hlisted'
  have hnothing : ∀ visit ∈ visits', visit.2 = [] := by
    intro visit hv
    refine store.ledger.eq_nil_of_visits hwalk' hv fun tier ht hreached => ?_
    -- the first pass visited the audit too
    have hmem : visit.1 ∈ visits.map Prod.fst := by
      rw [hvisited, ← hvisited']
      exact List.mem_map_of_mem hv
    obtain ⟨first, hfirst, hsameAudit⟩ := List.mem_map.mp hmem
    rw [← hsameAudit] at hreached ⊢
    exact store.ledger.recorded_of_visits hwalk hfirst ht hreached
  refine ⟨⟨report, rfl, ?_⟩, hsame hnothing⟩
  rw [houtcomes]
  refine List.flatMap_eq_nil_iff.mpr fun visit hv => ?_
  rw [sentOutcomes, hnothing visit hv]
  rfl

/-- Catching up: when nothing fails, passes at several instants in order and one pass at the last of
them send the same tiers in the same order for each audit that is not long past at the end, and
leave the same pairs recorded.  One more pass at that instant finds nothing to do. -/
theorem catch_up {tiers : List Tier} {single : PassRun} {s₁ : store.State}
    (hplan : Schedule.ofTiers tiers = .ok plan.schedule) (hkeyed : store.Keyed s)
    (hpasses : store.SmoothPasses plan s (earlier ++ [last]) s')
    (hinOrder : (earlier ++ [last]).Pairwise fun a b => a.now ≤ b.now)
    (hsingle : store.SmoothPasses plan s [single] s₁) (hnow : single.now = last.now)
    (hleap : ∀ run ∈ earlier ++ [last], ¬ run.now.IsLeap)
    (hends : ∀ audits, store.backend.listOpen s = .ok audits →
      ∀ audit ∈ audits, ¬ audit.endsAt.IsLeap) :
    ∃ audits, store.backend.listOpen s = .ok audits ∧
      (∀ id, (∀ audit ∈ audits, audit.id = id → audit.isOpen = true →
          plan.isExpired last.now audit = false) →
        (∀ tier, store.ledger.Has (store.rows s') (id, tier) ↔
          store.ledger.Has (store.rows s₁) (id, tier)) ∧
        sentOver id (earlier ++ [last]) = sentFor id single.trace) ∧
      ∀ again s₂, store.SmoothPasses plan s₁ [again] s₂ → again.now = single.now →
        (∃ report, again.result = .ok report ∧ report.outcomes = []) ∧ s₂ = s₁ := by
  have htiers := (Schedule.inOrder_ofTiers hplan).2
  obtain ⟨_, ⟨-, hr, hs⟩, hnil⟩ := Walk.cons_iff.mp hsingle
  obtain rfl := Walk.nil_iff.mp hnil
  obtain ⟨audits, _, _, hlisted, -, -, -, -, -⟩ := smooth_pass store.keeps store.shows htiers hr hs
  have hids := store.distinct hkeyed hlisted
  have hle : ∀ run ∈ earlier ++ [last], run.now ≤ last.now := by
    intro run hrun
    rcases List.mem_append.mp hrun with hrun | hrun
    · exact (List.pairwise_append.mp hinOrder).2.2 run hrun last (List.mem_singleton_self last)
    · rw [List.mem_singleton.mp hrun]
      exact Instant.le_iff.mpr (Or.inr ⟨rfl, Nat.le_refl _⟩)
  refine ⟨audits, hlisted, ?_, ?_⟩
  · intro id hpast
    have hsent : sentOver id (earlier ++ [last]) = sentFor id single.trace :=
      sentOver_eq_sentFor htiers hpasses (hnow ▸ hr) hs hlisted hids hle hleap
        (hends audits hlisted) hpast
    refine ⟨fun tier => ?_, hsent⟩
    rw [gains_of_smoothPasses htiers hpasses hlisted id tier,
      gains_of_smooth htiers hr hs hlisted id tier, hsent]
  · intro again s₂ hagain hsame
    obtain ⟨_, ⟨-, hr', hs'⟩, hnil'⟩ := Walk.cons_iff.mp hagain
    obtain rfl := Walk.nil_iff.mp hnil'
    rw [hsame] at hr'
    exact nothing_again htiers hr hs hr' hs'

/-- The day after the sample audit ends. -/
def nextDay : Instant :=
  { Instant.epoch with second := 86_400, inRange := by decide }

/-- The events of a pass over the sample audit when its tier was sent before. -/
def idleTrace (now : Instant) : List Event :=
  [⟨.note (.started now), ()⟩, ⟨.listOpen, .ok [.sample]⟩,
    ⟨.sentTiers "a", .ok (.ofList ["overdue"])⟩, ⟨.note (.finished 1 0 0 0 0), ()⟩]

/-- A reminder that was sent in time, and the same sent a day late. -/
theorem caught_up_next_day :
    ∃ first second late s' s₁,
      RecordStore.memory.SmoothPasses .sample Memory.sample [first, second] s' ∧
        RecordStore.memory.SmoothPasses .sample Memory.sample [late] s₁ ∧
        first.now = .epoch ∧ second.now = nextDay ∧ late.now = nextDay ∧
        sentFor "a" late.trace = ["overdue"] ∧
        sentOver "a" [first, second] = sentFor "a" late.trace := by
  have hfirst := smoothAll_sampleTrace .epoch
  have hlate := smoothAll_sampleTrace nextDay
  have hsecond : RecordStore.memory.backend.SmoothAll
      (⟨[.sample], [⟨"a", "overdue", .epoch⟩]⟩ : Memory) (idleTrace nextDay) _ :=
    .cons (.noted _) (.cons (.listed Memory.listOpen_sample) (.cons (.read rfl)
      (.cons (.noted _) (.nil _))))
  have hran : Ran RecordStore.memory.backend .sample .epoch Memory.sample (sampleTrace .epoch)
      (.ok _) _ :=
    ⟨.step (.step (.step (.step (.step (.step (.step (.done _))))))),
      hfirst.map id Backend.Smooth.serves⟩
  have hran' : Ran RecordStore.memory.backend .sample nextDay _ (idleTrace nextDay) (.ok _) _ :=
    ⟨.step (.step (.step (.step (.done _)))), hsecond.map id Backend.Smooth.serves⟩
  have hranLate : Ran RecordStore.memory.backend .sample nextDay Memory.sample (sampleTrace nextDay)
      (.ok _) _ :=
    ⟨.step (.step (.step (.step (.step (.step (.step (.done _))))))),
      hlate.map id Backend.Smooth.serves⟩
  have hpasses : RecordStore.memory.SmoothPasses .sample Memory.sample
      ([⟨.sample, .epoch, _, _⟩] ++ [⟨.sample, nextDay, _, _⟩]) _ :=
    .cons ⟨rfl, hran, hfirst⟩ (.cons ⟨rfl, hran', hsecond⟩ (.nil _))
  have hsingle : RecordStore.memory.SmoothPasses .sample Memory.sample
      [⟨.sample, nextDay, _, _⟩] _ :=
    .cons ⟨rfl, hranLate, hlate⟩ (.nil _)
  have hplan : Schedule.ofTiers Plan.sample.schedule.tiers = .ok Plan.sample.schedule := by rfl
  have hends : ∀ audits, RecordStore.memory.backend.listOpen Memory.sample = .ok audits →
      ∀ audit ∈ audits, ¬ audit.endsAt.IsLeap := by
    intro audits hlisted audit ha
    cases Memory.listOpen_sample.symm.trans hlisted
    rw [List.mem_singleton.mp ha]
    decide
  obtain ⟨audits, hlisted, hsame, -⟩ := catch_up hplan (List.pairwise_singleton _ _) hpasses
    (by decide) hsingle rfl (by decide) hends
  cases Memory.listOpen_sample.symm.trans hlisted
  obtain ⟨-, hsent⟩ := hsame "a" fun audit ha _ _ => by
    rw [List.mem_singleton.mp ha]
    decide
  exact ⟨_, _, _, _, _, hpasses, hsingle, rfl, rfl, rfl, rfl, hsent⟩

end Many

end Pass

end AuditReminder
