/-
What one pass means.

Whatever the store held, whatever it answered and however the deliveries ended, a pass fails when
the listing, a read or a claim met a fault, and for nothing else.  The report of a pass that did not
fail is exact: it counts the open audits that were listed, has one outcome for each tier that was
due, in order, and the outcomes tell what was done to the records.  A row was added for each tier
that was sent or whose claim could not be given back, and nothing else was changed.  A pass that
failed added the rows that it kept until then.

A row is written as the store writes it.  The store in memory keeps the instant of the pass; the
database keeps its text, which has three digits of fraction, so that of an instant between two
milliseconds the earlier millisecond is kept (`sentAt_cut_in_database`).

Main statement: `Pass.meaning`.
-/
import AuditReminder.Proofs.Deadline
import AuditReminder.Proofs.Pass.Account
import AuditReminder.Proofs.Store.RoundTrip
import AuditReminder.Proofs.Store.Stores
import Mathlib.Data.List.Nodup

namespace AuditReminder

/-! ## Rows that outcomes leave -/

/-- The row of the claim stays. -/
def Status.keepsRow : Status → Bool
  | sent => true
  | skippedDuplicate => false
  | failedRolledBack _ => false
  | failedClaimRetained _ => true

theorem Status.keeps_settlement (status : Status) : status.settlement.keeps = status.keepsRow := by
  cases status <;> rfl

namespace Ledger

variable {σ : Type} (l : Ledger σ)

/-- The rows that outcomes leave, made at an instant. -/
def entries (now : Instant) (outcomes : List Outcome) : List l.Row :=
  (outcomes.filter fun o => o.status.keepsRow).map fun o => l.entry o.pair now

variable {l} {now : Instant} {rows rows' : List l.Row} {outcomes : List Outcome} {p : Pair}

theorem entries_eq (now : Instant) (outcomes : List Outcome) :
    (kept (outcomes.map (Outcome.settled now))).map l.entryOf = l.entries now outcomes := by
  have hkeeps : (fun line : Settled => line.how.keeps) ∘ Outcome.settled now
      = fun o => o.status.keepsRow := funext fun o => o.status.keeps_settlement
  rw [kept, List.filter_map, hkeeps, List.map_map]
  rfl

theorem has_entries :
    l.Has (l.entries now outcomes) p ↔ ∃ o ∈ outcomes, o.status.keepsRow = true ∧ o.pair = p := by
  constructor
  · rintro ⟨row, hrow, rfl⟩
    obtain ⟨o, ho, rfl⟩ := List.mem_map.mp hrow
    obtain ⟨ho, hkeeps⟩ := List.mem_filter.mp ho
    exact ⟨o, ho, hkeeps, (l.pair_entry _ _).symm⟩
  · rintro ⟨o, ho, hkeeps, rfl⟩
    exact ⟨_, List.mem_map_of_mem (List.mem_filter.mpr ⟨ho, hkeeps⟩), l.pair_entry _ _⟩

/-- Outcomes on rows: when an outcome was settled, its pair had a row exactly if the claim was
lost. -/
theorem outcome_of_walk {before after : List Outcome} {o : Outcome}
    (h : Walk l.Settles rows ((before ++ o :: after).map (Outcome.settled now)) rows') :
    (o.status = .skippedDuplicate → l.Has (rows ++ l.entries now before) o.pair) ∧
      (o.status ≠ .skippedDuplicate → ¬ l.Has (rows ++ l.entries now before) o.pair) := by
  rw [List.map_append, List.map_cons] at h
  obtain ⟨middle, hbefore, hrest⟩ := Walk.append_iff.mp h
  obtain ⟨_, hline, -⟩ := Walk.cons_iff.mp hrest
  rw [← l.entries_eq, ← l.rows_of_walk hbefore]
  cases hline with
  | lost hhow hhas =>
      refine ⟨fun _ => hhas, fun hne => (hne ?_).elim⟩
      cases hs : o.status <;> simp [Outcome.settled, hs, Status.settlement] at hhow ⊢
  | givenBack hhow hfree =>
      refine ⟨fun hs => ?_, fun _ => hfree⟩
      simp [Outcome.settled, hs, Status.settlement] at hhow
  | kept hkeeps hfree =>
      refine ⟨fun hs => ?_, fun _ => hfree⟩
      simp [Outcome.settled, hs, Status.settlement, Settlement.keeps] at hkeeps

/-- The rows that were there stay, and the outcomes leave theirs. -/
theorem rows_of_outcomes (h : Walk l.Settles rows (outcomes.map (Outcome.settled now)) rows') :
    rows' = rows ++ l.entries now outcomes := by
  rw [← l.entries_eq]
  exact l.rows_of_walk h

/-- Where no pair is handled twice, a lost claim found a row of before, and the pair of a claim that
was given back has no row in the end. -/
theorem outcome_of_nodup (h : Walk l.Settles rows (outcomes.map (Outcome.settled now)) rows')
    (hnodup : (outcomes.map Outcome.pair).Nodup) {o : Outcome} (ho : o ∈ outcomes) :
    (o.status = .skippedDuplicate → l.Has rows o.pair) ∧
      ∀ reason, o.status = .failedRolledBack reason → ¬ l.Has rows' o.pair := by
  -- a row that an outcome left for this pair would be of this outcome
  have hkeeps (o' : Outcome) (ho' : o' ∈ outcomes) (hk : o'.status.keepsRow = true)
      (hpair : o'.pair = o.pair) : o.status.keepsRow = true := by
    rwa [List.inj_on_of_nodup_map hnodup ho' ho hpair] at hk
  obtain ⟨before, after, rfl⟩ := List.append_of_mem ho
  obtain ⟨hlost, hfree⟩ := outcome_of_walk h
  constructor
  · intro hs
    rcases l.has_append.mp (hlost hs) with hhas | hhas
    · exact hhas
    · obtain ⟨o', ho', hk, hpair⟩ := l.has_entries.mp hhas
      have hstays := hkeeps o' (List.mem_append_left _ ho') hk hpair
      rw [hs] at hstays
      cases hstays
  · intro reason hs hhas
    rw [rows_of_outcomes h, l.has_append] at hhas
    rcases hhas with hhas | hhas
    · exact hfree (by simp [hs]) (l.has_append.mpr (Or.inl hhas))
    · obtain ⟨o', ho', hk, hpair⟩ := l.has_entries.mp hhas
      have hstays := hkeeps o' ho' hk hpair
      rw [hs] at hstays
      cases hstays

end Ledger

/-! ## Counts and pairs of an account -/

variable {plan : Plan} {now : Instant}

theorem countP_looksAt_add (audits : List Audit) :
    audits.countP (plan.looksAt now) + audits.countP (plan.leavesAside now)
      = audits.countP Audit.isOpen := by
  induction audits with
  | nil => rfl
  | cons audit rest ih =>
      rw [List.countP_cons, List.countP_cons, List.countP_cons, ← ih]
      cases hopen : audit.isOpen <;> cases hexpired : plan.isExpired now audit <;>
        simp [Plan.looksAt, Plan.leavesAside, hopen, hexpired] <;> omega

namespace Account

variable {audits : List Audit} {trace : List Event} {start final : Report} {visits : List Visit}

/-- Of audits with different ids, no pair is handled twice. -/
theorem nodup_pairs (account : Account plan now audits trace start final visits)
    (hplan : Tier.InOrder plan.schedule.tiers) (hids : (audits.map Audit.id).Nodup) :
    ((visits.flatMap Visit.outcomes).map Outcome.pair).Nodup := by
  have hvisits : visits.Pairwise fun v w => v.audit.id ≠ w.audit.id := by
    have hsub : ((visits.map Visit.audit).map Audit.id).Nodup := by
      rw [account.visited]
      exact hids.sublist (List.filter_sublist.map _)
    rw [List.map_map] at hsub
    exact List.pairwise_map.mp hsub
  rw [List.map_flatMap, List.nodup_flatMap]
  constructor
  · intro visit hv
    rw [account.due visit hv]
    have hnames := (plan.schedule.inOrder_due hplan now visit.audit.endsAt visit.sent).names
    rw [List.Nodup, List.pairwise_map] at hnames ⊢
    exact hnames.imp fun hne he => hne (Prod.mk.inj he).2
  · refine hvisits.imp_of_mem fun {v w} hv hw hne => ?_
    intro p hpv hpw
    change p ∈ v.outcomes.map Outcome.pair at hpv
    change p ∈ w.outcomes.map Outcome.pair at hpw
    rw [account.due v hv] at hpv
    rw [account.due w hw] at hpw
    obtain ⟨t, -, rfl⟩ := List.mem_map.mp hpv
    obtain ⟨u, -, he⟩ := List.mem_map.mp hpw
    exact hne (Prod.mk.inj he).1.symm

end Account

/-! ## The meaning of a pass -/

/-- What a report says, and what its pass did to the rows: `rows` before it and `rows'` after it. -/
structure Reported {σ : Type} (l : Ledger σ) (plan : Plan) (now : Instant) (trace : List Event)
    (report : Report) (rows rows' : List l.Row) (audits : List Audit) (visits : List Visit) :
    Prop where
  listed : ⟨.listOpen, .ok audits⟩ ∈ trace
  counted : report.scanned + report.expired = audits.countP Audit.isOpen
  expired : report.expired = audits.countP (plan.leavesAside now)
  /-- One visit for each open audit that is not long past, in the order of the listing. -/
  visited : visits.map Visit.audit = audits.filter (plan.looksAt now)
  read : reads trace = visits.map fun visit => (visit.audit.id, visit.sent)
  outcomes : report.outcomes = visits.flatMap Visit.outcomes
  /-- One outcome for each tier that is reached and not among those read, the largest threshold
  first. -/
  due : ∀ visit ∈ visits, ∃ due : List Tier,
    visit.outcomes.map Outcome.pair = due.map (fun tier => (visit.audit.id, tier.name)) ∧
      (due.map Tier.name).Nodup ∧
      (due.Pairwise fun a b => b.offsetDays < a.offsetDays) ∧
      ∀ tier, tier ∈ due ↔ tier ∈ plan.schedule.tiers ∧
        daysLeft now visit.audit.endsAt ≤ tier.offsetDays ∧ tier.name ∉ visit.sent
  added : rows' = rows ++ l.entries now report.outcomes
  /-- A lost claim found a row, and a claim that was given back found none. -/
  inTurn : ∀ before o after, report.outcomes = before ++ o :: after →
    (o.status = .skippedDuplicate → l.Has (rows ++ l.entries now before) o.pair) ∧
      (o.status ≠ .skippedDuplicate → ¬ l.Has (rows ++ l.entries now before) o.pair)
  /-- When no two of the audits listed have the same id, that row was there before the pass, and
  none is there after it. -/
  distinct : (audits.map Audit.id).Nodup → ∀ o ∈ report.outcomes,
    (o.status = .skippedDuplicate → l.Has rows o.pair) ∧
      ∀ reason, o.status = .failedRolledBack reason → ¬ l.Has rows' o.pair

namespace Pass

variable {store : RecordStore} {s s' : store.State} {trace : List Event}
  {result : Except PassStop Report} {tiers : List Tier}

theorem reported_of_ran (hplan : Tier.InOrder plan.schedule.tiers) {report : Report}
    (h : Ran store.backend plan now s trace (.ok report) s') :
    ∃ audits visits, Reported store.ledger plan now trace report (store.rows s) (store.rows s')
      audits visits := by
  obtain ⟨-, haccount⟩ := account_of_yields h.yields
  obtain ⟨audits, visits, hlisted, account⟩ := haccount report rfl
  have hwalk := store.keeps.settles h
  have hlines : settled now trace = report.outcomes.map (Outcome.settled now) := by
    rw [account.lines, account.outcomes]
    rfl
  rw [hlines] at hwalk
  have hscanned : report.scanned = audits.countP (plan.looksAt now) := by
    have hlength := congrArg List.length account.visited
    rw [List.length_map, ← List.countP_eq_length_filter] at hlength
    rw [account.scanned, hlength]
    exact Nat.zero_add _
  have hexpired : report.expired = audits.countP (plan.leavesAside now) :=
    account.expired.trans (Nat.zero_add _)
  refine ⟨audits, visits, {
    listed := hlisted
    counted := ?_
    expired := hexpired
    visited := account.visited
    read := account.read
    outcomes := account.outcomes
    due := ?_
    added := store.ledger.rows_of_outcomes hwalk
    inTurn := ?_
    distinct := ?_ }⟩
  · rw [hscanned, hexpired, countP_looksAt_add]
  · intro visit hv
    have hdue := plan.schedule.inOrder_due hplan now visit.audit.endsAt visit.sent
    exact ⟨_, account.due visit hv, hdue.names, hdue.falling, fun tier => Schedule.mem_due⟩
  · intro before o after ho
    exact store.ledger.outcome_of_walk (ho ▸ hwalk)
  · intro hids o ho
    refine store.ledger.outcome_of_nodup hwalk ?_ ho
    rw [account.outcomes]
    exact account.nodup_pairs hplan hids

/-- What a pass means: when it fails, what its report says if it does not, and what it did to the
rows either way.  What a keyed store lists has no two audits of the same id. -/
theorem meaning (hplan : Schedule.ofTiers tiers = .ok plan.schedule)
    (h : Ran store.backend plan now s trace result s') :
    (∀ fault, result = .error (.aborted fault) ↔
      ∃ e ∈ trace, e.stop? = some (.aborted fault)) ∧
    (∀ report, result = .ok report → ∃ audits visits,
      Reported store.ledger plan now trace report (store.rows s) (store.rows s') audits visits ∧
        (store.Keyed s → store.backend.listOpen s = .ok audits → (audits.map Audit.id).Nodup)) ∧
    (∀ fault, result = .error (.aborted fault) →
      store.rows s' = store.rows s ++ (kept (settled now trace)).map store.ledger.entryOf ∧
        ∀ line ∈ kept (settled now trace), (line.how = .sent ∨ line.how = .retained) ∧
          ∃ block, Dispatched now line.pair line.how block ∧ block <:+: trace) := by
  obtain ⟨hstops, -⟩ := account_of_yields h.yields
  refine ⟨?_, ?_, ?_⟩
  · intro fault
    have hmem : (∃ e ∈ trace, e.stop? = some (.aborted fault)) ↔
        .aborted fault ∈ stopOf result := by
      rw [← hstops]
      exact List.mem_filterMap.symm
    rw [hmem]
    rcases result with stop | report
    · simp [stopOf, eq_comm]
    · simp [stopOf]
  · rintro report rfl
    obtain ⟨audits, visits, reported⟩ := reported_of_ran (Schedule.inOrder_ofTiers hplan).2 h
    exact ⟨audits, visits, reported, store.distinct⟩
  · rintro fault rfl
    refine ⟨store.ledger.rows_of_walk (store.keeps.settles h), fun line hline => ?_⟩
    obtain ⟨hmem, hkeeps⟩ := mem_kept.mp hline
    refine ⟨?_, store.keeps.dispatched h hmem⟩
    cases hhow : line.how with
    | sent => exact Or.inl rfl
    | retained => exact Or.inr rfl
    | lost | givenBack => simp [hhow, Settlement.keeps] at hkeeps
    | cutOff =>
        -- what cut it off would be another stop
        have hhalted := halted_mem_stops hmem hhow
        rw [hstops] at hhalted
        simp [stopOf] at hhalted

/-- A delivery fails and so does the release: the pass is through, and the row stays. -/
theorem meaning_of_retained :
    ∃ trace report s',
      Ran Memory.backend Plan.sample .epoch .sample trace (.ok report) s' ∧
        (∃ reason, report.outcomes = [⟨"a", "overdue", .failedClaimRetained reason⟩]) ∧
        s'.records = [⟨"a", "overdue", .epoch⟩] := by
  have hran : Ran RecordStore.memory.backend Plan.sample .epoch Memory.sample
      [⟨.note _, ()⟩, ⟨.listOpen, .ok [.sample]⟩, ⟨.sentTiers "a", .ok .empty⟩,
        ⟨.claim "a" "overdue" .epoch, .ok true⟩, ⟨.deliver _, .sendFailed .noRecipients⟩,
        ⟨.release "a" "overdue", .error .locked⟩, ⟨.note _, ()⟩, ⟨.note _, ()⟩] (.ok _) _ :=
    ⟨.step (.step (.step (.step (.step (.step (.step (.step (.done _)))))))),
      .cons (.noted _) (.cons (.listed _) (.cons (.read _ _) (.cons (.claimed _ _ _)
        (.cons (.delivered _ _) (.cons (.unreleased _ _ _) (.cons (.noted _)
          (.cons (.noted _) (.nil _))))))))⟩
  have hplan : Schedule.ofTiers Plan.sample.schedule.tiers = .ok Plan.sample.schedule := by rfl
  obtain ⟨-, hok, -⟩ := meaning hplan hran
  obtain ⟨audits, visits, reported, -⟩ := hok _ rfl
  exact ⟨_, _, _, hran, ⟨_, rfl⟩, reported.added⟩

/-- A database that holds the sample audit and no records. -/
def sampleDatabase : Database := ⟨⟨some [.ofAudit .sample], some [], some (some 2), true⟩, none⟩

/-- The instant after the deadline of the sample audit. -/
def justAfter : Instant :=
  { Instant.epoch with nano := 1, belowTwoSeconds := by decide }

theorem decode_sample : (AuditRow.ofAudit .sample).decode = .ok .sample := by
  have hcommon : Audit.sample.IsCommon := ⟨by decide +kernel, by decide +kernel⟩
  rw [AuditRow.decode_ofAudit hcommon.plain, hcommon.kept_eq]

theorem listOpen_sampleDatabase : (Database.backend 0).listOpen sampleDatabase = .ok [.sample] := by
  show Tables.decodeRows AuditRow.decode
    (List.mergeSort [.ofAudit .sample] AuditRow.listedBefore) = _
  rw [List.mergeSort_singleton, Tables.decodeRows, decode_sample]
  rfl

/-- Nothing fails in a pass over a database just after the deadline, and the record of what it sent
reads as made at the deadline. -/
theorem sentAt_cut_in_database :
    ∃ report db,
      Ran (Database.backend 0) Plan.sample justAfter sampleDatabase (sampleTrace justAfter)
          (.ok report) db ∧
        (Database.backend 0).SmoothAll sampleDatabase (sampleTrace justAfter) db ∧
        report.outcomes = [⟨"a", "overdue", .sent⟩] ∧
        (db.view 0).recordsOf "a" = .ok [⟨"a", "overdue", .epoch⟩] ∧ Instant.epoch ≠ justAfter := by
  have hyields : (program Plan.sample justAfter).Yields (sampleTrace justAfter) (.ok _) :=
    .step (.step (.step (.step (.step (.step (.step (.done _)))))))
  have hsmooth : (Database.backend 0).SmoothAll sampleDatabase (sampleTrace justAfter) _ :=
    .cons (.noted _) (.cons (.listed listOpen_sampleDatabase) (.cons (.read rfl)
      (.cons (.claimed rfl) (.cons (.delivered _) (.cons (.noted _) (.cons (.noted _) (.nil _)))))))
  have hdecode : (RecordRow.ofClaim "a" "overdue" justAfter).decode
      = .ok ⟨"a", "overdue", .epoch⟩ := by
    have hplain : justAfter.HasPlainYear := by decide +kernel
    have hkept : justAfter.kept = .epoch := by decide
    rw [← hkept]
    exact @RecordRow.decode_ofRecord ⟨"a", "overdue", justAfter⟩ hplain
  refine ⟨_, _, ⟨hyields, hsmooth.map id Backend.Smooth.serves⟩, hsmooth, rfl, ?_, by decide⟩
  show Tables.decodeRows RecordRow.decode
    (List.mergeSort [.ofClaim "a" "overdue" justAfter] RecordRow.listedBefore) = _
  rw [List.mergeSort_singleton, Tables.decodeRows, hdecode]
  rfl

end Pass

end AuditReminder
