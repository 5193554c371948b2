/-
Histories of passes.

Any number of passes over one store follow one another, at any instants, with any plans, and in each
of them operations fail as they will.  The lists of what they settle, one after the other, are one
walk of the ledger (`Backend.Keeps.settles_log`), so each pair is kept once at most and each row
that was added belongs to one line.  From there a row of the last state has exactly one `Origin`:

    initial     it was there at the start
    sent        a dispatch of one of the passes made it and sent the reminder
    retained    a dispatch of one of the passes made it and could neither send nor release

As long as passes return there is no other.  A pass that stops in a delivery, since the deadline
cannot be printed, does not return, and what it had in hand is a row of a kind of its own, `cutOff`.

And nothing is lost: after a pass in which nothing fails, all tiers that are reached have a row.

Main statement: `History.records_accounted`.
-/
import AuditReminder.Proofs.Pass.Smooth
import AuditReminder.Proofs.Store.Stores
import Mathlib.Data.List.Nodup

namespace AuditReminder

/-- One pass of a history. -/
structure PassRun where
  plan : Plan
  now : Instant
  trace : List Event
  result : Except PassStop Report

/-- Passes over one store, one after the other. -/
abbrev Backend.Passes {σ : Type} (b : Backend σ) : σ → List PassRun → σ → Prop :=
  Walk fun s run s' => Pass.Ran b run.plan run.now s run.trace run.result s'

namespace History

/-- What the passes settle, in order. -/
def log (history : List PassRun) : List Settled :=
  history.flatMap fun run => settled run.now run.trace

/-- How often the pair was sent. -/
def sends (history : List PassRun) (p : Pair) : Nat :=
  (history.flatMap PassRun.trace).countP (Event.isSendOf p)

/-- The pass dispatched the pair, and it ended so. -/
def Ended (run : PassRun) (p : Pair) (how : Settlement) : Prop :=
  ∃ block, Dispatched run.now p how block ∧ block <:+: run.trace

/-- If the pass came to a report, the report tells that the claim of the pair stays. -/
def TellsRetained (run : PassRun) (p : Pair) : Prop :=
  ∀ report, run.result = .ok report →
    ∃ reason, ⟨p.1, p.2, .failedClaimRetained reason⟩ ∈ report.outcomes

variable {σ : Type} {b : Backend σ} {l : Ledger σ} {s s' : σ} {history : List PassRun} {p : Pair}
  {run : PassRun}

theorem sends_eq_countP (history : List PassRun) (p : Pair) :
    sends history p = (log history).countP fun line => line.pair == p && line.how == .sent := by
  induction history with
  | nil => rfl
  | cons run rest ih =>
      rw [sends, log, List.flatMap_cons, List.flatMap_cons, List.countP_append, List.countP_append,
        countP_isSendOf run.now run.trace p]
      exact congrArg _ ih

theorem mem_log {line : Settled} :
    line ∈ log history ↔ ∃ run ∈ history, line ∈ settled run.now run.trace := List.mem_flatMap

theorem sends_pos_iff :
    0 < sends history p ↔ ∃ line ∈ log history, line.pair = p ∧ line.how = .sent := by
  rw [sends_eq_countP, List.countP_pos_iff]
  simp only [Bool.and_eq_true, beq_iff_eq]

theorem mem_kept_log {how : Settlement} (hrun : run ∈ history) (he : Ended run p how)
    (hkeeps : how.keeps = true) : ⟨p, how, run.now⟩ ∈ kept (log history) := by
  obtain ⟨block, hblock, hinfix⟩ := he
  exact mem_kept.mpr ⟨mem_log.mpr ⟨run, hrun, mem_settled_of_dispatched hblock hinfix⟩, hkeeps⟩

end History

/-! ## The ledger over a history -/

namespace Backend.Keeps

open History

variable {σ : Type} {b : Backend σ} {l : Ledger σ} {s s' : σ} {history : List PassRun}

/-- What the passes do to the rows is what they settle, from the first to the last. -/
theorem settles_log (hk : b.Keeps l) (h : b.Passes s history s') :
    Walk l.Settles (l.rows s) (log history) (l.rows s') := by
  induction h with
  | nil s => exact .nil _
  | cons hrun _ ih => exact (hk.settles hrun).append ih

end Backend.Keeps

namespace Ledger

open History

variable {σ : Type} {l : Ledger σ} {rows rows' : List l.Row} {history : List PassRun}
  {line : Settled} {p : Pair}

/-- No pair is sent twice. -/
theorem sends_le_one (h : Walk l.Settles rows (log history) rows') (p : Pair) :
    sends history p ≤ 1 := by
  have hcount := List.nodup_iff_count_le_one.mp (l.nodup_of_walk h) p
  rw [List.count, List.countP_map, kept, List.countP_filter] at hcount
  rw [sends_eq_countP]
  refine Nat.le_trans (List.countP_mono_left fun line _ hline => ?_) hcount
  simp only [Bool.and_eq_true, beq_iff_eq] at hline
  simp [hline.1, hline.2, Settlement.keeps]

/-- A pair that is kept in a line is sent if that line says so, and then once. -/
theorem sends_of_mem_kept (h : Walk l.Settles rows (log history) rows')
    (hl : line ∈ kept (log history)) :
    sends history line.pair = if line.how = .sent then 1 else 0 := by
  split
  · next hsent =>
    have hpos : 0 < sends history line.pair :=
      sends_pos_iff.mpr ⟨line, (mem_kept.mp hl).1, rfl, hsent⟩
    exact Nat.le_antisymm (sends_le_one h _) hpos
  · next hnot =>
    refine Nat.eq_zero_of_not_pos fun hpos => hnot ?_
    obtain ⟨other, hother, hpair, hsent⟩ := sends_pos_iff.mp hpos
    have hkept : other ∈ kept (log history) := mem_kept.mpr ⟨hother, by rw [hsent]; rfl⟩
    have hsame : other = line := List.inj_on_of_nodup_map (l.nodup_of_walk h) hkept hl hpair
    rw [← hsame, hsent]

/-- Two dispatches that left a row for one pair ended alike. -/
theorem how_unique (h : Walk l.Settles rows (log history) rows') {run run' : PassRun}
    {how how' : Settlement} (hrun : run ∈ history) (hrun' : run' ∈ history) (he : Ended run p how)
    (he' : Ended run' p how') (hkeeps : how.keeps = true) (hkeeps' : how'.keeps = true) :
    how = how' := by
  have hline := mem_kept_log hrun he hkeeps
  have hline' := mem_kept_log hrun' he' hkeeps'
  have hsame := List.inj_on_of_nodup_map (l.nodup_of_walk h) hline hline' rfl
  exact congrArg Settled.how hsame

end Ledger

/-! ## Rows are accounted for -/

namespace History

/-- Where a row comes from. -/
inductive Origin where
  | initial
  | sent
  | retained
  | cutOff

/-- How the dispatch ended that made the row. -/
def Origin.how? : Origin → Option Settlement
  | initial => none
  | sent => some .sent
  | retained => some .retained
  | cutOff => some .cutOff

theorem Origin.how?_inj {origin origin' : Origin} (h : origin.how? = origin'.how?) :
    origin = origin' := by
  cases origin <;> cases origin' <;> first | rfl | cases h

section Rows

variable {σ : Type} (l : Ledger σ)

/-- A dispatch of the pass made the row, and ended so. -/
def Made (run : PassRun) (row : l.Row) (how : Settlement) : Prop :=
  row = l.entry (l.pair row) run.now ∧ Ended run (l.pair row) how

/-- A row after a history that started with the rows `rows` comes from there.  Only a pass that did
not return cuts a dispatch off. -/
def ComesFrom (history : List PassRun) (rows : List l.Row) (row : l.Row) : Origin → Prop
  | .initial => row ∈ rows
  | .sent => (∃ run ∈ history, Made l run row .sent) ∧ sends history (l.pair row) = 1
  | .retained =>
      (∃ run ∈ history, Made l run row .retained ∧ TellsRetained run (l.pair row)) ∧
        sends history (l.pair row) = 0
  | .cutOff =>
      (∃ run ∈ history, Made l run row .cutOff ∧ run.result = .error .halted) ∧
        sends history (l.pair row) = 0

variable {l} {history : List PassRun} {rows rows' : List l.Row} {row : l.Row}
  {origin origin' : Origin}

/-- A row was there at the start, or it comes from a dispatch that left one. -/
theorem ended_of_comesFrom (h : ComesFrom l history rows row origin) :
    (origin.how? = none ∧ row ∈ rows) ∨
      ∃ how, origin.how? = some how ∧ how.keeps = true ∧
        ∃ run ∈ history, Ended run (l.pair row) how := by
  cases origin with
  | initial => exact Or.inl ⟨rfl, h⟩
  | sent =>
      obtain ⟨⟨run, hrun, -, hended⟩, -⟩ := h
      exact Or.inr ⟨_, rfl, rfl, run, hrun, hended⟩
  | retained =>
      obtain ⟨⟨run, hrun, ⟨-, hended⟩, -⟩, -⟩ := h
      exact Or.inr ⟨_, rfl, rfl, run, hrun, hended⟩
  | cutOff =>
      obtain ⟨⟨run, hrun, ⟨-, hended⟩, -⟩, -⟩ := h
      exact Or.inr ⟨_, rfl, rfl, run, hrun, hended⟩

/-- No row comes from two places. -/
theorem comesFrom_unique (h : Walk l.Settles rows (log history) rows')
    (ho : ComesFrom l history rows row origin) (ho' : ComesFrom l history rows row origin') :
    origin = origin' := by
  -- a pair with a row at the start is not kept by a dispatch
  have hfree {run : PassRun} {how : Settlement} (hrow : row ∈ rows) (hrun : run ∈ history)
      (he : Ended run (l.pair row) how) (hkeeps : how.keeps = true) : False :=
    l.not_has_of_mem_kept h (mem_kept_log hrun he hkeeps) ⟨row, hrow, rfl⟩
  refine Origin.how?_inj ?_
  rcases ended_of_comesFrom ho with ⟨hnone, hrow⟩ | ⟨how, hhow, hkeeps, run, hrun, he⟩
  · rcases ended_of_comesFrom ho' with ⟨hnone', -⟩ | ⟨how', -, hkeeps', run', hrun', he'⟩
    · rw [hnone, hnone']
    · exact (hfree hrow hrun' he' hkeeps').elim
  · rcases ended_of_comesFrom ho' with ⟨-, hrow'⟩ | ⟨how', hhow', hkeeps', run', hrun', he'⟩
    · exact (hfree hrow' hrun he hkeeps).elim
    · rw [hhow, hhow', l.how_unique h hrun hrun' he he' hkeeps hkeeps']

end Rows

variable {store : RecordStore} {s s' : store.State} {history : List PassRun} {run : PassRun}
  {line : Settled}

/-- A claim that stays after a failure is told of. -/
theorem tellsRetained_of_ran (h : Pass.Ran store.backend run.plan run.now s run.trace run.result s')
    (hl : line ∈ settled run.now run.trace) (hhow : line.how = .retained) :
    TellsRetained run line.pair := by
  intro report hresult
  obtain ⟨audits, visits, -, account⟩ := (Pass.account_of_yields h.yields).2 report hresult
  rw [account.lines] at hl
  obtain ⟨o, ho, rfl⟩ := List.mem_map.mp hl
  have hreport : o ∈ report.outcomes := by
    rw [account.outcomes]
    exact List.mem_append_right _ ho
  obtain ⟨id, tier, status⟩ := o
  cases status with
  | failedClaimRetained reason => exact ⟨reason, hreport⟩
  | sent | skippedDuplicate | failedRolledBack => cases hhow

/-- A pass that cut a dispatch off did not return. -/
theorem halted_of_ran (h : Pass.Ran store.backend run.plan run.now s run.trace run.result s')
    (hl : line ∈ settled run.now run.trace) (hhow : line.how = .cutOff) :
    run.result = .error .halted := by
  have hhalted := halted_mem_stops hl hhow
  rw [(Pass.account_of_yields h.yields).1] at hhalted
  rcases hresult : run.result with stop | report
  · rw [hresult] at hhalted
    rw [List.mem_singleton.mp hhalted]
  · rw [hresult] at hhalted
    cases hhalted

/-- A row that was added comes from the dispatch of the line that left it. -/
theorem comesFrom_of_mem_kept (h : store.backend.Passes s history s')
    (hl : line ∈ kept (log history)) :
    ∃ origin, ComesFrom store.ledger history (store.rows s) (store.ledger.entryOf line) origin := by
  have hsends := store.ledger.sends_of_mem_kept (store.keeps.settles_log h) hl
  obtain ⟨hmem, hkeeps⟩ := mem_kept.mp hl
  obtain ⟨run, hrun, hline⟩ := mem_log.mp hmem
  obtain ⟨-, -, s₁, s₂, -, -, hran, -⟩ := h.split_of_mem hrun
  have hpair : store.ledger.pair (store.ledger.entryOf line) = line.pair :=
    store.ledger.pair_entry _ _
  have hmade : Made store.ledger run (store.ledger.entryOf line) line.how := by
    constructor
    · rw [hpair, Ledger.entryOf, instant_of_mem_settled hline]
    · rw [hpair]
      exact store.keeps.dispatched hran hline
  rw [← hpair] at hsends
  cases hhow : line.how with
  | sent =>
      rw [hhow] at hmade hsends
      exact ⟨.sent, ⟨run, hrun, hmade⟩, hsends⟩
  | retained =>
      rw [hhow] at hmade hsends
      have htells := tellsRetained_of_ran hran hline hhow
      exact ⟨.retained, ⟨run, hrun, hmade, hpair ▸ htells⟩, hsends⟩
  | cutOff =>
      rw [hhow] at hmade hsends
      exact ⟨.cutOff, ⟨run, hrun, hmade, halted_of_ran hran hline hhow⟩, hsends⟩
  | lost | givenBack =>
      rw [hhow] at hkeeps
      cases hkeeps

/-- No pass of a history changes which audits are listed. -/
theorem listOpen_of_passes (h : store.backend.Passes s history s') :
    store.backend.listOpen s' = store.backend.listOpen s :=
  h.invariant (P := fun t => store.backend.listOpen t = store.backend.listOpen s)
    (fun _ hran ht => (store.shows.listOpen_servesAll hran.served).trans ht) rfl

/-- Whatever fails in the passes: each row of the last state comes from exactly one place.  If
nothing fails in the last pass, each tier that is reached for an open audit that is not long past
has a row, and unless the tier had one at the start, this row comes from a dispatch. -/
theorem records_accounted (h : store.backend.Passes s history s') :
    (∀ row ∈ store.rows s', ∃! origin,
      ComesFrom store.ledger history (store.rows s) row origin) ∧
    ∀ earlier last tiers middle, history = earlier ++ [last] →
      store.backend.Passes s earlier middle →
      Pass.Ran store.backend last.plan last.now middle last.trace last.result s' →
      store.backend.SmoothAll middle last.trace s' →
      Schedule.ofTiers tiers = .ok last.plan.schedule →
      ∃ audits, store.backend.listOpen s = .ok audits ∧
        ∀ audit ∈ audits, audit.isOpen = true → last.plan.isExpired last.now audit = false →
          ∀ tier ∈ last.plan.schedule.tiers, daysLeft last.now audit.endsAt ≤ tier.offsetDays →
            store.ledger.Has (store.rows s') (audit.id, tier.name) ∧
              (¬ store.ledger.Has (store.rows s) (audit.id, tier.name) →
                ∃ row ∈ store.rows s', store.ledger.pair row = (audit.id, tier.name) ∧
                  ∃ origin, origin ≠ .initial ∧
                    ComesFrom store.ledger history (store.rows s) row origin) := by
  have hwalk := store.keeps.settles_log h
  have horigin (row : store.ledger.Row) (hrow : row ∈ store.rows s') :
      ∃ origin, ComesFrom store.ledger history (store.rows s) row origin := by
    rw [RecordStore.rows, store.ledger.rows_of_walk hwalk] at hrow
    rcases List.mem_append.mp hrow with hrow | hrow
    · exact ⟨.initial, hrow⟩
    · obtain ⟨line, hline, rfl⟩ := List.mem_map.mp hrow
      exact comesFrom_of_mem_kept h hline
  constructor
  · intro row hrow
    obtain ⟨origin, hcomes⟩ := horigin row hrow
    exact ⟨origin, hcomes, fun other hother => comesFrom_unique hwalk hother hcomes⟩
  · intro earlier last tiers middle hhistory hearlier hlast hsmooth hplan
    obtain ⟨audits, visits, report, hlisted, -, hvisited, hvisits, -, -⟩ :=
      Pass.smooth_pass store.keeps store.shows (Schedule.inOrder_ofTiers hplan).2 hlast hsmooth
    refine ⟨audits, (listOpen_of_passes hearlier).symm.trans hlisted, ?_⟩
    intro audit haudit hopen hlooked tier htier hreached
    have hlooks : audit ∈ visits.map Prod.fst := by
      rw [hvisited]
      exact List.mem_filter.mpr ⟨haudit, by simp [Plan.looksAt, hopen, hlooked]⟩
    obtain ⟨visit, hvisit, rfl⟩ := List.mem_map.mp hlooks
    have hhas := store.ledger.recorded_of_visits hvisits hvisit htier hreached
    refine ⟨hhas, fun hfree => ?_⟩
    obtain ⟨row, hrow, hpair⟩ := hhas
    obtain ⟨origin, hcomes⟩ := horigin row hrow
    refine ⟨row, hrow, hpair, origin, ?_, hcomes⟩
    rintro rfl
    exact hfree ⟨row, hcomes, hpair⟩

/-- A delivery fails in the first of two passes and its claim is released; the second sends. -/
theorem accounted_after_retry :
    ∃ first second s', Memory.backend.Passes .sample [first, second] s' ∧
      Ended first ("a", "overdue") .givenBack ∧ second.trace = Pass.sampleTrace .epoch ∧
      (∀ row ∈ s'.records, ComesFrom Memory.ledger [first, second] [] row .sent) ∧
      Memory.ledger.Has s'.records ("a", "overdue") := by
  have hfirst : Pass.Ran RecordStore.memory.backend .sample .epoch Memory.sample
      [⟨.note _, ()⟩, ⟨.listOpen, .ok [.sample]⟩, ⟨.sentTiers "a", .ok .empty⟩,
        ⟨.claim "a" "overdue" .epoch, .ok true⟩, ⟨.deliver _, .sendFailed .noRecipients⟩,
        ⟨.release "a" "overdue", .ok ()⟩, ⟨.note _, ()⟩, ⟨.note _, ()⟩] (.ok _) Memory.sample :=
    ⟨.step (.step (.step (.step (.step (.step (.step (.step (.done _)))))))),
      .cons (.noted _) (.cons (.listed _) (.cons (.read _ _) (.cons (.claimed _ _ _)
        (.cons (.delivered _ _) (.cons (.released _ _) (.cons (.noted _)
          (.cons (.noted _) (.nil _))))))))⟩
  have hsmooth := Pass.smoothAll_sampleTrace .epoch
  have hsecond : Pass.Ran RecordStore.memory.backend .sample .epoch Memory.sample
      (Pass.sampleTrace .epoch) (.ok _) _ :=
    ⟨.step (.step (.step (.step (.step (.step (.step (.done _))))))),
      hsmooth.map id Backend.Smooth.serves⟩
  have hpasses : RecordStore.memory.backend.Passes Memory.sample
      [⟨.sample, .epoch, _, _⟩, ⟨.sample, .epoch, Pass.sampleTrace .epoch, _⟩] _ :=
    .cons hfirst (.cons hsecond (.nil _))
  have hplan : Schedule.ofTiers Plan.sample.schedule.tiers = .ok Plan.sample.schedule := by rfl
  obtain ⟨hrows, hlast⟩ := records_accounted hpasses
  obtain ⟨audits, hlisted, hrecorded⟩ :=
    hlast [_] _ _ _ rfl (.cons hfirst (.nil _)) hsecond hsmooth hplan
  obtain rfl : [Audit.sample] = audits := by
    have hsame := Memory.listOpen_sample.symm.trans hlisted
    cases hsame
    rfl
  have hhas := hrecorded .sample List.mem_cons_self rfl rfl ⟨"overdue", 0, .reminder⟩
    List.mem_cons_self (by decide)
  have hfails : Delivery.Fails (.sendFailed .noRecipients) := trivial
  refine ⟨_, _, _, hpasses, ⟨_, .givenBack _ rfl hfails, [_, _, _], [_, _], rfl⟩, rfl, ?_, hhas.1⟩
  intro row hrow
  obtain ⟨origin, hcomes, -⟩ := hrows row hrow
  obtain rfl := List.mem_singleton.mp hrow
  cases origin with
  | sent => exact hcomes
  | initial => cases hcomes
  | retained | cutOff =>
      obtain ⟨-, hnever⟩ := hcomes
      cases hnever

end History

end AuditReminder
