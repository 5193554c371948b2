/-
Passes in which nothing fails.

When the store answers from what it holds and every delivery is sent, a pass is a function of the
rows: it is through, and for each audit it looks at it sends the tiers that are reached and have no
row for that audit, in the order of the schedule, and adds their rows.  `Ledger.Visits` is the step
for one audit, and a pass walks through its audits in the order in which they were listed.  If no
tier was without a row, the store is not touched at all.

Main statement: `Pass.smooth_pass`.
-/
import AuditReminder.Proofs.Pass.Account

namespace AuditReminder

/-! ## What a visit does -/

namespace Ledger

variable {σ : Type} (l : Ledger σ)

instance (rows : List l.Row) (p : Pair) : Decidable (l.Has rows p) :=
  inferInstanceAs (Decidable (∃ row ∈ rows, l.pair row = p))

/-- The tiers that are reached and have no row for the audit. -/
def dueOn (schedule : Schedule) (now : Instant) (audit : Audit) (rows : List l.Row) : List Tier :=
  schedule.tiers.filter fun tier =>
    tier.isReached (daysLeft now audit.endsAt) && !decide (l.Has rows (audit.id, tier.name))

/-- A visit as a step of the ledger: the tiers that are due are sent, and get their rows. -/
structure Visits (plan : Plan) (now : Instant) (rows : List l.Row) (visit : Audit × List Tier)
    (rows' : List l.Row) : Prop where
  due : visit.2 = l.dueOn plan.schedule now visit.1 rows
  added : rows' = rows ++ visit.2.map fun tier => l.entry (visit.1.id, tier.name) now

variable {l}

theorem mem_dueOn {schedule : Schedule} {now : Instant} {audit : Audit} {rows : List l.Row}
    {tier : Tier} :
    tier ∈ l.dueOn schedule now audit rows ↔
      tier ∈ schedule.tiers ∧ daysLeft now audit.endsAt ≤ tier.offsetDays ∧
        ¬ l.Has rows (audit.id, tier.name) := by
  simp [dueOn, Tier.isReached]

section Walks

variable {plan : Plan} {now : Instant} {rows rows' : List l.Row} {visits : List (Audit × List Tier)}

theorem has_of_visits {p : Pair} (h : Walk (l.Visits plan now) rows visits rows')
    (hp : l.Has rows p) : l.Has rows' p := by
  refine h.invariant (P := fun rows => l.Has rows p) (fun _ hvisit hp => ?_) hp
  rw [hvisit.added, l.has_append]
  exact Or.inl hp

/-- After the visits every tier that is reached has a row. -/
theorem recorded_of_visits (h : Walk (l.Visits plan now) rows visits rows')
    {visit : Audit × List Tier} (hv : visit ∈ visits) {tier : Tier}
    (ht : tier ∈ plan.schedule.tiers)
    (hreached : daysLeft now visit.1.endsAt ≤ tier.offsetDays) :
    l.Has rows' (visit.1.id, tier.name) := by
  obtain ⟨before, after, middle, next, rfl, -, hvisit, hafter⟩ := h.split_of_mem hv
  refine has_of_visits hafter ?_
  rw [hvisit.added, l.has_append]
  by_cases hhas : l.Has middle (visit.1.id, tier.name)
  · exact Or.inl hhas
  · have hdue : tier ∈ visit.2 := by
      rw [hvisit.due]
      exact mem_dueOn.mpr ⟨ht, hreached, hhas⟩
    exact Or.inr ⟨_, List.mem_map_of_mem hdue, l.pair_entry _ _⟩

end Walks

end Ledger

/-- The outcomes of a visit. -/
def sentOutcomes (visit : Audit × List Tier) : List Outcome :=
  visit.2.map fun tier => ⟨visit.1.id, tier.name, .sent⟩

theorem Backend.Smooth.stop?_eq_none {σ : Type} {b : Backend σ} {s s' : σ} {e : Event}
    (h : b.Smooth s e s') : e.stop? = none := by
  cases h <;> rfl

theorem stops_of_smooth {σ : Type} {b : Backend σ} {s s' : σ} {trace : List Event}
    (h : b.SmoothAll s trace s') : stops trace = [] := by
  induction h with
  | nil => rfl
  | @cons s _ _ e trace first _ ih =>
      show List.filterMap Event.stop? (e :: trace) = []
      rw [List.filterMap_cons_none first.stop?_eq_none]
      exact ih

/-! ## Dispatches -/

namespace Pass

open Program

variable {σ : Type} {b : Backend σ} {l : Ledger σ} {s s' : σ} {plan : Plan} {now : Instant}
  {audit : Audit} {daysLeft : Int} {trace : List Event}

theorem deliverClaimed_smooth {request : Request} {result : Except PassStop Status}
    (hy : (deliverClaimed request).Yields trace result) (hs : b.SmoothAll s trace s') :
    result = .ok .sent ∧ s' = s := by
  obtain ⟨delivery, rest, rfl, hnext⟩ := yields_ask.mp hy
  obtain ⟨s₁, hfirst, hrest⟩ := Walk.cons_iff.mp hs
  obtain ⟨rfl, rfl⟩ := hfirst.of_deliver
  obtain ⟨rest, rfl, hdone⟩ := yields_note.mp hnext
  obtain ⟨rfl, rfl⟩ := yields_done.mp hdone
  obtain ⟨s₂, hsecond, hnil⟩ := Walk.cons_iff.mp hrest
  obtain rfl := hsecond.of_note
  obtain rfl := Walk.nil_iff.mp hnil
  exact ⟨rfl, rfl⟩

/-- A tier without a row is sent, and its row is added. -/
theorem dispatch_smooth (hk : b.Keeps l) {tier : Tier} {result : Except PassStop Status}
    (hy : (dispatch now audit daysLeft tier).Yields trace result) (hs : b.SmoothAll s trace s')
    (hfree : ¬ l.Has (l.rows s) (audit.id, tier.name)) :
    result = .ok .sent ∧ l.rows s' = l.rows s ++ [l.entry (audit.id, tier.name) now] := by
  obtain ⟨answer, rest, rfl, hnext⟩ := yields_ask.mp hy
  obtain ⟨s₁, hfirst, hrest⟩ := Walk.cons_iff.mp hs
  obtain ⟨claimed, rfl, hclaim⟩ := hfirst.of_claim
  cases claimed with
  | false => exact (hfree (hk.claim_false hclaim).1).elim
  | true =>
      obtain ⟨rfl, rfl⟩ := deliverClaimed_smooth hnext hrest
      exact ⟨rfl, (hk.claim_true hclaim).2⟩

/-- Tiers of different names without rows are all sent, in order. -/
theorem dispatchAll_smooth (hk : b.Keeps l) {tiers : List Tier}
    {result : Except PassStop (List Outcome)}
    (hy : (dispatchAll now audit daysLeft tiers).Yields trace result) (hs : b.SmoothAll s trace s')
    (hnames : (tiers.map Tier.name).Nodup)
    (hfree : ∀ tier ∈ tiers, ¬ l.Has (l.rows s) (audit.id, tier.name)) :
    result = .ok (sentOutcomes (audit, tiers)) ∧
      l.rows s' = l.rows s ++ tiers.map (fun tier => l.entry (audit.id, tier.name) now) ∧
      (tiers = [] → s' = s) := by
  induction tiers generalizing trace result s s' with
  | nil =>
      obtain ⟨rfl, rfl⟩ := yields_done.mp hy
      obtain rfl := Walk.nil_iff.mp hs
      exact ⟨rfl, (List.append_nil _).symm, fun _ => rfl⟩
  | cons tier rest ih =>
      rw [List.map_cons, List.nodup_cons] at hnames
      obtain ⟨first, others, status, rfl, hfirst, hothers⟩ := yields_bind.mp hy
      obtain ⟨s₁, hs₁, hrest⟩ := Walk.append_iff.mp hs
      obtain ⟨rfl, hrows⟩ := dispatch_smooth hk hfirst hs₁ (hfree tier List.mem_cons_self)
      obtain ⟨middle, last, outcomes, rfl, hmiddle, hlast⟩ := yields_bind.mp hothers
      obtain ⟨s₂, hs₂, hs₃⟩ := Walk.append_iff.mp hrest
      have hfree' : ∀ other ∈ rest, ¬ l.Has (l.rows s₁) (audit.id, other.name) := by
        intro other ho hhas
        rw [hrows, l.has_append_entry] at hhas
        rcases hhas with hhas | hpair
        · exact hfree other (List.mem_cons_of_mem _ ho) hhas
        · exact hnames.1 ((Prod.mk.inj hpair).2 ▸ List.mem_map_of_mem ho)
      obtain ⟨rfl, hrows', -⟩ := ih hmiddle hs₂ hnames.2 hfree'
      obtain ⟨rfl, rfl⟩ := yields_done.mp hlast
      obtain rfl := Walk.nil_iff.mp hs₃
      refine ⟨rfl, ?_, fun h => by cases h⟩
      rw [hrows', hrows, List.append_assoc]
      rfl

/-- An audit is visited. -/
theorem handle_smooth (hk : b.Keeps l) (hsh : b.Shows l) (hplan : Tier.InOrder plan.schedule.tiers)
    {result : Except PassStop (List Outcome)}
    (hy : (handle plan now audit).Yields trace result) (hs : b.SmoothAll s trace s') :
    ∃ tiers, result = .ok (sentOutcomes (audit, tiers)) ∧
      l.Visits plan now (l.rows s) (audit, tiers) (l.rows s') ∧ (tiers = [] → s' = s) := by
  obtain ⟨answer, rest, rfl, hnext⟩ := yields_ask.mp hy
  obtain ⟨s₁, hfirst, hrest⟩ := Walk.cons_iff.mp hs
  obtain ⟨sent, rfl, hread, rfl⟩ := hfirst.of_sentTiers
  have hdue : plan.schedule.due now audit.endsAt sent
      = l.dueOn plan.schedule now audit (l.rows s₁) := by
    refine List.filter_congr fun tier _ => ?_
    rw [decide_eq_decide.mpr (hsh.sentTiers hread tier.name)]
  have hnames := (plan.schedule.inOrder_due hplan now audit.endsAt sent).names
  have hall : (dispatchAll now audit _ (plan.schedule.due now audit.endsAt sent)).Yields rest
      result := hnext
  rw [hdue] at hnames hall
  obtain ⟨rfl, hrows, hnone⟩ := dispatchAll_smooth hk hall hrest hnames
    fun tier ht => (l.mem_dueOn.mp ht).2.2
  exact ⟨_, rfl, ⟨rfl, hrows⟩, hnone⟩

/-! ## A pass -/

theorem scan_smooth (hk : b.Keeps l) (hsh : b.Shows l) (hplan : Tier.InOrder plan.schedule.tiers)
    {audits : List Audit} {start final : Report}
    (hy : (scan plan now start audits).Yields trace (.ok final)) (hs : b.SmoothAll s trace s') :
    ∃ visits, visits.map Prod.fst = audits.filter (plan.looksAt now) ∧
      Walk (l.Visits plan now) (l.rows s) visits (l.rows s') ∧
      final.outcomes = start.outcomes ++ visits.flatMap sentOutcomes ∧
      ((∀ visit ∈ visits, visit.2 = []) → s' = s) := by
  induction audits generalizing trace start s with
  | nil =>
      obtain ⟨rfl, hfinal⟩ := yields_done.mp hy
      cases hfinal
      obtain rfl := Walk.nil_iff.mp hs
      exact ⟨[], rfl, .nil _, (List.append_nil _).symm, fun _ => rfl⟩
  | cons audit rest ih =>
      rw [scan] at hy
      split at hy
      · next hclosed =>
        have hopen : audit.isOpen = false := by simpa using hclosed
        have hnot : ¬ plan.looksAt now audit = true := by simp [Plan.looksAt, hopen]
        rw [List.filter_cons_of_neg hnot]
        exact ih hy hs
      · next hopen =>
        replace hopen : audit.isOpen = true := by simpa using hopen
        split at hy
        · next hexpired =>
          have hnot : ¬ plan.looksAt now audit = true := by simp [Plan.looksAt, hopen, hexpired]
          rw [List.filter_cons_of_neg hnot]
          obtain ⟨tail, rfl, htail⟩ := yields_note.mp hy
          obtain ⟨s₁, hfirst, hrest⟩ := Walk.cons_iff.mp hs
          obtain rfl := hfirst.of_note
          -- the count of audits left aside does not show in the outcomes
          have hscan := ih htail hrest
          exact hscan
        · next hlooked =>
          have hlooks : plan.looksAt now audit = true := by simp [Plan.looksAt, hopen, hlooked]
          rw [List.filter_cons_of_pos hlooks]
          obtain ⟨first, others, result, rfl, hfirst, hothers⟩ := yields_bind.mp hy
          obtain ⟨s₁, hs₁, hs₂⟩ := Walk.append_iff.mp hs
          obtain ⟨tiers, rfl, hvisit, hnone⟩ := handle_smooth hk hsh hplan hfirst hs₁
          obtain ⟨visits, hvisited, hwalk, houtcomes, hsame⟩ := ih hothers hs₂
          refine ⟨(audit, tiers) :: visits, ?_, .cons hvisit hwalk, ?_, ?_⟩
          · rw [List.map_cons, hvisited]
          · rw [houtcomes, List.append_assoc, List.flatMap_cons]
          · intro hall
            rw [hsame fun visit hv => hall visit (List.mem_cons_of_mem _ hv),
              hnone (hall _ List.mem_cons_self)]

/-- A pass in which nothing fails is through; it visits the audits that it looks at, sends what is
due and tells so, and if nothing was due it leaves the store as it was. -/
theorem smooth_pass (hk : b.Keeps l) (hsh : b.Shows l) (hplan : Tier.InOrder plan.schedule.tiers)
    {result : Except PassStop Report} (hr : Ran b plan now s trace result s')
    (hs : b.SmoothAll s trace s') :
    ∃ audits visits report, b.listOpen s = .ok audits ∧ result = .ok report ∧
      visits.map Prod.fst = audits.filter (plan.looksAt now) ∧
      Walk (l.Visits plan now) (l.rows s) visits (l.rows s') ∧
      report.outcomes = visits.flatMap sentOutcomes ∧
      ((∀ visit ∈ visits, visit.2 = []) → s' = s) := by
  have hthrough : stopOf result = [] := by
    rw [← (account_of_yields hr.yields).1]
    exact stops_of_smooth hs
  rcases result with stop | report
  · cases hthrough
  · obtain ⟨rest, htrace, hlisting⟩ := yields_note.mp hr.yields
    subst htrace
    obtain ⟨s₁, hstarted, hs₁⟩ := Walk.cons_iff.mp hs
    obtain rfl := hstarted.of_note
    obtain ⟨answer, rest, rfl, hnext⟩ := yields_ask.mp hlisting
    obtain ⟨s₂, hlisted, hs₂⟩ := Walk.cons_iff.mp hs₁
    obtain ⟨hanswer, rfl⟩ := hlisted.of_listOpen
    rcases answer with fault | audits
    · obtain ⟨rest, rfl, hdone⟩ := yields_note.mp hnext
      obtain ⟨-, hresult⟩ := yields_done.mp hdone
      cases hresult
    · obtain ⟨first, last, result, rfl, hscan, hlast⟩ := yields_bind.mp hnext
      obtain ⟨s₃, hs₃, hs₄⟩ := Walk.append_iff.mp hs₂
      rcases result with stop | final
      · obtain ⟨-, hresult⟩ := yields_done.mp hlast
        cases hresult
      · obtain ⟨rest, rfl, hdone⟩ := yields_note.mp hlast
        obtain ⟨rfl, hresult⟩ := yields_done.mp hdone
        cases hresult
        obtain ⟨s₄, hfinished, hnil⟩ := Walk.cons_iff.mp hs₄
        obtain rfl := hfinished.of_note
        obtain rfl := Walk.nil_iff.mp hnil
        obtain ⟨visits, hvisited, hwalk, houtcomes, hsame⟩ := scan_smooth hk hsh hplan hscan hs₃
        exact ⟨audits, visits, report, hanswer.symm, rfl, hvisited, hwalk, houtcomes, hsame⟩

end Pass

end AuditReminder
