/-
What a pass tells of its trace.

A pass ends early for one of three faults of the store, in listing, reading or claiming, or when a
delivery halts; the event that ended it is the only one of its trace that could (`Event.stop?`).  A
pass that is through has a report, and the report is an account of the trace: the audits it looked
at, the tiers it read for each of them, and an outcome for each tier that was due, in the order in
which they were settled (`Account`).

Everything here is read off the programs, whatever the answers were and whatever store gave them.
Main statement: `Pass.account_of_yields`.
-/
import AuditReminder.Proofs.Pass.Settlement
import AuditReminder.Proofs.Schedule

namespace AuditReminder

/-! ## Stops and reads -/

/-- Why a pass that meets the event ends. -/
def Event.stop? : Event → Option PassStop
  | ⟨.listOpen, .error fault⟩ => some (.aborted fault)
  | ⟨.sentTiers _, .error fault⟩ => some (.aborted fault)
  | ⟨.claim _ _ _, .error fault⟩ => some (.aborted fault)
  | ⟨.deliver _, .halted⟩ => some .halted
  | _ => none

/-- The tiers that were read, and for which audit. -/
def Event.read? : Event → Option (AuditId × NameSet)
  | ⟨.sentTiers id, .ok sent⟩ => some (id, sent)
  | _ => none

def stops (trace : List Event) : List PassStop := trace.filterMap Event.stop?

def reads (trace : List Event) : List (AuditId × NameSet) := trace.filterMap Event.read?

theorem stops_append (first rest : List Event) :
    stops (first ++ rest) = stops first ++ stops rest := List.filterMap_append

theorem reads_append (first rest : List Event) :
    reads (first ++ rest) = reads first ++ reads rest := List.filterMap_append

/-- A claim that was cut off was cut off by a stop. -/
theorem halted_mem_stops {now : Instant} {trace : List Event} {line : Settled}
    (h : line ∈ settled now trace) (hhow : line.how = .cutOff) : PassStop.halted ∈ stops trace := by
  obtain ⟨⟨ask, answer⟩, he, hline⟩ := List.mem_filterMap.mp h
  refine List.mem_filterMap.mpr ⟨_, he, ?_⟩
  cases ask with
  | deliver request =>
      cases answer with
      | halted => rfl
      | sent =>
          cases hline
          cases hhow
      | renderFailed | sendFailed => cases hline
  | claim id tier instant =>
      rcases answer with fault | claimed
      · cases hline
      · cases claimed <;> cases hline
        cases hhow
  | release id tier => cases answer <;> cases hline <;> cases hhow
  | listOpen | sentTiers | note => cases hline

/-- The stops that a result tells of. -/
def stopOf {α : Type} : Except PassStop α → List PassStop
  | .ok _ => []
  | .error stop => [stop]

/-- How the claim behind a status ended. -/
def Status.settlement : Status → Settlement
  | sent => .sent
  | skippedDuplicate => .lost
  | failedRolledBack _ => .givenBack
  | failedClaimRetained _ => .retained

/-- The line behind an outcome of a pass. -/
def Outcome.settled (now : Instant) (o : Outcome) : Settled := ⟨o.pair, o.status.settlement, now⟩

/-! ## One dispatch, and several -/

namespace Pass

open Program

variable {plan : Plan} {now : Instant} {audit : Audit} {daysLeft : Int} {tier : Tier}
  {trace : List Event}

theorem rollBack_yields {id : AuditId} {name reason : String} {status : Status}
    (h : (rollBack id name reason).Yields trace status) :
    stops trace = [] ∧ reads trace = [] ∧
      settled now trace = [⟨(id, name), status.settlement, now⟩] := by
  obtain ⟨answer, rest, rfl, hnext⟩ := yields_ask.mp h
  rcases answer with fault | done
  · obtain ⟨rest, rfl, hdone⟩ := yields_note.mp hnext
    obtain ⟨rfl, rfl⟩ := yields_done.mp hdone
    exact ⟨rfl, rfl, rfl⟩
  · obtain ⟨rest, rfl, hdone⟩ := yields_note.mp hnext
    obtain ⟨rfl, rfl⟩ := yields_done.mp hdone
    exact ⟨rfl, rfl, rfl⟩

theorem deliverClaimed_yields {request : Request} {result : Except PassStop Status}
    (h : (deliverClaimed request).Yields trace result) :
    stops trace = stopOf result ∧ reads trace = [] ∧
      ∀ status, result = .ok status →
        settled now trace = [⟨request.pair, status.settlement, now⟩] := by
  obtain ⟨delivery, rest, rfl, hnext⟩ := yields_ask.mp h
  -- a delivery that fails leaves all to the release
  have hfailed {reason : String}
      (hf : ((rollBack request.auditId request.tier reason).bind fun status =>
        .done (.ok status)).Yields rest result) :
      stops rest = stopOf result ∧ reads rest = [] ∧
        ∀ status, result = .ok status →
          settled now rest = [⟨request.pair, status.settlement, now⟩] := by
    obtain ⟨first, rest, status, rfl, hroll, hdone⟩ := yields_bind.mp hf
    obtain ⟨rfl, rfl⟩ := yields_done.mp hdone
    obtain ⟨hstops, hreads, hsettled⟩ := rollBack_yields hroll
    rw [List.append_nil]
    refine ⟨hstops, hreads, ?_⟩
    rintro status ⟨⟩
    exact hsettled
  cases delivery with
  | sent =>
      obtain ⟨rest, rfl, hdone⟩ := yields_note.mp hnext
      obtain ⟨rfl, rfl⟩ := yields_done.mp hdone
      refine ⟨rfl, rfl, ?_⟩
      rintro status ⟨⟩
      rfl
  | renderFailed fault => exact hfailed hnext
  | sendFailed fault => exact hfailed hnext
  | halted =>
      obtain ⟨rfl, rfl⟩ := yields_done.mp hnext
      exact ⟨rfl, rfl, fun status hs => by cases hs⟩

theorem dispatch_yields {result : Except PassStop Status}
    (h : (dispatch now audit daysLeft tier).Yields trace result) :
    stops trace = stopOf result ∧ reads trace = [] ∧
      ∀ status, result = .ok status →
        settled now trace = [⟨(audit.id, tier.name), status.settlement, now⟩] := by
  obtain ⟨answer, rest, rfl, hnext⟩ := yields_ask.mp h
  rcases answer with fault | claimed
  · obtain ⟨rest, rfl, hdone⟩ := yields_note.mp hnext
    obtain ⟨rfl, rfl⟩ := yields_done.mp hdone
    exact ⟨rfl, rfl, fun status hs => by cases hs⟩
  · cases claimed with
    | false =>
        obtain ⟨rest, rfl, hdone⟩ := yields_note.mp hnext
        obtain ⟨rfl, rfl⟩ := yields_done.mp hdone
        refine ⟨rfl, rfl, ?_⟩
        rintro status ⟨⟩
        rfl
    | true =>
        obtain ⟨hstops, hreads, hsettled⟩ := deliverClaimed_yields hnext
        exact ⟨hstops, hreads, hsettled⟩

/-- Due tiers are dispatched in order, each with one outcome. -/
theorem dispatchAll_yields {tiers : List Tier} {result : Except PassStop (List Outcome)}
    (h : (dispatchAll now audit daysLeft tiers).Yields trace result) :
    stops trace = stopOf result ∧ reads trace = [] ∧
      ∀ outcomes, result = .ok outcomes →
        outcomes.map Outcome.pair = tiers.map (fun tier => (audit.id, tier.name)) ∧
          settled now trace = outcomes.map (Outcome.settled now) := by
  induction tiers generalizing trace result with
  | nil =>
      obtain ⟨rfl, rfl⟩ := yields_done.mp h
      refine ⟨rfl, rfl, ?_⟩
      rintro outcomes ⟨⟩
      exact ⟨rfl, rfl⟩
  | cons tier rest ih =>
      obtain ⟨first, others, status, rfl, hfirst, hothers⟩ := yields_bind.mp h
      obtain ⟨hstops, hreads, hsettled⟩ := dispatch_yields hfirst
      rw [stops_append, reads_append, hstops, hreads]
      rcases status with stop | status
      · obtain ⟨rfl, rfl⟩ := yields_done.mp hothers
        exact ⟨rfl, rfl, fun outcomes ho => by cases ho⟩
      · obtain ⟨middle, last, outcomes, rfl, hmiddle, hlast⟩ := yields_bind.mp hothers
        obtain ⟨hstops', hreads', hsettled'⟩ := ih hmiddle
        rw [stops_append, reads_append, hstops', hreads']
        rcases outcomes with stop | outcomes
        · obtain ⟨rfl, rfl⟩ := yields_done.mp hlast
          exact ⟨rfl, rfl, fun outcomes ho => by cases ho⟩
        · obtain ⟨rfl, rfl⟩ := yields_done.mp hlast
          refine ⟨rfl, rfl, ?_⟩
          rintro outcomes ⟨⟩
          obtain ⟨hpairs, hlines⟩ := hsettled' _ rfl
          rw [List.append_nil, settled_append, hsettled _ rfl, hlines]
          refine ⟨?_, rfl⟩
          rw [List.map_cons, List.map_cons, hpairs]
          rfl

theorem handle_yields {result : Except PassStop (List Outcome)}
    (h : (handle plan now audit).Yields trace result) :
    stops trace = stopOf result ∧
      ∀ outcomes, result = .ok outcomes →
        ∃ sent, reads trace = [(audit.id, sent)] ∧
          outcomes.map Outcome.pair
            = (plan.schedule.due now audit.endsAt sent).map (fun tier => (audit.id, tier.name)) ∧
          settled now trace = outcomes.map (Outcome.settled now) := by
  obtain ⟨answer, rest, rfl, hnext⟩ := yields_ask.mp h
  rcases answer with fault | sent
  · obtain ⟨rest, rfl, hdone⟩ := yields_note.mp hnext
    obtain ⟨rfl, rfl⟩ := yields_done.mp hdone
    exact ⟨rfl, fun outcomes ho => by cases ho⟩
  · obtain ⟨hstops, hreads, hsettled⟩ := dispatchAll_yields hnext
    refine ⟨hstops, fun outcomes ho => ?_⟩
    obtain ⟨hpairs, hlines⟩ := hsettled outcomes ho
    exact ⟨sent, congrArg ((audit.id, sent) :: ·) hreads, hpairs, hlines⟩

end Pass

/-! ## The account of a pass -/

/-- An audit that a pass looked at, what was read for it, and how its due tiers ended. -/
structure Visit where
  audit : Audit
  sent : NameSet
  outcomes : List Outcome

/-- An open audit that is not long past. -/
def Plan.looksAt (plan : Plan) (now : Instant) (audit : Audit) : Bool :=
  audit.isOpen && !plan.isExpired now audit

/-- An open audit that is long past. -/
def Plan.leavesAside (plan : Plan) (now : Instant) (audit : Audit) : Bool :=
  audit.isOpen && plan.isExpired now audit

/-- What the trace of a pass over some audits and the report tell of each other, when the report was
`start` before and `final` after. -/
structure Account (plan : Plan) (now : Instant) (audits : List Audit) (trace : List Event)
    (start final : Report) (visits : List Visit) : Prop where
  visited : visits.map Visit.audit = audits.filter (plan.looksAt now)
  read : reads trace = visits.map fun visit => (visit.audit.id, visit.sent)
  due : ∀ visit ∈ visits, visit.outcomes.map Outcome.pair
    = (plan.schedule.due now visit.audit.endsAt visit.sent).map
        fun tier => (visit.audit.id, tier.name)
  lines : settled now trace = (visits.flatMap Visit.outcomes).map (Outcome.settled now)
  scanned : final.scanned = start.scanned + visits.length
  expired : final.expired = start.expired + audits.countP (plan.leavesAside now)
  outcomes : final.outcomes = start.outcomes ++ visits.flatMap Visit.outcomes

namespace Account

variable {plan : Plan} {now : Instant} {audit : Audit} {rest : List Audit}
  {first others : List Event} {start final : Report} {visits : List Visit}

theorem nil (report : Report) : Account plan now [] [] report report [] where
  visited := rfl
  read := rfl
  due _ hv := absurd hv List.not_mem_nil
  lines := rfl
  scanned := rfl
  expired := rfl
  outcomes := (List.append_nil _).symm

/-- A closed audit leaves the account as it is. -/
theorem closed (account : Account plan now rest others start final visits)
    (hopen : audit.isOpen = false) : Account plan now (audit :: rest) others start final visits :=
  { account with
    visited := by simpa [Plan.looksAt, hopen] using account.visited
    expired := by simpa [Plan.leavesAside, hopen] using account.expired }

/-- An audit that is long past is counted, and noted. -/
theorem leave {event : PassEvent}
    (account : Account plan now rest others { start with expired := start.expired + 1 } final
      visits)
    (hopen : audit.isOpen = true) (hexpired : plan.isExpired now audit = true) :
    Account plan now (audit :: rest) (⟨.note event, ()⟩ :: others) start final visits :=
  { account with
    visited := by simpa [Plan.looksAt, hopen, hexpired] using account.visited
    expired := by
      have hpast : plan.leavesAside now audit = true := by simp [Plan.leavesAside, hopen, hexpired]
      rw [account.expired, List.countP_cons_of_pos hpast]
      exact Nat.add_right_comm _ _ _ }

/-- A visit comes before those of the audits that follow. -/
theorem visit {sent : NameSet} {outcomes : List Outcome}
    (account : Account plan now rest others
      { start with scanned := start.scanned + 1, outcomes := start.outcomes ++ outcomes }
      final visits)
    (hopen : audit.isOpen = true) (hlooked : plan.isExpired now audit = false)
    (hread : reads first = [(audit.id, sent)])
    (hdue : outcomes.map Outcome.pair
      = (plan.schedule.due now audit.endsAt sent).map fun tier => (audit.id, tier.name))
    (hlines : settled now first = outcomes.map (Outcome.settled now)) :
    Account plan now (audit :: rest) (first ++ others) start final
      (⟨audit, sent, outcomes⟩ :: visits) where
  visited := by
    have hlooks : plan.looksAt now audit = true := by simp [Plan.looksAt, hopen, hlooked]
    rw [List.map_cons, account.visited, List.filter_cons_of_pos hlooks]
  read := by
    rw [reads_append, hread, account.read]
    rfl
  due := List.forall_mem_cons.mpr ⟨hdue, account.due⟩
  lines := by
    rw [settled_append, hlines, account.lines, List.flatMap_cons, List.map_append]
  scanned := by
    rw [account.scanned, List.length_cons]
    exact Nat.add_right_comm _ _ _
  expired := by
    have hnot : ¬ plan.leavesAside now audit = true := by simp [Plan.leavesAside, hlooked]
    rw [account.expired, List.countP_cons_of_neg hnot]
  outcomes := by
    rw [account.outcomes, List.flatMap_cons, List.append_assoc]

end Account

namespace Pass

open Program

variable {plan : Plan} {now : Instant} {trace : List Event}

/-- The scan of the audits stops where its trace does, or it is through and has an account. -/
theorem scan_yields {start : Report} {audits : List Audit} {result : Except PassStop Report}
    (h : (scan plan now start audits).Yields trace result) :
    stops trace = stopOf result ∧
      ∀ final, result = .ok final → ∃ visits, Account plan now audits trace start final visits := by
  induction audits generalizing trace start with
  | nil =>
      obtain ⟨rfl, rfl⟩ := yields_done.mp h
      refine ⟨rfl, ?_⟩
      rintro final ⟨⟩
      exact ⟨[], .nil start⟩
  | cons audit rest ih =>
      rw [scan] at h
      split at h
      · next hclosed =>
        have hopen : audit.isOpen = false := by simpa using hclosed
        obtain ⟨hstops, haccount⟩ := ih h
        refine ⟨hstops, fun final hf => ?_⟩
        obtain ⟨visits, account⟩ := haccount final hf
        exact ⟨visits, account.closed hopen⟩
      · next hopen =>
        replace hopen : audit.isOpen = true := by simpa using hopen
        split at h
        · next hexpired =>
          obtain ⟨tail, rfl, htail⟩ := yields_note.mp h
          obtain ⟨hstops, haccount⟩ := ih htail
          refine ⟨hstops, fun final hf => ?_⟩
          obtain ⟨visits, account⟩ := haccount final hf
          exact ⟨visits, account.leave hopen hexpired⟩
        · next hlooked =>
          obtain ⟨first, others, result', rfl, hfirst, hothers⟩ := yields_bind.mp h
          obtain ⟨hstops, hoks⟩ := handle_yields hfirst
          rw [stops_append, hstops]
          rcases result' with stop | outcomes
          · obtain ⟨rfl, rfl⟩ := yields_done.mp hothers
            exact ⟨rfl, fun final hf => by cases hf⟩
          · obtain ⟨hstops', haccount⟩ := ih hothers
            refine ⟨hstops', fun final hf => ?_⟩
            obtain ⟨sent, hread, hdue, hlines⟩ := hoks outcomes rfl
            obtain ⟨visits, account⟩ := haccount final hf
            exact ⟨_, account.visit hopen (by simpa using hlooked) hread hdue hlines⟩

/-- A pass stops where its trace does, or it is through and its report is an account of the audits
that were listed. -/
theorem account_of_yields {result : Except PassStop Report}
    (h : (program plan now).Yields trace result) :
    stops trace = stopOf result ∧
      ∀ report, result = .ok report → ∃ audits visits,
        ⟨.listOpen, .ok audits⟩ ∈ trace ∧
          Account plan now audits trace (.start now) report visits := by
  obtain ⟨rest, rfl, hlisting⟩ := yields_note.mp h
  obtain ⟨answer, rest, rfl, hnext⟩ := yields_ask.mp hlisting
  rcases answer with fault | audits
  · obtain ⟨rest, rfl, hdone⟩ := yields_note.mp hnext
    obtain ⟨rfl, rfl⟩ := yields_done.mp hdone
    exact ⟨rfl, fun report hr => by cases hr⟩
  · obtain ⟨first, last, result', rfl, hscan, hlast⟩ := yields_bind.mp hnext
    obtain ⟨hstops, haccount⟩ := scan_yields hscan
    rcases result' with stop | report
    · obtain ⟨rfl, rfl⟩ := yields_done.mp hlast
      rw [List.append_nil]
      exact ⟨hstops, fun report hr => by cases hr⟩
    · obtain ⟨rest, rfl, hdone⟩ := yields_note.mp hlast
      obtain ⟨rfl, rfl⟩ := yields_done.mp hdone
      -- what comes before and after the scan stops nothing, reads nothing and settles nothing
      refine ⟨?_, ?_⟩
      · show stops (first ++ _) = []
        rw [stops_append, hstops]
        rfl
      · rintro report ⟨⟩
        obtain ⟨visits, account⟩ := haccount _ rfl
        refine ⟨audits, visits, by simp, { account with read := ?_, lines := ?_ }⟩
        · show reads (first ++ _) = _
          rw [reads_append, account.read]
          exact List.append_nil _
        · show settled now (first ++ _) = _
          rw [settled_append, account.lines]
          exact List.append_nil _

/-- A pass that does not come through was stopped by one of its events. -/
theorem exists_stop {σ ω : Type} {backend : Backend σ} {render : RenderNotice}
    {send : SendMessage ω} {scene : Scene σ ω} {stop : PassStop}
    (h : (run backend render send plan now scene).1 = .error stop) :
    ∃ e ∈ (program plan now).trace (handler backend render send) scene, e.stop? = some stop := by
  have hran : Ran backend plan now scene.store
      ((program plan now).trace (handler backend render send) scene) _ _ := ran_run plan now scene
  obtain ⟨hstops, -⟩ := account_of_yields hran.yields
  refine List.mem_filterMap.mp ?_
  show stop ∈ stops _
  rw [hstops, h]
  exact List.mem_cons_self

end Pass

end AuditReminder
