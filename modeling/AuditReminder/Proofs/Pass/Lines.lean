/-
The lines of a pass.

What a pass adds to its sink can be read off its trace.  Of each delivery the end tells whether its
line is there:

    sent               line written
    flush failed       line written
    all other ends     nothing

so the lines are those of the requests in `lines trace`, in this order, each with the message that
the renderer made of the request (`written_run`).  As long as no flush fails they are the requests
that were sent, and the report of the pass tells which these are (`sent_eq_lines`).

Main statement: `Outbox.keeps_log`, on what stands on a sink whatever fails, and on what a pass that
returns adds to it.
-/
import AuditReminder.Proofs.Outbox
import AuditReminder.Proofs.Pass.Account
import AuditReminder.Proofs.Pass.Requests
import AuditReminder.Proofs.Store.Stores
import Mathlib.Data.List.Forall2

namespace AuditReminder

/-- The message is what the renderer makes of the request, for its owners. -/
def Message.IsOf (render : RenderNotice) (request : Request) (m : Message) : Prop :=
  ∃ notice, render request = .ok notice ∧ m = ⟨request.owners, notice.subject, notice.body⟩

namespace Event

/-- A delivery of the request whose flush failed. -/
def unflushed? : Event → Option Request
  | ⟨.deliver request, .sendFailed fault⟩ => if fault = Sink.unflushed then some request else none
  | _ => none

/-- The request whose line the event left on the sink. -/
def line? : Event → Option Request
  | ⟨.deliver request, .sent⟩ => some request
  | e => e.unflushed?

end Event

/-- The requests whose lines a trace left on the sink, in order. -/
def lines (trace : List Event) : List Request := trace.filterMap Event.line?

theorem lines_append (first rest : List Event) :
    lines (first ++ rest) = lines first ++ lines rest := List.filterMap_append

/-! ## Lines of a run -/

section Runs

variable {α σ : Type} (backend : Backend σ) (render : RenderNotice) (limits : Nat → Limits)

/-- A delivery adds the line that its end tells of. -/
theorem written_deliver (request : Request) (out : Outbox) :
    ∃ messages,
      List.Forall₂ (Message.IsOf render) (lines [⟨.deliver request,
        ((Pass.deliver (m := StateM Outbox) render (Outbox.send limits) request).run out).1⟩])
        messages ∧
      ((Pass.deliver (m := StateM Outbox) render (Outbox.send limits)
          request).run out).2.sink.written
        = out.sink.written ++ String.join (messages.map Message.line) := by
  rw [Pass.deliver_run]
  rcases hr : render request with stop | notice
  · cases stop <;> exact ⟨[], .nil, String.append_empty.symm⟩
  · have hm : Message.IsOf render request ⟨request.owners, notice.subject, notice.body⟩ :=
      ⟨notice, hr, rfl⟩
    have hw := Outbox.written_send limits ⟨request.owners, notice.subject, notice.body⟩ out
    dsimp only
    generalize Outbox.send limits ⟨request.owners, notice.subject, notice.body⟩ out = ended at hw ⊢
    obtain ⟨fault | ⟨⟩, after⟩ := ended
    · by_cases hf : fault = Sink.unflushed
      · subst hf
        exact ⟨[_], .cons hm .nil, by simpa [Sink.leavesLine] using hw⟩
      · refine ⟨[], ?_, by simpa [Sink.leavesLine, hf] using hw⟩
        simp [lines, Event.line?, Event.unflushed?, hf]
    · exact ⟨[_], .cons hm .nil, by simpa [Sink.leavesLine] using hw⟩

/-- One operation adds the lines of its event. -/
theorem written_handler (ask : Ask) (scene : Scene σ Outbox) :
    ∃ messages,
      List.Forall₂ (Message.IsOf render)
        (lines [⟨ask, (Pass.handler backend render (Outbox.send limits) ask scene).1⟩]) messages ∧
      (Pass.handler backend render (Outbox.send limits) ask scene).2.out.sink.written
        = scene.out.sink.written ++ String.join (messages.map Message.line) := by
  cases ask with
  | deliver request => exact written_deliver render limits request scene.out
  | listOpen | sentTiers | claim | release | note => exact ⟨[], .nil, String.append_empty.symm⟩

/-- A run adds the lines of its trace. -/
theorem written_run (p : Program α) (scene : Scene σ Outbox) :
    ∃ messages,
      List.Forall₂ (Message.IsOf render)
        (lines (p.trace (Pass.handler backend render (Outbox.send limits)) scene)) messages ∧
      (p.run (Pass.handler backend render (Outbox.send limits)) scene).2.out.sink.written
        = scene.out.sink.written ++ String.join (messages.map Message.line) := by
  induction p generalizing scene with
  | done v => exact ⟨[], .nil, String.append_empty.symm⟩
  | step ask next ih =>
      obtain ⟨first, hfirst, hadded⟩ := written_handler backend render limits ask scene
      obtain ⟨rest, hrest, hadded'⟩ := ih _ (Pass.handler backend render _ ask scene).2
      refine ⟨first ++ rest, ?_, ?_⟩
      · rw [Program.trace, ← List.singleton_append, lines_append]
        exact List.rel_append hfirst hrest
      · rw [Program.run_step, hadded', hadded, List.map_append, String.join_append,
          String.append_assoc]

variable {limits} in
/-- Without a limit no flush fails in a run. -/
theorem unflushed_of_limits (hflush : ∀ n, (limits n).flushes = none) (p : Program α)
    (scene : Scene σ Outbox) :
    ∀ e ∈ p.trace (Pass.handler backend render (Outbox.send limits)) scene,
      e.unflushed? = none := by
  induction p generalizing scene with
  | done v =>
      intro e he
      cases he
  | step ask next ih =>
      refine List.forall_mem_cons.mpr ⟨?_, ih _ _⟩
      cases ask with
      | listOpen | sentTiers | claim | release | note => rfl
      | deliver request =>
          simp only [Pass.handler, Pass.deliver_run]
          rcases render request with stop | notice
          · cases stop <;> rfl
          · have hne := (scene.out.sink.under (limits scene.out.handed)).send_ne_unflushed
              ⟨request.owners, notice.subject, notice.body⟩ (hflush _)
            change (Outbox.send limits _ scene.out).1 ≠ _ at hne
            dsimp only
            generalize Outbox.send limits ⟨request.owners, notice.subject, notice.body⟩ scene.out
              = ended at hne ⊢
            obtain ⟨fault | ⟨⟩, after⟩ := ended
            · have hf : fault ≠ Sink.unflushed := fun hf => hne (congrArg Except.error hf)
              simp [Event.unflushed?, hf]
            · rfl

end Runs

/-! ## Lines of a report -/

variable {now : Instant} {trace : List Event}

/-- As long as no flush fails, the lines are those of the requests that were sent. -/
theorem pairs_of_lines (now : Instant) (h : ∀ e ∈ trace, e.unflushed? = none) :
    (lines trace).map Request.pair
      = ((settled now trace).filter fun line => line.how == .sent).map Settled.pair := by
  rw [lines, settled, List.filter_filterMap, List.map_filterMap, List.map_filterMap]
  refine List.filterMap_congr fun e he => ?_
  have hnone := h e he
  obtain ⟨ask, answer⟩ := e
  cases ask with
  | deliver request =>
      cases answer with
      | sent => rfl
      | renderFailed | halted => rfl
      | sendFailed fault =>
          show (Event.unflushed? ⟨.deliver request, .sendFailed fault⟩).map Request.pair = none
          rw [hnone]
          rfl
  | claim id tier instant =>
      rcases answer with fault | claimed
      · rfl
      · cases claimed <;> rfl
  | release id tier => cases answer <;> rfl
  | listOpen | sentTiers | note => rfl

/-- The pairs that a trace settles as sent are those of the outcomes that tell so. -/
theorem pairs_of_outcomes (now : Instant) (outcomes : List Outcome) :
    ((outcomes.map (Outcome.settled now)).filter fun line => line.how == .sent).map Settled.pair
      = (outcomes.filter fun o => o.status.isSent).map Outcome.pair := by
  rw [List.filter_map, List.map_map]
  refine congrArg (List.map Outcome.pair) (List.filter_congr fun o _ => ?_)
  obtain ⟨id, tier, status⟩ := o
  cases status <;> rfl

/-- A line comes from a delivery of its request. -/
theorem delivered_of_mem_lines {request : Request} (h : request ∈ lines trace) :
    ∃ e ∈ trace, e.ask = .deliver request := by
  obtain ⟨⟨ask, answer⟩, he, hline⟩ := List.mem_filterMap.mp h
  refine ⟨_, he, ?_⟩
  cases ask with
  | deliver request' =>
      cases answer with
      | sent =>
          cases hline
          rfl
      | sendFailed fault =>
          obtain ⟨-, rfl⟩ : fault = Sink.unflushed ∧ request' = request := by
            simpa [Event.line?, Event.unflushed?] using hline
          rfl
      | renderFailed | halted => cases hline
  | listOpen | sentTiers | claim | release | note => cases hline

/-- The message reminds the owners of a listed audit, for the pair of the outcome. -/
def Outcome.Carried (plan : Plan) (now : Instant) (render : RenderNotice) (audits : List Audit)
    (o : Outcome) (m : Message) : Prop :=
  ∃ audit ∈ audits, plan.looksAt now audit = true ∧ ∃ tier ∈ plan.schedule.tiers,
    o.pair = (audit.id, tier.name) ∧ ∃ notice,
      render (.of audit tier (daysLeft now audit.endsAt)) = .ok notice ∧
        m = ⟨audit.owners, notice.subject, notice.body⟩

/-- Outcomes with the pairs of requests for listed audits are carried by the messages of these. -/
theorem carried_of_pairs {plan : Plan} {render : RenderNotice} {audits : List Audit}
    {outcomes : List Outcome} {requests : List Request} {messages : List Message}
    (hpairs : outcomes.map Outcome.pair = requests.map Request.pair)
    (hmessages : List.Forall₂ (Message.IsOf render) requests messages)
    (hreminds : ∀ request ∈ requests, ∃ audit ∈ audits, plan.looksAt now audit = true ∧
      plan.Reminds now audit request) :
    List.Forall₂ (Outcome.Carried plan now render audits) outcomes messages := by
  induction hmessages generalizing outcomes with
  | nil =>
      obtain rfl := List.map_eq_nil_iff.mp hpairs
      exact .nil
  | @cons request m requests messages hm _ ih =>
      obtain ⟨o, outcomes, rfl, hpair, hothers⟩ := List.map_eq_cons_iff.mp hpairs
      obtain ⟨⟨audit, haudit, hlooks, tier, htier, rfl⟩, hrest⟩ := List.forall_mem_cons.mp hreminds
      exact .cons ⟨audit, haudit, hlooks, tier, htier, hpair, hm⟩ (ih hothers hrest)

namespace Pass

variable {σ : Type} {backend : Backend σ} {render : RenderNotice} {limits : Nat → Limits}
  {plan : Plan} {scene : Scene σ Outbox} {report : Report}

/-- What a pass that returns adds to a sink whose flushes do not fail: a message for each outcome
that tells of a reminder sent, in the order of the report. -/
theorem sent_eq_lines (hflush : ∀ n, (limits n).flushes = none)
    (hrun : (run backend render (Outbox.send limits) plan now scene).1 = .ok report) :
    ∃ audits messages, backend.listOpen scene.store = .ok audits ∧
      (run backend render (Outbox.send limits) plan now scene).2.out.sink.written
        = scene.out.sink.written ++ String.join (messages.map Message.line) ∧
      List.Forall₂ (Outcome.Carried plan now render audits)
        (report.outcomes.filter fun o => o.status.isSent) messages := by
  have hyields := Program.yields_trace (handler backend render (Outbox.send limits))
    (program plan now) scene
  obtain ⟨audits, visits, hlisted, account⟩ := (account_of_yields hyields).2 report hrun
  obtain ⟨messages, hmessages, hwritten⟩ :=
    written_run backend render limits (program plan now) scene
  have hnone := unflushed_of_limits backend render hflush (program plan now) scene
  have hlisting : backend.listOpen scene.store = .ok audits :=
    listing_unique hyields (List.mem_cons_of_mem _ List.mem_cons_self) hlisted
  refine ⟨audits, messages, hlisting, hwritten, carried_of_pairs ?_ hmessages ?_⟩
  · rw [pairs_of_lines now hnone, account.lines, pairs_of_outcomes, account.outcomes]
    rfl
  · intro request hrequest
    obtain ⟨e, he, hask⟩ := delivered_of_mem_lines hrequest
    obtain ⟨audit, haudit, hopen, hlooked, hreminds⟩ := reminds_of_mem hyields hlisted he hask
    exact ⟨audit, haudit, by simp [Plan.looksAt, hopen, hlooked], hreminds⟩

end Pass

/-! ## The outbox keeps a log -/

namespace Outbox

/-- A log tells its messages, and whatever fails, the text on a sink is a log of the messages whose
lines were written: those with recipients, unless the write failed.  A pass that returns adds to it
the reminders that its report tells it sent, if no flush fails. -/
theorem keeps_log :
    (∀ (text : String) (messages messages' : List Message),
      IsLogOf text messages → IsLogOf text messages' → messages = messages') ∧
    (∀ (limits : Nat → Limits) (m : Message) (out : Outbox),
      (Sink.leavesLine (send limits m out).1 = true ↔ m.recipients.isEmpty = false ∧
        Sink.reached (limits out.handed).writes out.sink.flushes = false) ∧
      ((send limits m out).1 = .ok () ↔ Sink.leavesLine (send limits m out).1 = true ∧
        Sink.reached (limits out.handed).flushes out.sink.flushes = false)) ∧
    (∀ (limits : Nat → Limits) (messages earlier : List Message) (out : Outbox),
      IsLogOf out.sink.written earlier →
        (sendAll limits messages out).1.map Prod.fst = messages ∧
        IsLogOf (sendAll limits messages out).2.sink.written
          (earlier ++ left (sendAll limits messages out).1)) ∧
    ∀ (σ : Type) (backend : Backend σ) (render : RenderNotice) (limits : Nat → Limits)
      (plan : Plan) (now : Instant) (scene : Scene σ Outbox) (report : Report),
      (∀ n, (limits n).flushes = none) →
      (Pass.run backend render (send limits) plan now scene).1 = .ok report →
        ∃ audits text messages, backend.listOpen scene.store = .ok audits ∧
          (Pass.run backend render (send limits) plan now scene).2.out.sink.written
            = scene.out.sink.written ++ text ∧
          IsLogOf text messages ∧
          List.Forall₂ (Outcome.Carried plan now render audits)
            (report.outcomes.filter fun o => o.status.isSent) messages := by
  refine ⟨fun text messages messages' => IsLogOf.unique, fun limits m out => ⟨?_, ?_⟩,
    fun limits messages earlier out hlog => ⟨?_, ?_⟩, ?_⟩
  · exact (out.sink.under (limits out.handed)).leavesLine_iff m
  · exact (out.sink.under (limits out.handed)).send_eq_ok_iff m
  · exact messages_sendAll limits messages out
  · exact isLogOf_sendAll hlog
  · intro σ backend render limits plan now scene report hflush hrun
    obtain ⟨audits, messages, hlisting, hwritten, hcarried⟩ := Pass.sent_eq_lines hflush hrun
    exact ⟨audits, _, messages, hlisting, hwritten, .lines messages, hcarried⟩

/-- A message whose flush fails, one without recipients and one that is taken leave two lines, which
can be read as those of the first and the last and of no other messages; a pass over one open audit
leaves the line of its reminder. -/
theorem keeps_log_sample :
    let owners := Audit.sample.owners
    let render : RenderNotice := fun request => .ok ⟨request.tier, request.group⟩
    let messages : List Message :=
      [⟨owners, "a\n", "\x7b"⟩, ⟨.empty, "b", ""⟩, ⟨owners, "\"c", "\x7d"⟩]
    let limits : Nat → Limits := fun n => ⟨none, if n = 0 then some 0 else none⟩
    let start : Scene Memory Outbox := ⟨.sample, .on .reliable, []⟩
    let written := (sendAll limits messages (.on .reliable)).2.sink.written
    IsLogOf written [⟨owners, "a\n", "\x7b"⟩, ⟨owners, "\"c", "\x7d"⟩] ∧
    (∀ others, IsLogOf written others →
      others = [⟨owners, "a\n", "\x7b"⟩, ⟨owners, "\"c", "\x7d"⟩]) ∧
    ∃ text, (Pass.run Memory.backend render (send fun _ => ⟨none, none⟩) .sample .epoch
        start).2.out.sink.written = text ∧ IsLogOf text [⟨owners, "overdue", "g"⟩] := by
  intro owners render messages limits start written
  obtain ⟨hunique, -, hlog, hpass⟩ := keeps_log
  have hwritten : IsLogOf written [⟨owners, "a\n", "\x7b"⟩, ⟨owners, "\"c", "\x7d"⟩] :=
    (hlog limits messages [] (.on .reliable) .nil).2
  refine ⟨hwritten, fun others hothers => hunique _ _ _ hothers hwritten, ?_⟩
  have hrun : (Pass.run Memory.backend render (send fun _ => ⟨none, none⟩) .sample .epoch start).1
      = .ok ⟨.epoch, 1, 0, [⟨"a", "overdue", .sent⟩]⟩ :=
    congrArg Prod.fst (Pass.run_of_scan Memory.listOpen_sample rfl)
  obtain ⟨audits, text, added, hlisting, hwritten, htext, hcarried⟩ := hpass Memory Memory.backend
    render (fun _ => ⟨none, none⟩) .sample .epoch start _ (fun _ => rfl) hrun
  obtain rfl := Except.ok.inj (Memory.listOpen_sample.symm.trans hlisting)
  refine ⟨text, hwritten.trans String.empty_append, ?_⟩
  obtain ⟨m, added, ⟨audit, haudit, -, tier, htier, -, notice, ⟨⟩, rfl⟩, hrest, rfl⟩ :=
    List.forall₂_cons_left_iff.mp hcarried
  obtain rfl := List.forall₂_nil_left_iff.mp hrest
  obtain rfl := List.mem_singleton.mp haudit
  obtain rfl := List.mem_singleton.mp htier
  exact htext

end Outbox

end AuditReminder
