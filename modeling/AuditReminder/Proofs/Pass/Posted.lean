/-
Passes with sinks of their own.

Any number of passes over one store follow one another, each with a plan, an instant and a renderer
of its own, and with a sink of its own whose writes and flushes fail as they will.  In all of them
together a pair is sent once at most (`Ledger.sends_le_one`), but a line is not always that of a
reminder sent:

    lines of a pair = its deliveries that were sent + its deliveries whose flush failed

After a failed flush the line stays on the sink, and the claim is given back as after any fault.
The reminder falls due again, and a later pass writes its line once more (`Posted.twice_on_sinks`).
No other fault has this effect.

Main statement: `Posted.lines_counted`.
-/
import AuditReminder.Proofs.Pass.History
import AuditReminder.Proofs.Pass.Lines

namespace AuditReminder

/-- What a pass goes by whose messages go to a sink of its own. -/
structure Posting where
  plan : Plan
  now : Instant
  render : RenderNotice
  limits : Nat → Limits
  sink : Sink

/-- A pass that went by this, and the text on its sink after it. -/
structure Posted where
  posting : Posting
  trace : List Event
  result : Except PassStop Report
  text : String

def Posted.run (posted : Posted) : PassRun :=
  ⟨posted.posting.plan, posted.posting.now, posted.trace, posted.result⟩

section Posting

variable {σ : Type} (b : Backend σ)

/-- Carries one pass out. -/
def Posting.carryOut (posting : Posting) (s : σ) : Posted × σ :=
  let send := Outbox.send posting.limits
  let start : Scene σ Outbox := ⟨s, .on posting.sink, []⟩
  let ended := Pass.run b posting.render send posting.plan posting.now start
  let trace := (Pass.program posting.plan posting.now).trace
    (Pass.handler b posting.render send) start
  (⟨posting, trace, ended.1, ended.2.out.sink.written⟩, ended.2.store)

/-- Carries passes out one after the other. -/
def postAll : List Posting → σ → List Posted × σ
  | [], s => ([], s)
  | posting :: rest, s =>
      let (first, s) := posting.carryOut b s
      let (others, s) := postAll rest s
      (first :: others, s)

variable {b}

theorem ran_carryOut (posting : Posting) (s : σ) :
    Pass.Ran b posting.plan posting.now s (posting.carryOut b s).1.trace
      (posting.carryOut b s).1.result (posting.carryOut b s).2 :=
  Pass.ran_run posting.plan posting.now (⟨s, .on posting.sink, []⟩ : Scene σ Outbox)

theorem postings_of_postAll (postings : List Posting) (s : σ) :
    (postAll b postings s).1.map Posted.posting = postings := by
  induction postings generalizing s with
  | nil => rfl
  | cons posting rest ih => exact congrArg (posting :: ·) (ih _)

/-- The passes are a history of the store. -/
theorem passes_postAll (postings : List Posting) (s : σ) :
    b.Passes s ((postAll b postings s).1.map Posted.run) (postAll b postings s).2 := by
  induction postings generalizing s with
  | nil => exact .nil s
  | cons posting rest ih => exact .cons (ran_carryOut posting s) (ih _)

/-- Each pass was carried out from some state of the store. -/
theorem carriedOut_of_mem {postings : List Posting} {s : σ} {posted : Posted}
    (h : posted ∈ (postAll b postings s).1) :
    posted.posting ∈ postings ∧ ∃ s', posted = (posted.posting.carryOut b s').1 := by
  induction postings generalizing s with
  | nil => cases h
  | cons posting rest ih =>
      rcases List.mem_cons.mp h with rfl | h
      · exact ⟨List.mem_cons_self, s, rfl⟩
      · obtain ⟨hmem, hcarried⟩ := ih h
        exact ⟨List.mem_cons_of_mem _ hmem, hcarried⟩

end Posting

namespace History

/-- How many lines were left for the pair. -/
def written (history : List PassRun) (p : Pair) : Nat :=
  (lines (history.flatMap PassRun.trace)).countP fun request => request.pair == p

/-- How often the flush failed after a line of the pair. -/
def unflushed (history : List PassRun) (p : Pair) : Nat :=
  ((history.flatMap PassRun.trace).filterMap Event.unflushed?).countP
    fun request => request.pair == p

/-- A line is that of a delivery that was sent, or of one whose flush failed. -/
theorem countP_lines (trace : List Event) (p : Pair) :
    (lines trace).countP (fun request => request.pair == p)
      = trace.countP (Event.isSendOf p)
        + (trace.filterMap Event.unflushed?).countP fun request => request.pair == p := by
  induction trace with
  | nil => rfl
  | cons e trace ih =>
      have hone : (lines [e]).countP (fun request => request.pair == p)
          = [e].countP (Event.isSendOf p)
            + ([e].filterMap Event.unflushed?).countP fun request => request.pair == p := by
        obtain ⟨ask, answer⟩ := e
        cases ask with
        | deliver request =>
            cases answer with
            | sent => exact (Nat.add_zero _).symm
            | renderFailed | sendFailed | halted => exact (Nat.zero_add _).symm
        | listOpen | sentTiers | claim | release | note => rfl
      have hcons : e :: trace = [e] ++ trace := rfl
      rw [hcons, lines_append, List.filterMap_append, List.countP_append, List.countP_append,
        List.countP_append, hone, ih]
      exact Nat.add_add_add_comm _ _ _ _

end History

namespace Posted

open History

/-- Over any passes each pair has one line at most, and one more for each flush that failed after a
line of it.  No other fault leaves a line behind. -/
theorem lines_counted (store : RecordStore) (postings : List Posting) (s : store.State) :
    let posted := (postAll store.backend postings s).1
    posted.map posting = postings ∧
    (∀ one ∈ posted, ∃ messages,
      List.Forall₂ (Message.IsOf one.posting.render) (lines one.trace) messages ∧
        one.text = one.posting.sink.written ++ String.join (messages.map Message.line)) ∧
    (∀ p, sends (posted.map run) p ≤ 1 ∧
      written (posted.map run) p = sends (posted.map run) p + unflushed (posted.map run) p) ∧
    ((∀ posting ∈ postings, ∀ n, (posting.limits n).flushes = none) →
      ∀ p, written (posted.map run) p ≤ 1) ∧
    ∀ (sink : Sink) (m : Message) (fault : DeliveryFault), (sink.send m).1 = .error fault →
      Sink.reached sink.flushesFailFrom sink.flushes = false →
        (sink.send m).2.written = sink.written := by
  intro posted
  have hwalk := store.keeps.settles_log (passes_postAll postings s)
  have hsends (p : Pair) := store.ledger.sends_le_one hwalk p
  refine ⟨postings_of_postAll postings s, ?_, fun p => ⟨hsends p, countP_lines _ p⟩, ?_,
    fun sink m fault h hflush => sink.written_of_fault m h hflush⟩
  · intro one hone
    obtain ⟨-, s', hs'⟩ := carriedOut_of_mem hone
    rw [hs']
    exact written_run _ _ _ _ _
  · intro hflush p
    have hnone : unflushed (posted.map run) p = 0 := by
      rw [unflushed, List.filterMap_eq_nil_iff.mpr]
      · rfl
      · intro e he
        obtain ⟨pass, hpass, he⟩ := List.mem_flatMap.mp he
        obtain ⟨one, hone, rfl⟩ := List.mem_map.mp hpass
        obtain ⟨hposting, s', hs'⟩ := carriedOut_of_mem hone
        rw [hs'] at he
        exact unflushed_of_limits _ _ (hflush _ hposting) _ _ e he
    calc written (posted.map run) p
        = sends (posted.map run) p + unflushed (posted.map run) p := countP_lines _ p
      _ ≤ 1 := by
        rw [hnone]
        exact hsends p

end Posted

/-- A pass over one open audit that renders the names of tiers and groups. -/
def Posting.sample (flushesFailFrom : Option Nat) : Posting where
  plan := .sample
  now := .epoch
  render request := .ok ⟨request.tier, request.group⟩
  limits _ := ⟨none, flushesFailFrom⟩
  sink := .reliable

/-- What it sends. -/
def Message.sample : Message := ⟨Audit.sample.owners, "overdue", "g"⟩

namespace Posted

open History

/-- Of three passes the first cannot flush and writes a line, the second writes it again and the
third has nothing to send. -/
theorem lines_counted_after_retry :
    let posted := (postAll Memory.backend [.sample (some 0), .sample none, .sample none] .sample).1
    written (posted.map run) ("a", "overdue") = 1 + 1 ∧
    ∀ p,
      written ((postAll Memory.backend [.sample none, .sample none] .sample).1.map run) p ≤ 1 := by
  intro posted
  obtain ⟨-, -, hcounted, -⟩ :=
    lines_counted .memory [.sample (some 0), .sample none, .sample none] .sample
  obtain ⟨-, -, -, honce, -⟩ := lines_counted .memory [.sample none, .sample none] .sample
  have hsends : sends (posted.map run) ("a", "overdue") = 1 := by decide +kernel
  have hfailed : unflushed (posted.map run) ("a", "overdue") = 1 := by decide +kernel
  refine ⟨(hcounted _).2.trans (congrArg₂ (· + ·) hsends hfailed), honce ?_⟩
  intro posting hposting n
  obtain rfl : posting = .sample none := by simpa using hposting
  rfl

/-- The store fails in nothing, the audit is open and has no record at the start.  The flush fails
in the first of two passes; the message is refused and its line stays, and the second pass writes
the line again. -/
theorem twice_on_sinks :
    let posted := (postAll Memory.backend [.sample (some 0), .sample none] .sample).1
    posted.map text = [Message.sample.line, Message.sample.line] ∧
    written (posted.map run) ("a", "overdue") = 2 ∧
    (Sink.reliable.under ⟨none, some 0⟩).send .sample
      = (.error Sink.unflushed, { Sink.reliable.under ⟨none, some 0⟩ with
          written := Message.sample.line }) := by
  decide +kernel

end Posted

end AuditReminder
