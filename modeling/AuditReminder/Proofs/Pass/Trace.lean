/-
Traces of a pass.

A pass is a tree of operations with one branch for each answer, so what one pass did is a path
through that tree: a list of operations, each with the answer it got.  Such a trace says nothing of
a store.  A store serves a trace when it answers each operation in turn, and here any operation of
the store may also fail, whatever the store holds, and then changes nothing, and what it lists and
reads may be out of date.  A trace is smooth when neither happens and every delivery is sent.

    Yields p trace v             p, given the answers of the trace, ends in v
    Serves b s e s'              the store answers one event
    Smooth b s e s'              it answers from what it holds, and nothing fails
    Pass.Ran b plan now s trace result s'      a trace of a pass that the store serves

The two halves are kept apart on purpose.  What a report says of a trace holds whatever the answers
were; what a trace does to the records holds whatever program asked.

Proved here: traces follow `bind` (`Program.yields_bind`), every `Pass.run` has a trace that its
store serves (`Pass.ran_run`), and a delivery comes to what the renderer and the sender make of it
(`Pass.deliver_run`).
-/
import AuditReminder.Pass.Basic

namespace AuditReminder

/-! ## Walks

A walk is a list of labels, each leading from one state to the next. -/

/-- `Walk R a es b`: the labels `es` lead from `a` to `b`. -/
inductive Walk {α ε : Type} (R : α → ε → α → Prop) : α → List ε → α → Prop
  | nil (a : α) : Walk R a [] a
  | cons {a b c : α} {e : ε} {es : List ε} : R a e b → Walk R b es c → Walk R a (e :: es) c

namespace Walk

variable {α ε : Type} {R : α → ε → α → Prop} {a b c : α} {e : ε} {es fs : List ε}

theorem nil_iff : Walk R a [] b ↔ b = a := by
  constructor
  · intro h
    cases h
    rfl
  · rintro rfl
    exact .nil b

theorem cons_iff : Walk R a (e :: es) c ↔ ∃ b, R a e b ∧ Walk R b es c := by
  constructor
  · intro h
    cases h with
    | cons first rest => exact ⟨_, first, rest⟩
  · rintro ⟨b, first, rest⟩
    exact .cons first rest

theorem single (h : R a e b) : Walk R a [e] b := .cons h (.nil b)

theorem append_iff : Walk R a (es ++ fs) c ↔ ∃ b, Walk R a es b ∧ Walk R b fs c := by
  induction es generalizing a with
  | nil => simp [nil_iff]
  | cons e es ih =>
      simp only [List.cons_append, cons_iff, ih]
      constructor
      · rintro ⟨d, first, b, h₁, h₂⟩
        exact ⟨b, ⟨d, first, h₁⟩, h₂⟩
      · rintro ⟨b, ⟨d, first, h₁⟩, h₂⟩
        exact ⟨d, first, b, h₁, h₂⟩

theorem append (h₁ : Walk R a es b) (h₂ : Walk R b fs c) : Walk R a (es ++ fs) c :=
  append_iff.mpr ⟨b, h₁, h₂⟩

/-- A walk falls apart at each of its labels. -/
theorem split_of_mem (h : Walk R a es b) (he : e ∈ es) :
    ∃ before after c d, es = before ++ e :: after ∧ Walk R a before c ∧ R c e d ∧
      Walk R d after b := by
  obtain ⟨before, after, rfl⟩ := List.append_of_mem he
  obtain ⟨c, hbefore, hrest⟩ := append_iff.mp h
  obtain ⟨d, hstep, hafter⟩ := cons_iff.mp hrest
  exact ⟨before, after, c, d, rfl, hbefore, hstep, hafter⟩

/-- What holds of every label holds along the walk, seen through a function of the states. -/
theorem map {β : Type} {S : β → ε → β → Prop} (f : α → β)
    (hR : ∀ {a e b}, R a e b → S (f a) e (f b)) (h : Walk R a es b) : Walk S (f a) es (f b) := by
  induction h with
  | nil a => exact .nil (f a)
  | cons first _ ih => exact .cons (hR first) ih

/-- What every label keeps, a walk keeps. -/
theorem invariant {P : α → Prop} (step : ∀ {a e b}, e ∈ es → R a e b → P a → P b)
    (h : Walk R a es b) (ha : P a) : P b := by
  induction h with
  | nil => exact ha
  | cons first _ ih =>
      exact ih (fun he => step (List.mem_cons_of_mem _ he)) (step List.mem_cons_self first ha)

end Walk

/-! ## Events and traces -/

/-- An operation with its answer. -/
structure Event where
  ask : Ask
  answer : ask.Answer

namespace Program

variable {α β : Type}

/-- `p.Yields trace v`: asked for the operations of `trace` in order and given their answers, `p`
ends in `v`. -/
inductive Yields : Program α → List Event → α → Prop
  | done (v : α) : Yields (.done v) [] v
  | step {ask : Ask} {next : ask.Answer → Program α} {answer : ask.Answer}
      {trace : List Event} {v : α} :
      Yields (next answer) trace v → Yields (.step ask next) (⟨ask, answer⟩ :: trace) v

theorem yields_done {v w : α} {trace : List Event} :
    (Program.done v).Yields trace w ↔ trace = [] ∧ w = v := by
  constructor
  · intro h
    cases h
    exact ⟨rfl, rfl⟩
  · rintro ⟨rfl, rfl⟩
    exact .done w

theorem yields_step {ask : Ask} {next : ask.Answer → Program α} {trace : List Event} {v : α} :
    (Program.step ask next).Yields trace v ↔
      ∃ answer rest, trace = ⟨ask, answer⟩ :: rest ∧ (next answer).Yields rest v := by
  constructor
  · intro h
    cases h with
    | step h => exact ⟨_, _, rfl, h⟩
  · rintro ⟨answer, rest, rfl, h⟩
    exact .step h

/-- A trace of one program after another is a trace of the first and then one of the second. -/
theorem yields_bind {p : Program α} {f : α → Program β} {trace : List Event} {w : β} :
    (p.bind f).Yields trace w ↔
      ∃ first rest v, trace = first ++ rest ∧ p.Yields first v ∧ (f v).Yields rest w := by
  induction p generalizing trace with
  | done v =>
      constructor
      · intro h
        exact ⟨[], trace, v, rfl, .done v, h⟩
      · rintro ⟨first, rest, v', rfl, h₁, h₂⟩
        obtain ⟨rfl, rfl⟩ := yields_done.mp h₁
        exact h₂
  | step ask next ih =>
      constructor
      · intro h
        obtain ⟨answer, tail, rfl, hnext⟩ := yields_step.mp h
        obtain ⟨first, rest, v, rfl, h₁, h₂⟩ := (ih answer).mp hnext
        exact ⟨_, rest, v, rfl, .step h₁, h₂⟩
      · rintro ⟨first, rest, v, rfl, h₁, h₂⟩
        obtain ⟨answer, tail, rfl, hnext⟩ := yields_step.mp h₁
        exact .step ((ih answer).mpr ⟨tail, rest, v, rfl, hnext, h₂⟩)

theorem yields_ask {a : Ask} {f : a.Answer → Program β} {trace : List Event} {w : β} :
    ((ask a).bind f).Yields trace w ↔
      ∃ answer rest, trace = ⟨a, answer⟩ :: rest ∧ (f answer).Yields rest w :=
  yields_step

theorem yields_note {event : PassEvent} {f : Unit → Program β} {trace : List Event} {w : β} :
    ((note event).bind f).Yields trace w ↔
      ∃ rest, trace = ⟨.note event, ()⟩ :: rest ∧ (f ()).Yields rest w := by
  constructor
  · intro h
    obtain ⟨⟨⟩, rest, rfl, hrest⟩ := yields_ask.mp h
    exact ⟨rest, rfl, hrest⟩
  · rintro ⟨rest, rfl, hrest⟩
    exact yields_ask.mpr ⟨(), rest, rfl, hrest⟩

/-- The trace of a program that a handler carries out. -/
def trace {σ : Type} (handle : Handler σ) : Program α → σ → List Event
  | .done _, _ => []
  | .step ask next, s =>
      ⟨ask, (handle ask s).1⟩ :: (next (handle ask s).1).trace handle (handle ask s).2

theorem yields_trace {σ : Type} (handle : Handler σ) (p : Program α) (s : σ) :
    p.Yields (p.trace handle s) (p.run handle s).1 := by
  induction p generalizing s with
  | done v => exact .done v
  | step ask next ih => exact .step (ih _ _)

end Program

/-! ## Stores that serve a trace -/

variable {σ ω : Type}

/-- `b.Serves s e s'`: the store answers one event in the state `s` and is then in `s'`.  A fault
that the store did not meet itself may stand in the place of what it answers to a claim or a
release, and then nothing has changed.  What it lists and reads is left open, and how a delivery
ends is not up to the store. -/
inductive Backend.Serves (b : Backend σ) (s : σ) : Event → σ → Prop
  | listed (answer : Except StoreFault (List Audit)) : Serves b s ⟨.listOpen, answer⟩ s
  | read (id : AuditId) (answer : Except StoreFault NameSet) : Serves b s ⟨.sentTiers id, answer⟩ s
  | claimed (id : AuditId) (tier : String) (now : Instant) :
      Serves b s ⟨.claim id tier now, (b.claim s id tier now).1⟩ (b.claim s id tier now).2
  | unclaimed (id : AuditId) (tier : String) (now : Instant) (fault : StoreFault) :
      Serves b s ⟨.claim id tier now, .error fault⟩ s
  | delivered (request : Request) (delivery : Delivery) :
      Serves b s ⟨.deliver request, delivery⟩ s
  | released (id : AuditId) (tier : String) :
      Serves b s ⟨.release id tier, (b.release s id tier).1⟩ (b.release s id tier).2
  | unreleased (id : AuditId) (tier : String) (fault : StoreFault) :
      Serves b s ⟨.release id tier, .error fault⟩ s
  | noted (event : PassEvent) : Serves b s ⟨.note event, ()⟩ s

/-- A store answers the events of a trace in turn. -/
abbrev Backend.ServesAll (b : Backend σ) : σ → List Event → σ → Prop := Walk b.Serves

/-- `b.Smooth s e s'`: the store answers one event from what it holds, and the event does not
fail. -/
inductive Backend.Smooth (b : Backend σ) (s : σ) : Event → σ → Prop
  | listed {audits : List Audit} :
      b.listOpen s = .ok audits → Smooth b s ⟨.listOpen, .ok audits⟩ s
  | read {id : AuditId} {sent : NameSet} :
      b.sentTiers s id = .ok sent → Smooth b s ⟨.sentTiers id, .ok sent⟩ s
  | claimed {id : AuditId} {tier : String} {now : Instant} {claimed : Bool} {s' : σ} :
      b.claim s id tier now = (.ok claimed, s') → Smooth b s ⟨.claim id tier now, .ok claimed⟩ s'
  | delivered (request : Request) : Smooth b s ⟨.deliver request, .sent⟩ s
  | released {id : AuditId} {tier : String} {s' : σ} :
      b.release s id tier = (.ok (), s') → Smooth b s ⟨.release id tier, .ok ()⟩ s'
  | noted (event : PassEvent) : Smooth b s ⟨.note event, ()⟩ s

/-- All events of a trace are smooth. -/
abbrev Backend.SmoothAll (b : Backend σ) : σ → List Event → σ → Prop := Walk b.Smooth

namespace Backend.Smooth

variable {b : Backend σ} {s s' : σ} {e : Event}

theorem serves (h : b.Smooth s e s') : b.Serves s e s' := by
  cases h with
  | listed h => exact .listed _
  | read h => exact .read _ _
  | @claimed id tier now claimed s' h =>
      have hs := Backend.Serves.claimed (b := b) (s := s) id tier now
      rwa [h] at hs
  | delivered request => exact .delivered request .sent
  | @released id tier s' h =>
      have hs := Backend.Serves.released (b := b) (s := s) id tier
      rwa [h] at hs
  | noted event => exact .noted event

theorem of_listOpen {answer : Except StoreFault (List Audit)}
    (h : b.Smooth s ⟨.listOpen, answer⟩ s') : answer = b.listOpen s ∧ s' = s := by
  cases h with
  | listed h => exact ⟨h.symm, rfl⟩

theorem of_sentTiers {id : AuditId} {answer : Except StoreFault NameSet}
    (h : b.Smooth s ⟨.sentTiers id, answer⟩ s') :
    ∃ sent, answer = .ok sent ∧ b.sentTiers s id = .ok sent ∧ s' = s := by
  cases h with
  | read h => exact ⟨_, rfl, h, rfl⟩

theorem of_claim {id : AuditId} {tier : String} {now : Instant} {answer : Except StoreFault Bool}
    (h : b.Smooth s ⟨.claim id tier now, answer⟩ s') :
    ∃ claimed, answer = .ok claimed ∧ b.claim s id tier now = (.ok claimed, s') := by
  cases h with
  | claimed h => exact ⟨_, rfl, h⟩

theorem of_deliver {request : Request} {delivery : Delivery}
    (h : b.Smooth s ⟨.deliver request, delivery⟩ s') : delivery = .sent ∧ s' = s := by
  cases h with
  | delivered => exact ⟨rfl, rfl⟩

theorem of_note {event : PassEvent} {answer : Unit} (h : b.Smooth s ⟨.note event, answer⟩ s') :
    s' = s := by
  cases h with
  | noted => rfl

end Backend.Smooth

namespace Pass

/-- One pass over a store: its trace, what it comes to, and the store before and after it. -/
structure Ran (b : Backend σ) (plan : Plan) (now : Instant) (s : σ) (trace : List Event)
    (result : Except PassStop Report) (s' : σ) : Prop where
  yields : (program plan now).Yields trace result
  served : b.ServesAll s trace s'

variable {backend : Backend σ} {render : RenderNotice} {send : SendMessage ω}

theorem serves_handler (ask : Ask) (scene : Scene σ ω) :
    backend.Serves scene.store ⟨ask, (handler backend render send ask scene).1⟩
      (handler backend render send ask scene).2.store := by
  cases ask with
  | listOpen => exact .listed _
  | sentTiers id => exact .read id _
  | claim id tier now => exact .claimed id tier now
  | deliver request => exact .delivered request _
  | release id tier => exact .released id tier
  | note event => exact .noted event

theorem servesAll_trace {α : Type} (p : Program α) (scene : Scene σ ω) :
    backend.ServesAll scene.store (p.trace (handler backend render send) scene)
      (p.run (handler backend render send) scene).2.store := by
  induction p generalizing scene with
  | done v => exact .nil _
  | step ask next ih => exact .cons (serves_handler ask scene) (ih _ _)

/-- Every pass that is carried out has a trace, and its store serves it. -/
theorem ran_run (plan : Plan) (now : Instant) (scene : Scene σ ω) :
    Ran backend plan now scene.store
      ((program plan now).trace (handler backend render send) scene)
      (run backend render send plan now scene).1 (run backend render send plan now scene).2.store :=
  ⟨Program.yields_trace _ _ _, servesAll_trace _ _⟩

/-- A pass over what is listed tells what its scan tells. -/
theorem run_of_scan {plan : Plan} {now : Instant} {audits : List Audit} {scene after : Scene σ ω}
    {report : Report} (hlisted : backend.listOpen scene.store = .ok audits)
    (h : (scan plan now (.start now) audits).run (handler backend render send)
      { scene with events := scene.events ++ [.started now] } = (.ok report, after)) :
    run backend render send plan now scene = (.ok report, { after with events := after.events ++
      [.finished report.scanned report.expired report.sent report.skipped report.failed] }) := by
  unfold run program
  simp only [bind, Program.note, Program.ask, Program.bind, Program.run_step, handler, hlisted,
    Program.run_bind, h]
  rfl

/-- A request that cannot be rendered is not sent, and one that is sent ends as the sender
answers. -/
theorem deliver_run (request : Request) (out : ω) :
    (deliver (m := StateM ω) render send request).run out =
      match render request with
      | .error .unprintableDate => (.halted, out)
      | .error (.fault fault) => (.renderFailed fault, out)
      | .ok notice =>
          match send ⟨request.owners, notice.subject, notice.body⟩ out with
          | (.ok (), out) => (.sent, out)
          | (.error fault, out) => (.sendFailed fault, out) := by
  unfold deliver
  cases render request with
  | error stop => cases stop <;> rfl
  | ok notice =>
      simp only [StateT.run, bind, StateT.bind]
      rcases send ⟨request.owners, notice.subject, notice.body⟩ out with ⟨answer, after⟩
      cases answer <;> rfl

end Pass

end AuditReminder
