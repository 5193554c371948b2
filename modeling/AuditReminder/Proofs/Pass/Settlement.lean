/-
How claimed pairs are settled.

A pass settles every pair that it tries to claim, with one event of its trace:

    lost        the pair had a row already
    sent        claimed and delivered
    givenBack   claimed, the delivery failed, released
    retained    claimed, the delivery failed, and so did the release
    cutOff      claimed, and the pass ended in the delivery

`settled now trace` lists them in order.  The list says all there is to say of the rows: `Settles`
is one line of it as a step of the ledger, and of the five only `sent`, `retained` and `cutOff`
leave a row, made at the instant of the pass.  The lines carry that instant, so the lists of several
passes can be put together.

Main statements: the rows follow the list (`Ledger.walk_settles`), what the list comes to
(`Ledger.rows_of_walk`, `Ledger.nodup_of_walk`), and every line stands for an uninterrupted stretch
of the trace (`Ledger.dispatched_of_mem_settled`).
-/
import AuditReminder.Proofs.Pass.Phase

namespace AuditReminder

/-- How a claim ended. -/
inductive Settlement where
  | lost
  | sent
  | givenBack
  | retained
  | cutOff
deriving DecidableEq

/-- The row of the claim stays. -/
def Settlement.keeps : Settlement → Bool
  | lost => false
  | sent => true
  | givenBack => false
  | retained => true
  | cutOff => true

/-- A pair with how its claim ended, and the instant of the pass. -/
structure Settled where
  pair : Pair
  how : Settlement
  instant : Instant
deriving DecidableEq

/-- What an event settles. -/
def Event.settled? (now : Instant) : Event → Option Settled
  | ⟨.claim id tier _, .ok false⟩ => some ⟨(id, tier), .lost, now⟩
  | ⟨.deliver request, .sent⟩ => some ⟨request.pair, .sent, now⟩
  | ⟨.deliver request, .halted⟩ => some ⟨request.pair, .cutOff, now⟩
  | ⟨.release id tier, .ok _⟩ => some ⟨(id, tier), .givenBack, now⟩
  | ⟨.release id tier, .error _⟩ => some ⟨(id, tier), .retained, now⟩
  | _ => none

/-- What a trace settles, in order. -/
def settled (now : Instant) (trace : List Event) : List Settled :=
  trace.filterMap (Event.settled? now)

/-- The lines that leave a row. -/
def kept (lines : List Settled) : List Settled := lines.filter fun line => line.how.keeps

theorem settled_append (now : Instant) (first rest : List Event) :
    settled now (first ++ rest) = settled now first ++ settled now rest :=
  List.filterMap_append

theorem mem_kept {lines : List Settled} {line : Settled} :
    line ∈ kept lines ↔ line ∈ lines ∧ line.how.keeps = true :=
  List.mem_filter

theorem instant_of_mem_settled {now : Instant} {trace : List Event} {line : Settled}
    (h : line ∈ settled now trace) : line.instant = now := by
  obtain ⟨⟨ask, answer⟩, -, he⟩ := List.mem_filterMap.mp h
  unfold Event.settled? at he
  split at he <;> cases he <;> rfl

/-- Sent pairs are counted alike in a trace and in what it settles. -/
theorem countP_isSendOf (now : Instant) (trace : List Event) (p : Pair) :
    trace.countP (Event.isSendOf p)
      = (settled now trace).countP fun line => line.pair == p && line.how == .sent := by
  rw [settled, List.countP_filterMap]
  refine List.countP_congr fun ⟨ask, answer⟩ _ => ?_
  cases ask with
  | deliver request => cases answer <;> simp [Event.isSendOf, Event.settled?]
  | claim id tier instant =>
      rcases answer with fault | claimed
      · exact Iff.rfl
      · cases claimed <;> simp [Event.isSendOf, Event.settled?]
  | release id tier => cases answer <;> simp [Event.isSendOf, Event.settled?]
  | listOpen | sentTiers | note => exact Iff.rfl

namespace Ledger

variable {σ : Type} (l : Ledger σ)

/-- The row that a line leaves. -/
def entryOf (line : Settled) : l.Row := l.entry line.pair line.instant

/-- One line as a step from rows to rows. -/
inductive Settles (rows : List l.Row) : Settled → List l.Row → Prop
  | lost {line : Settled} : line.how = .lost → l.Has rows line.pair → Settles rows line rows
  | givenBack {line : Settled} :
      line.how = .givenBack → ¬ l.Has rows line.pair → Settles rows line rows
  | kept {line : Settled} :
      line.how.keeps = true → ¬ l.Has rows line.pair → Settles rows line (rows ++ [l.entryOf line])

/-! ## Rows follow what is settled -/

/-- The rows `rows` in a phase are those of `base`, on which nothing is in hand, and the row of the
pair in hand. -/
def Holds (now : Instant) (base rows : List l.Row) : Phase → Prop
  | .free => rows = base
  | .claimed p => ¬ l.Has base p ∧ rows = base ++ [l.entry p now]
  | .failed p => ¬ l.Has base p ∧ rows = base ++ [l.entry p now]

variable {l} {now : Instant} {base rows rows' : List l.Row} {phase phase' : Phase} {e : Event}

/-- A move settles a line and changes the rows below accordingly, or it settles nothing. -/
theorem holds_of_moves (hm : l.Moves now phase rows e phase' rows')
    (hb : l.Holds now base rows phase) :
    ∃ base', l.Holds now base' rows' phase' ∧
      Walk l.Settles base (settled now [e]) base' := by
  cases hm with
  | noted | listed | read | refused => exact ⟨base, hb, .nil base⟩
  | claimed id tier hfree =>
      obtain rfl : rows = base := hb
      exact ⟨rows, ⟨hfree, rfl⟩, .nil rows⟩
  | lost id tier htaken =>
      obtain rfl : rows = base := hb
      exact ⟨rows, rfl, .single (.lost rfl htaken)⟩
  | sent request =>
      obtain ⟨hfree, rfl⟩ := hb
      exact ⟨_, rfl, .single (.kept rfl hfree)⟩
  | halted request =>
      obtain ⟨hfree, rfl⟩ := hb
      exact ⟨_, rfl, .single (.kept rfl hfree)⟩
  | @unsent _ request delivery hfails =>
      refine ⟨base, hb, ?_⟩
      cases delivery with
      | renderFailed | sendFailed => exact .nil base
      | sent | halted => exact hfails.elim
  | released id tier =>
      obtain ⟨hfree, rfl⟩ := hb
      rw [l.without_append_entry hfree]
      exact ⟨base, rfl, .single (.givenBack rfl hfree)⟩
  | retained id tier fault =>
      obtain ⟨hfree, rfl⟩ := hb
      exact ⟨_, rfl, .single (.kept rfl hfree)⟩

theorem walk_settles_of_holds {α : Type} {p : Program α} {trace : List Event} {v : α}
    (hp : p.Orderly now phase) (hy : p.Yields trace v) (ht : Walk l.Takes rows trace rows')
    (hb : l.Holds now base rows phase) : Walk l.Settles base (settled now trace) rows' := by
  induction hy generalizing phase rows base with
  | done v =>
      obtain rfl : phase = .free := hp
      obtain rfl : rows = base := hb
      obtain rfl := Walk.nil_iff.mp ht
      exact .nil _
  | @step ask next answer trace v hy ih =>
      obtain ⟨middle, hfirst, hrest⟩ := Walk.cons_iff.mp ht
      obtain ⟨base', hb', hline⟩ := holds_of_moves (moves_of_admits hp.1 hfirst) hb
      have hlines := ih (hp.2 answer) hrest hb'
      rw [← List.singleton_append, settled_append]
      exact hline.append hlines

/-- What an orderly trace does to the rows is what it settles. -/
theorem walk_settles {α : Type} {p : Program α} {trace : List Event} {v : α}
    (hp : p.Orderly now .free) (hy : p.Yields trace v) (ht : Walk l.Takes rows trace rows') :
    Walk l.Settles rows (settled now trace) rows' :=
  walk_settles_of_holds hp hy ht rfl

/-! ## What a list of lines comes to -/

section Lines

variable {lines : List Settled} {line : Settled} {p : Pair}

/-- The rows that were there stay, and each kept line adds its own. -/
theorem rows_of_walk (h : Walk l.Settles rows lines rows') :
    rows' = rows ++ (kept lines).map l.entryOf := by
  induction h with
  | nil rows => simp [kept]
  | @cons rows middle rows' line lines hline _ ih =>
      cases hline with
      | lost hhow | givenBack hhow => simpa [kept, hhow, Settlement.keeps] using ih
      | kept hkeeps => simpa [kept, hkeeps] using ih

theorem has_of_walk (h : Walk l.Settles rows lines rows') :
    l.Has rows' p ↔ l.Has rows p ∨ ∃ line ∈ kept lines, line.pair = p := by
  rw [rows_of_walk h, l.has_append]
  refine or_congr_right ⟨?_, ?_⟩
  · rintro ⟨row, hrow, rfl⟩
    obtain ⟨line, hline, rfl⟩ := List.mem_map.mp hrow
    exact ⟨line, hline, (l.pair_entry _ _).symm⟩
  · rintro ⟨line, hline, rfl⟩
    exact ⟨_, List.mem_map_of_mem hline, l.pair_entry _ _⟩

/-- A kept pair had no row before. -/
theorem not_has_of_mem_kept (h : Walk l.Settles rows lines rows') (hl : line ∈ kept lines) :
    ¬ l.Has rows line.pair := by
  obtain ⟨hmem, hkeeps⟩ := mem_kept.mp hl
  obtain ⟨before, after, middle, next, rfl, hbefore, hline, -⟩ := h.split_of_mem hmem
  intro hhas
  have hhas' : l.Has middle line.pair := (has_of_walk hbefore).mpr (Or.inl hhas)
  cases hline with
  | lost hhow => simp [hhow, Settlement.keeps] at hkeeps
  | givenBack hhow => simp [hhow, Settlement.keeps] at hkeeps
  | kept _ hfree => exact hfree hhas'

/-- No pair is kept twice. -/
theorem nodup_of_walk (h : Walk l.Settles rows lines rows') :
    ((kept lines).map Settled.pair).Nodup := by
  induction h with
  | nil rows => simp [kept]
  | @cons rows middle rows' line lines hline hrest ih =>
      cases hline with
      | lost hhow | givenBack hhow => simpa [kept, hhow, Settlement.keeps] using ih
      | kept hkeeps =>
          have hcons : kept (line :: lines) = line :: kept lines := List.filter_cons_of_pos hkeeps
          rw [hcons, List.map_cons, List.nodup_cons]
          refine ⟨fun hmem => ?_, ih⟩
          obtain ⟨other, hother, hpair⟩ := List.mem_map.mp hmem
          refine not_has_of_mem_kept hrest hother ?_
          rw [hpair, l.has_append]
          exact Or.inr ⟨_, List.mem_singleton_self _, l.pair_entry _ _⟩

end Lines

end Ledger

/-! ## Dispatches -/

/-- The events of one dispatch of a pair. -/
inductive Dispatched (now : Instant) (p : Pair) : Settlement → List Event → Prop
  | lost : Dispatched now p .lost [⟨.claim p.1 p.2 now, .ok false⟩]
  | sent (request : Request) :
      request.pair = p →
      Dispatched now p .sent [⟨.claim p.1 p.2 now, .ok true⟩, ⟨.deliver request, .sent⟩]
  | cutOff (request : Request) :
      request.pair = p →
      Dispatched now p .cutOff [⟨.claim p.1 p.2 now, .ok true⟩, ⟨.deliver request, .halted⟩]
  | givenBack (request : Request) {delivery : Delivery} :
      request.pair = p → delivery.Fails →
      Dispatched now p .givenBack [⟨.claim p.1 p.2 now, .ok true⟩, ⟨.deliver request, delivery⟩,
        ⟨.release p.1 p.2, .ok ()⟩]
  | retained (request : Request) {delivery : Delivery} (fault : StoreFault) :
      request.pair = p → delivery.Fails →
      Dispatched now p .retained [⟨.claim p.1 p.2 now, .ok true⟩, ⟨.deliver request, delivery⟩,
        ⟨.release p.1 p.2, .error fault⟩]

theorem Dispatched.settled_eq {now : Instant} {p : Pair} {how : Settlement} {block : List Event}
    (h : Dispatched now p how block) : settled now block = [⟨p, how, now⟩] := by
  cases h with
  | lost => rfl
  | sent request hpair | cutOff request hpair =>
      subst hpair
      rfl
  | @givenBack request delivery hpair hfails | @retained request delivery fault hpair hfails =>
      cases delivery with
      | renderFailed | sendFailed => rfl
      | sent | halted => exact hfails.elim

theorem mem_settled_of_dispatched {now : Instant} {p : Pair} {how : Settlement}
    {block trace : List Event} (h : Dispatched now p how block) (hi : block <:+: trace) :
    ⟨p, how, now⟩ ∈ settled now trace := by
  obtain ⟨before, after, rfl⟩ := hi
  rw [settled_append, settled_append, h.settled_eq]
  simp

/-- What a pass has done of a dispatch when it is in a phase. -/
inductive Opened (now : Instant) : Phase → List Event → Prop
  | free : Opened now .free []
  | claimed (p : Pair) : Opened now (.claimed p) [⟨.claim p.1 p.2 now, .ok true⟩]
  | failed {p : Pair} (request : Request) {delivery : Delivery} :
      request.pair = p → delivery.Fails →
      Opened now (.failed p) [⟨.claim p.1 p.2 now, .ok true⟩, ⟨.deliver request, delivery⟩]

namespace Ledger

variable {σ : Type} {l : Ledger σ} {now : Instant} {rows rows' : List l.Row}
  {phase phase' : Phase} {e : Event} {opening : List Event}

/-- A move goes on with a dispatch, or nothing is in hand after it and what it settles is settled by
the dispatch that it ends. -/
theorem opened_of_moves (hm : l.Moves now phase rows e phase' rows')
    (ho : Opened now phase opening) :
    (Opened now phase' (opening ++ [e]) ∧ e.settled? now = none) ∨
      (phase' = .free ∧
        ∀ line, e.settled? now = some line →
          Dispatched now line.pair line.how (opening ++ [e])) := by
  cases hm with
  | noted | listed | read | refused => exact Or.inr ⟨rfl, fun line hline => by cases hline⟩
  | claimed id tier =>
      cases ho
      exact Or.inl ⟨.claimed (id, tier), rfl⟩
  | lost id tier =>
      cases ho
      refine Or.inr ⟨rfl, ?_⟩
      rintro line ⟨⟩
      exact .lost
  | sent request =>
      cases ho
      refine Or.inr ⟨rfl, ?_⟩
      rintro line ⟨⟩
      exact .sent request rfl
  | halted request =>
      cases ho
      refine Or.inr ⟨rfl, ?_⟩
      rintro line ⟨⟩
      exact .cutOff request rfl
  | @unsent _ request delivery hfails =>
      cases ho
      refine Or.inl ⟨.failed request rfl hfails, ?_⟩
      cases delivery with
      | renderFailed | sendFailed => rfl
      | sent | halted => exact hfails.elim
  | released id tier =>
      cases ho with
      | failed request hpair hfails =>
          refine Or.inr ⟨rfl, ?_⟩
          rintro line ⟨⟩
          exact .givenBack request hpair hfails
  | retained id tier fault =>
      cases ho with
      | failed request hpair hfails =>
          refine Or.inr ⟨rfl, ?_⟩
          rintro line ⟨⟩
          exact .retained request fault hpair hfails

theorem dispatched_of_opened {α : Type} {p : Program α} {trace : List Event} {v : α}
    {line : Settled} (hp : p.Orderly now phase) (hy : p.Yields trace v)
    (ht : Walk l.Takes rows trace rows') (ho : Opened now phase opening)
    (hl : line ∈ settled now trace) :
    ∃ block, Dispatched now line.pair line.how block ∧ block <:+: opening ++ trace := by
  induction hy generalizing phase rows opening with
  | done v => cases hl
  | @step ask next answer trace v hy ih =>
      obtain ⟨middle, hfirst, hrest⟩ := Walk.cons_iff.mp ht
      have hcases := opened_of_moves (moves_of_admits hp.1 hfirst) ho
      have hshift : opening ++ ⟨ask, answer⟩ :: trace = (opening ++ [⟨ask, answer⟩]) ++ trace :=
        (List.append_cons opening ⟨ask, answer⟩ trace)
      rw [hshift]
      rw [← List.singleton_append, settled_append, List.mem_append] at hl
      rcases hcases with ⟨hopen, hnone⟩ | ⟨hfree, hends⟩
      · rcases hl with hl | hl
        · simp [settled, hnone] at hl
        · exact ih (hp.2 answer) hrest hopen hl
      · rcases hl with hl | hl
        · obtain ⟨e, he, hline⟩ := List.mem_filterMap.mp hl
          obtain rfl := List.mem_singleton.mp he
          exact ⟨_, hends line hline, (List.prefix_append _ _).isInfix⟩
        · obtain ⟨block, hblock, hinfix⟩ := ih (hp.2 answer) hrest (hfree ▸ Opened.free) hl
          exact ⟨block, hblock, hinfix.trans (List.suffix_append _ _).isInfix⟩

/-- Every line of what is settled stands for the events of one dispatch, with nothing between. -/
theorem dispatched_of_mem_settled {α : Type} {p : Program α} {trace : List Event} {v : α}
    {line : Settled} (hp : p.Orderly now .free) (hy : p.Yields trace v)
    (ht : Walk l.Takes rows trace rows') (hl : line ∈ settled now trace) :
    ∃ block, Dispatched now line.pair line.how block ∧ block <:+: trace :=
  dispatched_of_opened hp hy ht .free hl

end Ledger

/-! ## Settlements of a pass -/

namespace Backend.Keeps

variable {σ : Type} {b : Backend σ} {l : Ledger σ} {plan : Plan} {now : Instant} {s s' : σ}
  {trace : List Event} {result : Except PassStop Report}

/-- What a pass does to the rows is what it settles. -/
theorem settles (h : b.Keeps l) (hr : Pass.Ran b plan now s trace result s') :
    Walk l.Settles (l.rows s) (settled now trace) (l.rows s') :=
  l.walk_settles Pass.orderly_program hr.yields (hr.served.map l.rows h.takes)

theorem dispatched (h : b.Keeps l) (hr : Pass.Ran b plan now s trace result s') {line : Settled}
    (hl : line ∈ settled now trace) :
    ∃ block, Dispatched now line.pair line.how block ∧ block <:+: trace :=
  l.dispatched_of_mem_settled Pass.orderly_program hr.yields (hr.served.map l.rows h.takes) hl

end Backend.Keeps

end AuditReminder
