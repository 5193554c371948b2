/-
Passes that run at once.

Any number of instances work on one store.  Each starts passes as it likes, with any plan at any
instant, and the operations of all of them follow one another in any order: a `Floor` is the store,
what is left of each instance's pass, and what was done so far.  Between two operations of one
instance the others may do anything a pass can do, so a set of tiers that was read is stale when it
is used, and other programs may change whatever is not a record.  An instance that is never
scheduled again is one that died.

A claim is released without asking whose it is.  What keeps the instances apart is therefore not in
the store but in the order that each keeps with its own claims.  `Sound` says it of the rows, of
what each instance has in hand and of how often each pair was sent:

    in hand     ⟹  a row is there, and nobody else has the pair in hand
    sent        ⟹  a row is there, and nobody has the pair in hand
    always          sent at most once

An instance that releases a pair has it in hand, so the row it removes is its own.

Main statement: `Floor.sent_at_most_once`.
-/
import AuditReminder.Proofs.Pass.Phase
import AuditReminder.Proofs.Store.Stores
import Mathlib.Logic.Function.Basic
import Mathlib.Logic.Relation

namespace AuditReminder

/-! ## Who has which pair in hand -/

section Sound

variable {σ ι : Type} [DecidableEq ι]

/-- Claims, hands and sent pairs agree. -/
structure Sound (l : Ledger σ) (rows : List l.Row) (hand : ι → Option Pair)
    (sends : Pair → Nat) : Prop where
  recorded {i : ι} {p : Pair} : hand i = some p → l.Has rows p
  alone {i j : ι} {p : Pair} : hand i = some p → hand j = some p → i = j
  once (p : Pair) : sends p ≤ 1
  kept {p : Pair} : 0 < sends p → l.Has rows p
  settled {p : Pair} : 0 < sends p → ∀ i, hand i ≠ some p

namespace Sound

variable {l : Ledger σ} {rows : List l.Row} {hand : ι → Option Pair} {sends : Pair → Nat}
  {i : ι} {p : Pair} {now : Instant}

/-- Whoever has something in hand after `i` let go of its pair is not `i`. -/
theorem hand_of_update_none {j : ι} {q : Pair}
    (h : Function.update hand i none j = some q) : j ≠ i ∧ hand j = some q := by
  by_cases hji : j = i
  · subst hji
    simp at h
  · rw [Function.update_of_ne hji] at h
    exact ⟨hji, h⟩

/-- Claiming a free pair. -/
theorem claim (h : Sound l rows hand sends) (hfree : ¬ l.Has rows p) :
    Sound l (rows ++ [l.entry p now]) (Function.update hand i (some p)) sends := by
  -- nobody has `p` in hand, as a pair in hand has a row
  have hother {j : ι} (hj : hand j = some p) : False := hfree (h.recorded hj)
  have hcases {j : ι} {q : Pair} (hj : Function.update hand i (some p) j = some q) :
      (j = i ∧ q = p) ∨ (j ≠ i ∧ hand j = some q) := by
    by_cases hji : j = i
    · subst hji
      rw [Function.update_self] at hj
      exact Or.inl ⟨rfl, (Option.some.inj hj).symm⟩
    · rw [Function.update_of_ne hji] at hj
      exact Or.inr ⟨hji, hj⟩
  constructor
  · intro j q hj
    rw [l.has_append_entry]
    rcases hcases hj with ⟨-, rfl⟩ | ⟨-, hj⟩
    · exact Or.inr rfl
    · exact Or.inl (h.recorded hj)
  · intro j k q hj hk
    rcases hcases hj with ⟨hji, hq⟩ | ⟨-, hj'⟩
    · rcases hcases hk with ⟨hki, -⟩ | ⟨-, hk'⟩
      · exact hji.trans hki.symm
      · exact (hother (hq ▸ hk')).elim
    · rcases hcases hk with ⟨-, hq⟩ | ⟨-, hk'⟩
      · exact (hother (hq ▸ hj')).elim
      · exact h.alone hj' hk'
  · exact h.once
  · intro q hq
    exact l.has_append_entry.mpr (Or.inl (h.kept hq))
  · intro q hq j hj
    rcases hcases hj with ⟨-, rfl⟩ | ⟨-, hj⟩
    · exact hfree (h.kept hq)
    · exact h.settled hq j hj

/-- Letting go of a pair whose row stays. -/
theorem letGo (h : Sound l rows hand sends) :
    Sound l rows (Function.update hand i none) sends where
  recorded hj := h.recorded (hand_of_update_none hj).2
  alone hj hk := h.alone (hand_of_update_none hj).2 (hand_of_update_none hk).2
  once := h.once
  kept := h.kept
  settled hq j hj := h.settled hq j (hand_of_update_none hj).2

/-- Sending the pair in hand. -/
theorem send (h : Sound l rows hand sends) (hi : hand i = some p) :
    Sound l rows (Function.update hand i none)
      (fun q => sends q + if p = q then 1 else 0) := by
  have hunsent : sends p = 0 := Nat.eq_zero_of_not_pos fun hp => h.settled hp i hi
  refine { h.letGo with once := ?_, kept := ?_, settled := ?_ }
  · intro q
    by_cases hq : p = q
    · subst hq
      simp [hunsent]
    · simpa [hq] using h.once q
  · intro q hq
    by_cases hpq : p = q
    · exact hpq ▸ h.recorded hi
    · exact h.kept (by simpa [hpq] using hq)
  · intro q hq j hj
    obtain ⟨hji, hj⟩ := hand_of_update_none hj
    by_cases hpq : p = q
    · exact hji (h.alone hj (hpq ▸ hi))
    · exact h.settled (by simpa [hpq] using hq) j hj

/-- Releasing the pair in hand. -/
theorem release (h : Sound l rows hand sends) (hi : hand i = some p) :
    Sound l (l.without rows p) (Function.update hand i none) sends := by
  refine { h.letGo with recorded := ?_, kept := ?_ }
  · intro j q hj
    obtain ⟨hji, hj⟩ := hand_of_update_none hj
    exact l.has_without.mpr ⟨h.recorded hj, fun hq => hji (h.alone hj (hq ▸ hi))⟩
  · intro q hq
    exact l.has_without.mpr ⟨h.kept hq, fun hqp => h.settled hq i (hqp ▸ hi)⟩

/-- Whatever move an instance makes, claims, hands and sent pairs go on agreeing. -/
theorem move {phase phase' : Phase} {e : Event} {rows' : List l.Row}
    (h : Sound l rows hand sends) (hi : hand i = phase.pair?)
    (hm : l.Moves now phase rows e phase' rows') :
    Sound l rows' (Function.update hand i phase'.pair?)
      (fun q => sends q + if e.isSendOf q then 1 else 0) := by
  -- most moves leave hands, rows and sent pairs as they are
  have quiet : Sound l rows (Function.update hand i phase.pair?) sends := by
    rw [← hi, Function.update_eq_self]
    exact h
  cases hm with
  | noted | listed | read | lost | refused => exact quiet
  | @unsent _ request delivery hfails =>
      cases delivery with
      | renderFailed fault => exact quiet
      | sendFailed fault => exact quiet
      | sent | halted => exact hfails.elim
  | claimed id tier hfree => exact h.claim hfree
  | sent request =>
      have hsend := h.send hi
      simpa only [Event.isSendOf, beq_iff_eq, Phase.pair?] using hsend
  | halted request => exact h.letGo
  | retained id tier fault => exact h.letGo
  | released id tier => exact h.release hi

omit [DecidableEq ι] in
/-- A pair that was sent is left alone by every move, and its rows stay. -/
theorem untouched {phase phase' : Phase} {e : Event} {rows' : List l.Row}
    (h : Sound l rows hand sends) (hi : hand i = phase.pair?)
    (hm : l.Moves now phase rows e phase' rows') (hp : 0 < sends p) :
    l.rowsOf rows' p = l.rowsOf rows p ∧ ¬ e.IsDispatchOf p := by
  have hhand (q : Pair) (hq : hand i = some q) : q ≠ p := fun he => h.settled hp i (he ▸ hq)
  cases hm with
  | noted | listed | read | lost | refused => exact ⟨rfl, id⟩
  | claimed id tier hfree =>
      have hne : p ≠ (id, tier) := fun he => hfree (he ▸ h.kept hp)
      exact ⟨l.rowsOf_append_entry hne, hne.symm⟩
  | sent request | halted request => exact ⟨rfl, hhand _ hi⟩
  | unsent request => exact ⟨rfl, hhand _ hi⟩
  | released id tier => exact ⟨l.rowsOf_without (hhand _ hi).symm, hhand _ hi⟩
  | retained id tier => exact ⟨rfl, hhand _ hi⟩

end Sound

end Sound

/-! ## Instances on one store -/

/-- A store with the instances that work on it. -/
structure Floor (σ ι : Type) where
  store : σ
  /-- What is left of the pass that an instance is in; nothing between two passes. -/
  running : ι → Option (Program (Except PassStop Report))
  /-- What was done and by whom, the earliest first. -/
  history : List (ι × Event)

namespace Floor

variable {σ ι : Type} [DecidableEq ι]

/-- No instance has done anything yet. -/
def idle (s : σ) : Floor σ ι := ⟨s, fun _ => none, []⟩

/-- What an instance did. -/
def eventsOf (floor : Floor σ ι) (i : ι) : List Event :=
  (floor.history.filter fun e => e.1 = i).map Prod.snd

/-- Where an instance stands with its claims. -/
def phase (floor : Floor σ ι) (i : ι) : Phase := (floor.eventsOf i).foldl Phase.after .free

/-- The pair that an instance claimed and whose dispatch has not ended: nothing has been answered
since but deliveries that failed. -/
def hand (floor : Floor σ ι) (i : ι) : Option Pair := (floor.phase i).pair?

/-- How often the pair was sent. -/
def sends (floor : Floor σ ι) (p : Pair) : Nat := floor.history.countP fun e => e.2.isSendOf p

/-- One step: an instance starts a pass, carries out one operation of it or is through with it, or
something that is not a pass changes the store and leaves the records alone. -/
inductive Step (store : SharedStore) (connection : ι → Connection) :
    Floor store.State ι → Floor store.State ι → Prop
  | start {floor : Floor store.State ι} {i : ι} (plan : Plan) (now : Instant) :
      floor.running i = none →
      Step store connection floor
        { floor with running := Function.update floor.running i (some (Pass.program plan now)) }
  | act {floor : Floor store.State ι} {i : ι} {ask : Ask}
      {next : ask.Answer → Program (Except PassStop Report)} {answer : ask.Answer}
      {s : store.State} :
      floor.running i = some (.step ask next) →
      (store.backend (connection i)).Serves floor.store ⟨ask, answer⟩ s →
      Step store connection floor
        ⟨s, Function.update floor.running i (some (next answer)),
          floor.history ++ [(i, ⟨ask, answer⟩)]⟩
  | finish {floor : Floor store.State ι} {i : ι} {result : Except PassStop Report} :
      floor.running i = some (.done result) →
      Step store connection floor
        { floor with running := Function.update floor.running i none }
  | elsewhere {floor : Floor store.State ι} {s : store.State} :
      store.ledger.rows s = store.ledger.rows floor.store →
      Step store connection floor { floor with store := s }

/-- Any number of steps. -/
abbrev Steps (store : SharedStore) (connection : ι → Connection) :
    Floor store.State ι → Floor store.State ι → Prop :=
  Relation.ReflTransGen (Step store connection)

theorem phase_append (floor : Floor σ ι) (s : σ)
    (running : ι → Option (Program (Except PassStop Report))) (i : ι) (e : Event) :
    (⟨s, running, floor.history ++ [(i, e)]⟩ : Floor σ ι).phase
      = Function.update floor.phase i ((floor.phase i).after e) := by
  funext j
  by_cases hji : j = i
  · subst hji
    simp [phase, eventsOf, List.filter_append]
  · have hij : ¬ i = j := fun h => hji h.symm
    simp [phase, eventsOf, List.filter_append, hij, Function.update_of_ne hji]

theorem hand_append (floor : Floor σ ι) (s : σ)
    (running : ι → Option (Program (Except PassStop Report))) (i : ι) (e : Event) :
    (⟨s, running, floor.history ++ [(i, e)]⟩ : Floor σ ι).hand
      = Function.update floor.hand i ((floor.phase i).after e).pair? := by
  funext j
  show ((⟨s, running, floor.history ++ [(i, e)]⟩ : Floor σ ι).phase j).pair? = _
  rw [phase_append]
  exact Function.apply_update (fun _ => Phase.pair?) floor.phase i _ j

omit [DecidableEq ι] in
theorem sends_append (floor : Floor σ ι) (s : σ)
    (running : ι → Option (Program (Except PassStop Report))) (i : ι) (e : Event) :
    (⟨s, running, floor.history ++ [(i, e)]⟩ : Floor σ ι).sends
      = fun p => floor.sends p + if e.isSendOf p then 1 else 0 := by
  funext p
  simp only [sends, List.countP_append, List.countP_singleton]

/-- What is left of a pass is in order with the phase that its instance is in. -/
def InOrder : Option (Program (Except PassStop Report)) → Phase → Prop
  | none, phase => phase = .free
  | some p, phase => ∃ now, p.Orderly now phase

/-- Every instance keeps the order of its claims, and the instances agree with the rows. -/
structure Ordered (store : SharedStore) (floor : Floor store.State ι) : Prop where
  inOrder (i : ι) : InOrder (floor.running i) (floor.phase i)
  sound : Sound store.ledger (store.ledger.rows floor.store) floor.hand floor.sends

variable {store : SharedStore} {connection : ι → Connection} {floor floor' : Floor store.State ι}

theorem ordered_idle (s : store.State) : Ordered store (idle s : Floor store.State ι) where
  inOrder _ := rfl
  sound := {
    recorded := fun h => by cases h
    alone := fun h => by cases h
    once := fun _ => Nat.zero_le 1
    kept := fun h => absurd h (Nat.lt_irrefl 0)
    settled := fun h => absurd h (Nat.lt_irrefl 0) }

/-- When one instance goes on in order, all are still in order. -/
theorem Ordered.inOrder_update (h : Ordered store floor) (i : ι)
    {p : Option (Program (Except PassStop Report))} {phase : Phase} (hi : InOrder p phase) (j : ι) :
    InOrder (Function.update floor.running i p j) (Function.update floor.phase i phase j) := by
  by_cases hji : j = i
  · subst hji
    rwa [Function.update_self, Function.update_self]
  · rw [Function.update_of_ne hji, Function.update_of_ne hji]
    exact h.inOrder j

/-- What is answered to an instance is a move of its phase. -/
theorem Ordered.moves (h : Ordered store floor) {i : ι} {ask : Ask}
    {next : ask.Answer → Program (Except PassStop Report)} {answer : ask.Answer} {s : store.State}
    (hrun : floor.running i = some (.step ask next))
    (hs : (store.backend (connection i)).Serves floor.store ⟨ask, answer⟩ s) :
    ∃ now, (next answer).Orderly now ((floor.phase i).after ⟨ask, answer⟩) ∧
      store.ledger.Moves now (floor.phase i) (store.ledger.rows floor.store) ⟨ask, answer⟩
        ((floor.phase i).after ⟨ask, answer⟩) (store.ledger.rows s) := by
  have hi := h.inOrder i
  rw [hrun] at hi
  obtain ⟨now, hadmits, hnext⟩ := hi
  exact ⟨now, hnext answer, store.ledger.moves_of_admits hadmits ((store.keeps _).takes hs)⟩

theorem ordered_step (h : Ordered store floor) (hstep : Step store connection floor floor') :
    Ordered store floor' := by
  cases hstep with
  | @start i plan now hrun =>
      have hfree : floor.phase i = .free := by
        have hi := h.inOrder i
        rwa [hrun] at hi
      have hi : InOrder (some (Pass.program plan now)) (floor.phase i) :=
        ⟨now, hfree ▸ Pass.orderly_program⟩
      have hall := h.inOrder_update i hi
      rw [Function.update_eq_self] at hall
      exact ⟨hall, h.sound⟩
  | @act i ask next answer s hrun hs =>
      obtain ⟨now, hnext, hmoves⟩ := h.moves hrun hs
      constructor
      · rw [phase_append]
        exact h.inOrder_update i ⟨now, hnext⟩
      · rw [hand_append, sends_append]
        exact h.sound.move rfl hmoves
  | @finish i result hrun =>
      have hfree : InOrder none (floor.phase i) := by
        have hi := h.inOrder i
        rw [hrun] at hi
        obtain ⟨now, hdone⟩ := hi
        exact hdone
      have hall := h.inOrder_update i hfree
      rw [Function.update_eq_self] at hall
      exact ⟨hall, h.sound⟩
  | elsewhere hrows =>
      refine ⟨h.inOrder, ?_⟩
      show Sound store.ledger (store.ledger.rows _) floor.hand floor.sends
      rw [hrows]
      exact h.sound

/-- Whatever the instances do, they stay in order. -/
theorem ordered_steps (h : Ordered store floor) (hsteps : Steps store connection floor floor') :
    Ordered store floor' := by
  induction hsteps with
  | refl => exact h
  | tail _ hstep ih => exact ordered_step ih hstep

/-- Once a pair was sent, its rows stay, and no step is part of a dispatch of it. -/
theorem Ordered.untouched (h : Ordered store floor) {p : Pair} (hp : 0 < floor.sends p)
    (hstep : Step store connection floor floor') :
    store.ledger.rowsOf (store.ledger.rows floor'.store) p
        = store.ledger.rowsOf (store.ledger.rows floor.store) p ∧
      ∃ more, floor'.history = floor.history ++ more ∧ ∀ e ∈ more, ¬ e.2.IsDispatchOf p := by
  cases hstep with
  | start | finish => exact ⟨rfl, [], (List.append_nil _).symm, by simp⟩
  | elsewhere hrows => exact ⟨congrArg (store.ledger.rowsOf · p) hrows, [], by simp⟩
  | act hrun hs =>
      obtain ⟨now, -, hmoves⟩ := h.moves hrun hs
      obtain ⟨hrows, hno⟩ := h.sound.untouched rfl hmoves hp
      exact ⟨hrows, [_], rfl, by simpa using hno⟩

omit [DecidableEq ι] in
theorem sends_mono {more : List (ι × Event)} (h : floor'.history = floor.history ++ more)
    (p : Pair) : floor.sends p ≤ floor'.sends p := by
  rw [sends, sends, h, List.countP_append]
  exact Nat.le_add_right _ _

theorem Ordered.untouched_steps (h : Ordered store floor) {p : Pair} (hp : 0 < floor.sends p)
    (hsteps : Steps store connection floor floor') :
    store.ledger.rowsOf (store.ledger.rows floor'.store) p
        = store.ledger.rowsOf (store.ledger.rows floor.store) p ∧
      ∃ more, floor'.history = floor.history ++ more ∧ ∀ e ∈ more, ¬ e.2.IsDispatchOf p := by
  induction hsteps with
  | refl => exact ⟨rfl, [], (List.append_nil _).symm, by simp⟩
  | @tail middle last hmiddle hlast ih =>
      obtain ⟨hrows, more, hmore, hno⟩ := ih
      have hsent : 0 < middle.sends p := Nat.lt_of_lt_of_le hp (sends_mono hmore p)
      obtain ⟨hrows', more', hmore', hno'⟩ := (ordered_steps h hmiddle).untouched hsent hlast
      refine ⟨hrows'.trans hrows, more ++ more', ?_, ?_⟩
      · rw [hmore', hmore, List.append_assoc]
      · intro e he
        rcases List.mem_append.mp he with he | he
        · exact hno e he
        · exact hno' e he

/-- However the operations of any number of instances follow one another: a pair is sent at most
once, at most one instance at a time has it in hand and its row is there meanwhile, and from when it
was sent on its rows stay and nobody takes it up again. -/
theorem sent_at_most_once {s : store.State} (h : Steps store connection (idle s) floor) (p : Pair) :
    floor.sends p ≤ 1 ∧
      (∀ i j, floor.hand i = some p → floor.hand j = some p → i = j) ∧
      (∀ i, floor.hand i = some p → store.ledger.Has (store.ledger.rows floor.store) p) ∧
      (0 < floor.sends p →
        store.ledger.Has (store.ledger.rows floor.store) p ∧
        (∀ i, floor.hand i ≠ some p) ∧
        ∀ later, Steps store connection floor later →
          store.ledger.rowsOf (store.ledger.rows later.store) p
              = store.ledger.rowsOf (store.ledger.rows floor.store) p ∧
            ∃ more, later.history = floor.history ++ more ∧
              ∀ e ∈ more, ¬ e.2.IsDispatchOf p) := by
  have hordered := ordered_steps (ordered_idle s) h
  refine ⟨hordered.sound.once p, ?_, ?_, ?_⟩
  · intro i j hi hj
    exact hordered.sound.alone hi hj
  · intro i hi
    exact hordered.sound.recorded hi
  · intro hp
    refine ⟨hordered.sound.kept hp, hordered.sound.settled hp, ?_⟩
    intro later hlater
    exact hordered.untouched_steps hp hlater

/-- Two instances read that nothing was sent; one sends, and the claim of the other is lost. -/
theorem sent_once_after_stale_read :
    ∃ floor : Floor Memory Bool,
      Steps .memory (fun _ => 0) (idle .sample) floor ∧
        (false, ⟨.claim "a" "14d" .epoch, .ok false⟩) ∈ floor.history ∧
        floor.sends ("a", "14d") = 1 ∧
        Memory.ledger.Has floor.store.records ("a", "14d") ∧
        ∀ later, Steps .memory (fun _ => 0) floor later →
          Memory.ledger.rowsOf later.store.records ("a", "14d")
            = Memory.ledger.rowsOf floor.store.records ("a", "14d") := by
  have h0 : Steps .memory (fun _ => 0) (idle .sample) (idle .sample : Floor Memory Bool) := .refl
  have h1 := h0.tail (.start (i := false) .default .epoch rfl)
  have h2 := h1.tail (.act (i := false) rfl (.noted _))
  have h3 := h2.tail (.act (i := false) rfl (.listed (.ok [.sample])))
  have h4 := h3.tail (.act (i := false) rfl (.read _ (.ok .empty)))
  have h5 := h4.tail (.start (i := true) .default .epoch rfl)
  have h6 := h5.tail (.act (i := true) rfl (.noted _))
  have h7 := h6.tail (.act (i := true) rfl (.listed (.ok [.sample])))
  have h8 := h7.tail (.act (i := true) rfl (.read _ (.ok .empty)))
  have h9 := h8.tail (.act (i := true) rfl (.claimed _ _ _))
  have h10 := h9.tail (.act (i := true) rfl (.delivered _ .sent))
  have h11 := h10.tail (.act (i := false) rfl (.claimed _ _ _))
  obtain ⟨-, -, -, hkept⟩ := sent_at_most_once h11 ("a", "14d")
  obtain ⟨hhas, -, hlater⟩ := hkept Nat.one_pos
  exact ⟨_, h11, List.mem_append_right _ List.mem_cons_self, rfl, hhas,
    fun later h => (hlater later h).1⟩

end Floor

end AuditReminder
