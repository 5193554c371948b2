/-
Audits apart from each other.

A pass handles its audits one after the other, over one table of records that each of them reads,
adds to and removes from.  What becomes of an audit depends on this audit alone all the same:

    rows of the audit     all that is read, claimed and released for it (`Ask.IsFor`)
    rows of the others    not read and not changed

Two stores are `Alike` for an audit when they hold the same rows of it.  Whatever else they hold, an
operation for the audit is answered alike on both and leaves them alike
(`Surroundings.handler_alike`), and so does a whole scan of the audit.  The rows of the others are
not touched (`Surroundings.handler_frame`).  So a pass over a listing falls apart into the passes
over each audit of it alone, each on the store with the rows of this audit and no others.

`Surroundings` are what a pass meets besides the store: how requests are rendered and sent, and
which claims cannot be given back.  They may fail in any pattern, but by the request alone.  The
listing is free as well; where it is the store's own and every claim can be given back, the pass is
the plain one over the store (`Surroundings.pass_eq_run`).

Main statement: `Surroundings.separate`.
-/
import AuditReminder.Proofs.Pass.Account
import AuditReminder.Proofs.Pass.Requests
import AuditReminder.Proofs.Store.Ready
import Mathlib.Algebra.GroupWithZero.Nat
import Mathlib.Data.List.Nodup

namespace AuditReminder

/-! ## Surroundings -/

/-- What a pass meets besides the store. -/
structure Surroundings (ω : Type) where
  render : Request → Except RenderFault Notice
  send : SendMessage ω
  /-- What the sender answers depends on the message alone. -/
  steady (m : Message) (out out' : ω) : (send m out).1 = (send m out').1
  /-- The claims that cannot be given back. -/
  refuses : Pair → Option StoreFault

/-- The backend with a listing of its own, that refuses some releases. -/
def Backend.arranged {σ : Type} (b : Backend σ) (audits : List Audit)
    (refuses : Pair → Option StoreFault) : Backend σ where
  listOpen _ := .ok audits
  sentTiers := b.sentTiers
  claim := b.claim
  release s id tier :=
    match refuses (id, tier) with
    | some fault => (.error fault, s)
    | none => b.release s id tier

namespace Surroundings

variable {ω ω' : Type} (env : Surroundings ω) (env' : Surroundings ω')

def renderer : RenderNotice := fun request => (env.render request).mapError .fault

/-- How a request ends. -/
def delivery (request : Request) (out : ω) : Delivery :=
  ((Pass.deliver (m := StateM ω) env.renderer env.send request).run out).1

/-- Requests of the audit end alike in both, and the same of its claims can be given back. -/
structure AgreeOn (audit : Audit) : Prop where
  delivery (request : Request) : request.group = audit.group →
    ∀ out out', env.delivery request out = env'.delivery request out'
  refuses (tier : String) : env.refuses (audit.id, tier) = env'.refuses (audit.id, tier)

variable {env env'}

theorem delivery_steady (request : Request) (out out' : ω) :
    env.delivery request out = env.delivery request out' := by
  unfold delivery
  rw [Pass.deliver_run, Pass.deliver_run]
  rcases env.renderer request with stop | notice
  · cases stop <;> rfl
  · have hsteady := env.steady ⟨request.owners, notice.subject, notice.body⟩ out out'
    dsimp only
    generalize env.send ⟨request.owners, notice.subject, notice.body⟩ out = sent at hsteady ⊢
    generalize env.send ⟨request.owners, notice.subject, notice.body⟩ out' = sent' at hsteady ⊢
    obtain ⟨answer, after⟩ := sent
    obtain ⟨answer', after'⟩ := sent'
    obtain rfl : answer = answer' := hsteady
    cases answer <;> rfl

theorem agreeOn_self (audit : Audit) : env.AgreeOn env audit :=
  ⟨fun request _ => delivery_steady request, fun _ => rfl⟩

/-- A renderer that returns does not halt a pass. -/
theorem delivery_ne_halted (request : Request) (out : ω) :
    env.delivery request out ≠ .halted := by
  unfold delivery renderer
  rw [Pass.deliver_run]
  rcases env.render request with fault | notice
  · exact nofun
  · rcases hs : env.send ⟨request.owners, notice.subject, notice.body⟩ out with ⟨answer, after⟩
    cases answer <;> simp [Except.mapError, hs]

end Surroundings

/-! ## Stores that are alike for an audit -/

namespace ReadyStore

variable (store : ReadyStore) {s t : store.State} {id other : AuditId}

/-- Both are ready, and hold the same rows of the audit. -/
structure Alike (id : AuditId) (s t : store.State) : Prop where
  left : store.Ready s
  right : store.Ready t
  rows : store.ledger.rowsFor (store.rows s) id = store.ledger.rowsFor (store.rows t) id

variable {store}

theorem Alike.has_iff (h : store.Alike id s t) (tier : String) :
    store.ledger.Has (store.rows s) (id, tier) ↔ store.ledger.Has (store.rows t) (id, tier) := by
  have hid : (id, tier).1 = id := rfl
  rw [← store.ledger.has_rowsFor hid, h.rows, store.ledger.has_rowsFor hid]

theorem Alike.sentTiers (h : store.Alike id s t) :
    store.backend.sentTiers s id = store.backend.sentTiers t id := by
  obtain ⟨sent, hsent⟩ := store.sentTiers_ok h.left id
  obtain ⟨sent', hsent'⟩ := store.sentTiers_ok h.right id
  rw [hsent, hsent']
  refine congrArg Except.ok (NameSet.eq_of_mem_iff fun tier => ?_)
  rw [store.shows.sentTiers hsent, store.shows.sentTiers hsent', h.has_iff]

theorem Alike.claim (h : store.Alike id s t) (tier : String) (now : Instant) :
    (store.backend.claim s id tier now).1 = (store.backend.claim t id tier now).1 ∧
      store.Alike id (store.backend.claim s id tier now).2
        (store.backend.claim t id tier now).2 := by
  obtain ⟨claimed, s', hs, hready⟩ := store.claim_ok h.left id tier now
  obtain ⟨claimed', t', ht, hready'⟩ := store.claim_ok h.right id tier now
  simp only [hs, ht]
  cases claimed with
  | false =>
      obtain ⟨hhas, hrows⟩ := store.keeps.claim_false hs
      cases claimed' with
      | false =>
          obtain ⟨-, hrows'⟩ := store.keeps.claim_false ht
          refine ⟨rfl, hready, hready', ?_⟩
          rw [RecordStore.rows, RecordStore.rows, hrows, hrows', h.rows]
      | true => exact ((store.keeps.claim_true ht).1 ((h.has_iff tier).mp hhas)).elim
  | true =>
      obtain ⟨hfree, hrows⟩ := store.keeps.claim_true hs
      cases claimed' with
      | false => exact (hfree ((h.has_iff tier).mpr (store.keeps.claim_false ht).1)).elim
      | true =>
          obtain ⟨-, hrows'⟩ := store.keeps.claim_true ht
          refine ⟨rfl, hready, hready', ?_⟩
          rw [RecordStore.rows, RecordStore.rows, hrows, hrows', store.ledger.rowsFor_append_entry,
            h.rows, ← store.ledger.rowsFor_append_entry]

theorem Alike.release (h : store.Alike id s t) (tier : String) :
    (store.backend.release s id tier).1 = (store.backend.release t id tier).1 ∧
      store.Alike id (store.backend.release s id tier).2
        (store.backend.release t id tier).2 := by
  obtain ⟨s', hs, hready⟩ := store.release_ok h.left id tier
  obtain ⟨t', ht, hready'⟩ := store.release_ok h.right id tier
  simp only [hs, ht]
  refine ⟨trivial, hready, hready', ?_⟩
  rw [RecordStore.rows, RecordStore.rows, store.keeps.release_ok hs, store.keeps.release_ok ht,
    store.ledger.rowsFor_without, h.rows, ← store.ledger.rowsFor_without]

/-- A claim for an audit leaves the store alike for all others. -/
theorem alike_claim (h : store.Ready s) (tier : String) (now : Instant) (hne : id ≠ other) :
    store.Alike other s (store.backend.claim s id tier now).2 := by
  obtain ⟨claimed, s', hs, hready⟩ := store.claim_ok h id tier now
  rw [hs]
  refine ⟨h, hready, ?_⟩
  cases claimed with
  | false => rw [RecordStore.rows, RecordStore.rows, (store.keeps.claim_false hs).2]
  | true =>
      rw [RecordStore.rows, RecordStore.rows, (store.keeps.claim_true hs).2,
        store.ledger.rowsFor_append_entry, if_neg hne, List.append_nil]

theorem alike_release (h : store.Ready s) (tier : String) (hne : id ≠ other) :
    store.Alike other s (store.backend.release s id tier).2 := by
  obtain ⟨s', hs, hready⟩ := store.release_ok h id tier
  rw [hs]
  refine ⟨h, hready, ?_⟩
  rw [RecordStore.rows, RecordStore.rows, store.keeps.release_ok hs,
    store.ledger.rowsFor_without_other hne]

theorem alike_self (h : store.Ready s) : store.Alike id s s := ⟨h, h, rfl⟩

theorem Alike.trans {u : store.State} (h : store.Alike id s t) (h' : store.Alike id t u) :
    store.Alike id s u :=
  ⟨h.left, h'.right, h.rows.trans h'.rows⟩

/-- A store is alike for an audit when all other rows are taken out of it. -/
theorem alike_narrow (h : store.Ready s) : store.Alike id s (store.narrow s id) := by
  refine ⟨h, store.ready_narrow h, ?_⟩
  rw [RecordStore.rows, RecordStore.rows, store.rows_narrow h, store.ledger.rowsFor_rowsFor]

end ReadyStore

/-! ## One operation -/

namespace Surroundings

variable {ω ω' : Type} (env : Surroundings ω) {env' : Surroundings ω'} (store : ReadyStore)
  {plan : Plan} {now : Instant} {audit : Audit} {other : AuditId}

/-- Answers the operations of a pass over some audits. -/
def handler (audits : List Audit) : Program.Handler (Scene store.State ω) :=
  Pass.handler (store.backend.arranged audits env.refuses) env.renderer env.send

variable {env store} {scene : Scene store.State ω} {scene' : Scene store.State ω'}
  {audits audits' : List Audit}

/-- An operation for an audit is answered by the rows of this audit. -/
theorem handler_alike (hagree : env.AgreeOn env' audit) {ask : Ask}
    (hfor : ask.IsFor plan now audit) (h : store.Alike audit.id scene.store scene'.store) :
    (env.handler store audits ask scene).1 = (env'.handler store audits' ask scene').1 ∧
      store.Alike audit.id (env.handler store audits ask scene).2.store
        (env'.handler store audits' ask scene').2.store := by
  cases ask with
  | listOpen => exact hfor.elim
  | note event => exact ⟨rfl, h⟩
  | sentTiers id =>
      obtain rfl : id = audit.id := hfor
      exact ⟨h.sentTiers, h⟩
  | claim id tier instant =>
      obtain rfl : id = audit.id := hfor.1
      exact h.claim tier instant
  | deliver request =>
      obtain ⟨tier, -, rfl⟩ := hfor
      exact ⟨hagree.delivery _ rfl _ _, h⟩
  | release id tier =>
      obtain rfl : id = audit.id := hfor
      simp only [handler, Pass.handler, Backend.arranged, hagree.refuses]
      cases env'.refuses (audit.id, tier) with
      | none => exact h.release tier
      | some fault => exact ⟨rfl, h⟩

/-- An operation for an audit leaves the store alike for all others. -/
theorem handler_frame {ask : Ask} (hfor : ask.IsFor plan now audit) (hne : audit.id ≠ other)
    (h : store.Ready scene.store) :
    store.Alike other scene.store (env.handler store audits ask scene).2.store := by
  cases ask with
  | listOpen => exact hfor.elim
  | note | sentTiers | deliver => exact ReadyStore.alike_self h
  | claim id tier instant =>
      obtain rfl : id = audit.id := hfor.1
      exact ReadyStore.alike_claim h tier instant hne
  | release id tier =>
      obtain rfl : id = audit.id := hfor
      simp only [handler, Pass.handler, Backend.arranged]
      cases env.refuses (audit.id, tier) with
      | none => exact ReadyStore.alike_release h tier hne
      | some fault => exact ReadyStore.alike_self h

variable (env audits) in
/-- A ready store stops no pass, and stays ready. -/
theorem handler_goes_on (ask : Ask) (h : store.Ready scene.store) :
    (⟨ask, (env.handler store audits ask scene).1⟩ : Event).stop? = none ∧
      store.Ready (env.handler store audits ask scene).2.store := by
  cases ask with
  | listOpen | note => exact ⟨rfl, h⟩
  | sentTiers id =>
      obtain ⟨sent, hsent⟩ := store.sentTiers_ok h id
      refine ⟨?_, h⟩
      show (⟨.sentTiers id, store.backend.sentTiers scene.store id⟩ : Event).stop? = none
      rw [hsent]
      rfl
  | claim id tier now =>
      obtain ⟨claimed, s', hclaim, hready⟩ := store.claim_ok h id tier now
      simp only [handler, Pass.handler, Backend.arranged, hclaim]
      exact ⟨rfl, hready⟩
  | deliver request =>
      refine ⟨?_, h⟩
      have hgoes := env.delivery_ne_halted request scene.out
      show (⟨.deliver request, env.delivery request scene.out⟩ : Event).stop? = none
      cases hd : env.delivery request scene.out with
      | halted => exact (hgoes hd).elim
      | sent | renderFailed | sendFailed => rfl
  | release id tier =>
      obtain ⟨s', hrelease, hready⟩ := store.release_ok h id tier
      simp only [handler, Pass.handler, Backend.arranged]
      cases env.refuses (id, tier) with
      | none => exact ⟨rfl, by rwa [hrelease]⟩
      | some fault => exact ⟨rfl, h⟩

end Surroundings

/-! ## One scan after another -/

/-- Adds what a report tells to what was told before. -/
def Report.add (first rest : Report) : Report :=
  ⟨first.ranAt, first.scanned + rest.scanned, first.expired + rest.expired,
    first.outcomes ++ rest.outcomes⟩

/-- What the reports on some audits come to. -/
def Report.total (ranAt : Instant) (audits : List Audit) (reports : Audit → Report) : Report :=
  ⟨ranAt, (audits.map fun audit => (reports audit).scanned).sum,
    (audits.map fun audit => (reports audit).expired).sum,
    audits.flatMap fun audit => (reports audit).outcomes⟩

namespace Report

variable {now : Instant} {audits : List Audit} {reports : Audit → Report}

theorem add_start (report : Report) : report.add (.start now) = report := by
  simp [add, start]

theorem add_total_nil (report : Report) : report.add (total now [] reports) = report := by
  simp [add, total]

theorem start_add_total :
    (start now).add (total now audits reports) = total now audits reports := by
  simp [add, start, total]

theorem add_total_cons (first : Report) (audit : Audit) :
    (first.add (reports audit)).add (total now audits reports)
      = first.add (total now (audit :: audits) reports) := by
  simp [add, total, Nat.add_assoc]

end Report

theorem Program.bind_bind {α β γ : Type} (p : Program α) (f : α → Program β)
    (g : β → Program γ) : (p.bind f).bind g = p.bind fun v => (f v).bind g := by
  induction p with
  | done v => rfl
  | step ask next ih => exact congrArg (Program.step ask) (funext ih)

namespace Pass

open Program

variable (plan : Plan) (now : Instant)

/-- A scan goes on with a report where another scan left it. -/
theorem scan_cons (report : Report) (audit : Audit) (rest : List Audit) :
    scan plan now report (audit :: rest)
      = (scan plan now report [audit]).bind fun
          | .error stop => .done (.error stop)
          | .ok report => scan plan now report rest := by
  rw [scan, scan]
  split
  · rfl
  · split
    · rfl
    · refine Eq.trans ?_ (bind_bind _ _ _).symm
      refine congrArg (Program.bind _) (funext fun result => ?_)
      cases result <;> rfl

/-- What was told before stands before what a scan adds. -/
theorem scan_add (first report : Report) (audits : List Audit) :
    scan plan now (first.add report) audits
      = (scan plan now report audits).bind fun result => .done (result.map first.add) := by
  induction audits generalizing report with
  | nil => rfl
  | cons audit rest ih =>
      rw [scan, scan]
      split
      · exact ih report
      · split
        · refine Eq.trans ?_ (bind_bind _ _ _).symm
          exact congrArg (Program.bind _)
            (funext fun _ => ih { report with expired := report.expired + 1 })
        · refine Eq.trans ?_ (bind_bind _ _ _).symm
          refine congrArg (Program.bind _) (funext fun result => ?_)
          rcases result with stop | outcomes
          · rfl
          · refine Eq.trans ?_ (ih _)
            simp only [Report.add, Nat.add_assoc, List.append_assoc]

end Pass

namespace Surroundings

variable {ω ω' : Type} {env : Surroundings ω} {env' : Surroundings ω'} {store : ReadyStore}
  {plan : Plan} {now : Instant} {audit : Audit} {audits audits' : List Audit}
  {scene : Scene store.State ω} {scene' : Scene store.State ω'}

theorem asks_scan_one (report : Report) :
    (Pass.scan plan now report [audit]).Asks (Ask.IsFor plan now audit) := by
  refine Pass.asks_scan report (fun other hother _ _ ask hfor => ?_) fun _ => trivial
  obtain rfl := List.mem_singleton.mp hother
  exact hfor

/-- A scan that starts with a report adds what it tells to it. -/
theorem scan_from_start {report : Report} {after : Scene store.State ω}
    (h : (Pass.scan plan now (.start now) audits').run (env.handler store audits) scene
      = (.ok report, after)) (first : Report) :
    (Pass.scan plan now first audits').run (env.handler store audits) scene
      = (.ok (first.add report), after) := by
  have hadd := Pass.scan_add plan now first (.start now) audits'
  rw [Report.add_start] at hadd
  rw [hadd, Program.run_bind, h]
  rfl

variable (env env' plan now audits audits')

/-- A scan of one audit comes to the same on stores that are alike for it. -/
theorem scan_alike (hagree : env.AgreeOn env' audit)
    (h : store.Alike audit.id scene.store scene'.store) (report : Report) :
    ((Pass.scan plan now report [audit]).run (env.handler store audits) scene).1
        = ((Pass.scan plan now report [audit]).run (env'.handler store audits') scene').1 ∧
      store.Alike audit.id
        ((Pass.scan plan now report [audit]).run (env.handler store audits) scene).2.store
        ((Pass.scan plan now report [audit]).run (env'.handler store audits') scene').2.store :=
  Program.run_related
    (R := fun (scene : Scene store.State ω) (scene' : Scene store.State ω') =>
      store.Alike audit.id scene.store scene'.store)
    (fun _ hfor _ _ hs => handler_alike hagree hfor hs) (asks_scan_one report) h

/-- A scan of one audit leaves the store alike for all others. -/
theorem scan_frame (h : store.Ready scene.store) (report : Report) {other : AuditId}
    (hne : audit.id ≠ other) :
    store.Alike other scene.store
      ((Pass.scan plan now report [audit]).run (env.handler store audits) scene).2.store :=
  Program.run_invariant (I := fun reached : Scene store.State ω =>
      store.Alike other scene.store reached.store)
    (fun _ hfor _ hs => hs.trans (handler_frame hfor hne hs.right)) (asks_scan_one report)
    (ReadyStore.alike_self h)

/-- A scan over a ready store is through. -/
theorem scan_through (h : store.Ready scene.store) (report : Report) :
    ∃ final after, (Pass.scan plan now report audits').run (env.handler store audits) scene
      = (.ok final, after) ∧ store.Ready after.store := by
  have hasks : (Pass.scan plan now report audits').Asks fun _ => True :=
    Pass.asks_scan report (fun _ _ _ _ _ _ => trivial) fun _ => trivial
  have hready := Program.run_invariant (I := fun reached : Scene store.State ω =>
      store.Ready reached.store)
    (fun ask _ _ hs => (env.handler_goes_on audits ask hs).2) hasks h
  have hevents := Program.forall_mem_trace (I := fun reached : Scene store.State ω =>
      store.Ready reached.store) (E := fun e => e.stop? = none)
    (fun ask _ _ hs => env.handler_goes_on audits ask hs) hasks h
  obtain ⟨hstops, -⟩ := Pass.scan_yields
    (Program.yields_trace (env.handler store audits) (Pass.scan plan now report audits') scene)
  rw [stops, List.filterMap_eq_nil_iff.mpr hevents] at hstops
  rcases hrun : (Pass.scan plan now report audits').run (env.handler store audits) scene with
    ⟨stop | final, after⟩
  · rw [hrun] at hstops
    cases hstops
  · rw [hrun] at hready
    exact ⟨final, after, rfl, hready⟩

/-- Scanned one after the other, audits come to what each of them comes to at the start. -/
theorem scan_total {start : Scene store.State ω} {reports : Audit → Report}
    {ends : Audit → Scene store.State ω} (hids : (audits'.map Audit.id).Nodup)
    (halone : ∀ audit ∈ audits', (Pass.scan plan now (.start now) [audit]).run
      (env.handler store audits) start = (.ok (reports audit), ends audit))
    (hready : store.Ready scene.store)
    (halike : ∀ audit ∈ audits', store.Alike audit.id start.store scene.store) (first : Report) :
    ∃ after, (Pass.scan plan now first audits').run (env.handler store audits) scene
        = (.ok (first.add (.total now audits' reports)), after) ∧
      (∀ audit ∈ audits', store.Alike audit.id (ends audit).store after.store) ∧
      ∀ id, id ∉ audits'.map Audit.id → store.Alike id scene.store after.store := by
  induction audits' generalizing scene first with
  | nil =>
      refine ⟨scene, ?_, fun audit ha => absurd ha List.not_mem_nil,
        fun _ _ => ReadyStore.alike_self hready⟩
      rw [Report.add_total_nil]
      rfl
  | cons audit rest ih =>
      rw [List.map_cons, List.nodup_cons] at hids
      have hother (a : Audit) (ha : a ∈ rest) : audit.id ≠ a.id :=
        fun he => hids.1 (he ▸ List.mem_map_of_mem ha)
      -- the first audit, from where the scan is now instead of from the start
      obtain ⟨hresult, hends⟩ := scan_alike env env plan now audits audits (agreeOn_self audit)
        (halike audit List.mem_cons_self) (.start now)
      have hframe (other : AuditId) (hne : audit.id ≠ other) :=
        scan_frame env plan now audits hready (.start now) hne
      rcases hscan : (Pass.scan plan now (.start now) [audit]).run (env.handler store audits) scene
        with ⟨result, after₁⟩
      rw [halone audit List.mem_cons_self, hscan] at hresult hends
      simp only [hscan] at hframe
      obtain rfl : .ok (reports audit) = result := hresult
      -- and then the others
      obtain ⟨after, hrun, hrest, hunlisted⟩ := ih hids.2
        (fun a ha => halone a (List.mem_cons_of_mem _ ha)) hends.right
        (fun a ha => (halike a (List.mem_cons_of_mem _ ha)).trans (hframe a.id (hother a ha)))
        (first.add (reports audit))
      refine ⟨after, ?_, ?_, ?_⟩
      · rw [Pass.scan_cons, Program.run_bind, scan_from_start hscan first]
        exact hrun.trans (by rw [Report.add_total_cons])
      · rintro a ha
        rcases List.mem_cons.mp ha with rfl | ha
        · exact hends.trans (hunlisted a.id hids.1)
        · exact hrest a ha
      · intro id hid
        rw [List.map_cons, List.mem_cons, not_or] at hid
        exact (hframe id (Ne.symm hid.1)).trans (hunlisted id hid.2)

end Surroundings

/-! ## Passes -/

namespace Surroundings

section Passes

variable {ω ω' : Type} (env : Surroundings ω) {env' : Surroundings ω'} (store : ReadyStore)
  (plan : Plan) (now : Instant)

/-- A pass over a listing. -/
def pass (audits : List Audit) (scene : Scene store.State ω) :
    Except PassStop Report × Scene store.State ω :=
  Pass.run (store.backend.arranged audits env.refuses) env.renderer env.send plan now scene

variable {env store plan now} {audits : List Audit} {audit : Audit}
  {scene : Scene store.State ω} {scene' : Scene store.State ω'}

/-- The scene after the first note of a pass. -/
def noted (now : Instant) (scene : Scene store.State ω) : Scene store.State ω :=
  { scene with events := scene.events ++ [.started now] }

/-- A pass tells what its scan tells, and leaves the store as the scan does. -/
theorem pass_of_scan {report : Report} {after : Scene store.State ω}
    (h : (Pass.scan plan now (.start now) audits).run (env.handler store audits)
      (noted now scene) = (.ok report, after)) :
    (env.pass store plan now audits scene).1 = .ok report ∧
      (env.pass store plan now audits scene).2.store = after.store := by
  have hrun : env.pass store plan now audits scene = _ := Pass.run_of_scan rfl h
  rw [hrun]
  exact ⟨rfl, rfl⟩

/-- A pass over what the store lists, when no release is refused, is a pass over the store. -/
theorem pass_eq_run (hready : store.Ready scene.store)
    (hlisted : store.backend.listOpen scene.store = .ok audits)
    (hreleases : ∀ p, env.refuses p = none) :
    env.pass store plan now audits scene
      = Pass.run store.backend env.renderer env.send plan now scene := by
  -- but for the listing the two answer alike, and a scan does not list
  have hanswer (ask : Ask) (hask : ask ≠ .listOpen) (s t : Scene store.State ω) (hst : s = t) :
      (env.handler store audits ask s).1
          = (Pass.handler store.backend env.renderer env.send ask t).1 ∧
        (env.handler store audits ask s).2
          = (Pass.handler store.backend env.renderer env.send ask t).2 := by
    subst hst
    cases ask with
    | listOpen => exact (hask rfl).elim
    | sentTiers | claim | deliver | note => exact ⟨rfl, rfl⟩
    | release id tier =>
        simp only [handler, Pass.handler, Backend.arranged, hreleases]
        exact ⟨rfl, trivial⟩
  have hasks : (Pass.scan plan now (.start now) audits).Asks fun ask => ask ≠ .listOpen := by
    refine Pass.asks_scan _ (fun _ _ _ _ ask hfor => ?_) fun _ => Ask.noConfusion
    rintro rfl
    exact hfor.elim
  obtain ⟨hresult, hafter⟩ := Program.run_related (R := Eq) hanswer hasks
    (s := noted now scene) rfl
  have hnoted : store.Ready (noted now scene).store := hready
  obtain ⟨report, after, hscan, -⟩ := scan_through env plan now audits audits hnoted (.start now)
  have hscan' := (Prod.ext hresult hafter).symm.trans hscan
  have hpass : env.pass store plan now audits scene = _ := Pass.run_of_scan rfl hscan
  exact hpass.trans (Pass.run_of_scan hlisted hscan').symm

variable (plan now) in
/-- A pass over one audit comes to the same on stores that are alike for it. -/
theorem pass_alike (hagree : env.AgreeOn env' audit)
    (h : store.Alike audit.id scene.store scene'.store) :
    (env.pass store plan now [audit] scene).1 = (env'.pass store plan now [audit] scene').1 ∧
      store.Alike audit.id (env.pass store plan now [audit] scene).2.store
        (env'.pass store plan now [audit] scene').2.store := by
  have hnoted : store.Alike audit.id (noted now scene).store (noted now scene').store := h
  obtain ⟨hsame, hends⟩ := scan_alike env env' plan now [audit] [audit] hagree hnoted (.start now)
  obtain ⟨report, after, hscan, -⟩ := scan_through env plan now [audit] [audit] hnoted.left
    (.start now)
  obtain ⟨report', after', hscan', -⟩ := scan_through env' plan now [audit] [audit] hnoted.right
    (.start now)
  rw [hscan, hscan'] at hsame hends
  obtain ⟨hresult, hstore⟩ := pass_of_scan hscan
  obtain ⟨hresult', hstore'⟩ := pass_of_scan hscan'
  rw [hresult, hresult', hstore, hstore']
  exact ⟨hsame, hends⟩

/-- The scene with the records of one audit alone. -/
def narrowed (scene : Scene store.State ω) (id : AuditId) : Scene store.State ω :=
  { scene with store := store.narrow scene.store id }

variable (env plan now audit) in
/-- A pass over one audit alone comes to a report, and all its records are of this audit. -/
theorem pass_narrowed (h : store.Ready scene.store) :
    (∃ report, (env.pass store plan now [audit] (narrowed scene audit.id)).1 = .ok report) ∧
      ∀ row ∈ store.rows (env.pass store plan now [audit] (narrowed scene audit.id)).2.store,
        (store.ledger.pair row).1 = audit.id := by
  have hready : store.Ready (noted now (narrowed scene audit.id)).store := store.ready_narrow h
  obtain ⟨report, after, hscan, -⟩ := scan_through env plan now [audit] [audit] hready (.start now)
  obtain ⟨hresult, hstore⟩ := pass_of_scan hscan
  refine ⟨⟨report, hresult⟩, fun row hrow => ?_⟩
  rw [hstore] at hrow
  by_contra hne
  -- a row of another audit was there before, and there was none
  have hframe := scan_frame env plan now [audit] hready (.start now) (Ne.symm hne)
  rw [hscan] at hframe
  have hbefore := store.ledger.mem_rowsFor.mpr ⟨hrow, rfl⟩
  rw [← hframe.rows] at hbefore
  have hnarrow := (store.ledger.mem_rowsFor.mp hbefore).1
  change row ∈ store.ledger.rows (store.narrow scene.store audit.id) at hnarrow
  rw [store.rows_narrow h] at hnarrow
  exact hne (store.ledger.mem_rowsFor.mp hnarrow).2

variable (env store plan now)

/-- A pass over a listing comes to the passes over each of its audits alone, and `reports` are what
these tell. -/
structure Splits (audits : List Audit) (scene : Scene store.State ω) (reports : Audit → Report) :
    Prop where
  whole : (env.pass store plan now audits scene).1 = .ok (.total now audits reports)
  alone : ∀ audit ∈ audits,
    (env.pass store plan now [audit] (narrowed scene audit.id)).1 = .ok (reports audit)
  rows : ∀ audit ∈ audits,
    store.ledger.rowsFor (store.rows (env.pass store plan now audits scene).2.store) audit.id
      = store.rows (env.pass store plan now [audit] (narrowed scene audit.id)).2.store
  unlisted : ∀ id, id ∉ audits.map Audit.id →
    store.ledger.rowsFor (store.rows (env.pass store plan now audits scene).2.store) id
      = store.ledger.rowsFor (store.rows scene.store) id

variable {env store plan now}

theorem splits {reports : Audit → Report} (hids : (audits.map Audit.id).Nodup)
    (hready : store.Ready scene.store)
    (halone : ∀ audit ∈ audits,
      (env.pass store plan now [audit] (narrowed scene audit.id)).1 = .ok (reports audit)) :
    env.Splits store plan now audits scene reports := by
  have hnoted : store.Ready (noted now scene).store := hready
  choose told ends hscans _ using fun audit : Audit =>
    scan_through env plan now audits [audit] hnoted (.start now)
  -- what an audit comes to among the others is what it comes to alone
  have hnarrow (audit : Audit) (ha : audit ∈ audits) :
      told audit = reports audit ∧ store.Alike audit.id (ends audit).store
        (env.pass store plan now [audit] (narrowed scene audit.id)).2.store := by
    have halike : store.Alike audit.id (noted now scene).store
        (noted now (narrowed scene audit.id)).store := ReadyStore.alike_narrow hready
    obtain ⟨hsame, hends⟩ := scan_alike env env plan now audits [audit] (agreeOn_self audit) halike
      (.start now)
    obtain ⟨report, after, hscan, -⟩ := scan_through env plan now [audit] [audit] halike.right
      (.start now)
    obtain ⟨hresult, hstore⟩ := pass_of_scan hscan
    rw [hscans audit, hscan] at hsame hends
    rw [halone audit ha] at hresult
    rw [hstore]
    exact ⟨Except.ok.inj (hsame.trans hresult.symm), hends⟩
  have htold (audit : Audit) (ha : audit ∈ audits) :
      (Pass.scan plan now (.start now) [audit]).run (env.handler store audits) (noted now scene)
        = (.ok (reports audit), ends audit) := by
    rw [hscans audit, (hnarrow audit ha).1]
  obtain ⟨after, hscan, hlisted, hunlisted⟩ := scan_total env plan now audits audits hids htold
    hnoted (fun audit _ => ReadyStore.alike_self hnoted) (.start now)
  rw [Report.start_add_total] at hscan
  obtain ⟨hresult, hstore⟩ := pass_of_scan hscan
  refine ⟨hresult, halone, fun audit ha => ?_, fun id hid => ?_⟩
  · have hrows := ((hlisted audit ha).rows.symm.trans (hnarrow audit ha).2.rows)
    rw [hstore, hrows]
    exact store.ledger.rowsFor_eq_self (pass_narrowed env plan now audit hready).2
  · rw [hstore]
    exact (hunlisted id hid).rows.symm

/-! ## Main statement -/

/-- Requests of all other groups end alike in both, and the same claims of their audits can be
given back. -/
structure AgreeOff (env : Surroundings ω) (env' : Surroundings ω') (audits : List Audit)
    (group : String) : Prop where
  delivery (request : Request) : request.group ≠ group →
    ∀ out out', env.delivery request out = env'.delivery request out'
  refuses : ∀ audit ∈ audits, audit.group ≠ group →
    ∀ tier, env.refuses (audit.id, tier) = env'.refuses (audit.id, tier)

theorem AgreeOff.agreeOn {group : String} (h : env.AgreeOff env' audits group)
    (ha : audit ∈ audits) (hne : audit.group ≠ group) : env.AgreeOn env' audit where
  delivery request hgroup := h.delivery request (hgroup ▸ hne)
  refuses := h.refuses audit ha hne

/-- Audits of different ids do not bear on each other.  A pass over them comes to the passes over
each of them alone, whatever the order in which they are listed, and what happens to one group
changes nothing for the others. -/
theorem separate (hids : (audits.map Audit.id).Nodup) (hready : store.Ready scene.store) :
    ∃ reports, env.Splits store plan now audits scene reports ∧
      (∀ audits' : List Audit, audits'.Perm audits →
        env.Splits store plan now audits' scene reports ∧
          (Report.total now audits' reports).outcomes.Perm
            (Report.total now audits reports).outcomes ∧
          (store.rows (env.pass store plan now audits' scene).2.store).Perm
            (store.rows (env.pass store plan now audits scene).2.store)) ∧
      ∀ (ω' : Type) (env' : Surroundings ω') (scene' : Scene store.State ω') (group : String),
        scene'.store = scene.store → env.AgreeOff env' audits group →
          ∃ reports', env'.Splits store plan now audits scene' reports' ∧
            ∀ audit ∈ audits, audit.group ≠ group →
              reports' audit = reports audit ∧
              store.ledger.rowsFor
                  (store.rows (env'.pass store plan now audits scene').2.store) audit.id
                = store.ledger.rowsFor
                  (store.rows (env.pass store plan now audits scene).2.store) audit.id := by
  choose reports hreports using fun audit : Audit =>
    (pass_narrowed env plan now audit hready).1
  have hsplits := splits hids hready fun audit _ => hreports audit
  refine ⟨reports, hsplits, fun audits' hperm => ?_, fun ω' env' scene' group hstore hagree => ?_⟩
  · have hids' := (hperm.map Audit.id).nodup_iff.mpr hids
    have hsplits' := splits hids' hready fun audit _ => hreports audit
    refine ⟨hsplits', hperm.flatMap_right _, store.ledger.perm_of_rowsFor fun id => ?_⟩
    by_cases hlisted : id ∈ audits.map Audit.id
    · obtain ⟨audit, ha, rfl⟩ := List.mem_map.mp hlisted
      rw [hsplits.rows audit ha, hsplits'.rows audit (hperm.mem_iff.mpr ha)]
    · have hlisted' : id ∉ audits'.map Audit.id := fun h =>
        hlisted ((hperm.map Audit.id).mem_iff.mp h)
      rw [hsplits.unlisted id hlisted, hsplits'.unlisted id hlisted']
  · have hready' : store.Ready scene'.store := hstore ▸ hready
    choose reports' hreports' using fun audit : Audit =>
      (pass_narrowed env' plan now audit hready').1
    have hsplits' := splits hids hready' fun audit _ => hreports' audit
    refine ⟨reports', hsplits', fun audit ha hne => ?_⟩
    have halike : store.Alike audit.id (narrowed scene audit.id).store
        (narrowed scene' audit.id).store := by
      rw [narrowed, narrowed, hstore]
      exact ReadyStore.alike_self (store.ready_narrow hready)
    obtain ⟨hsame, hends⟩ := pass_alike plan now (hagree.agreeOn ha hne) halike
    rw [hreports, hreports'] at hsame
    refine ⟨(Except.ok.inj hsame).symm, ?_⟩
    rw [hsplits.rows audit ha, hsplits'.rows audit ha]
    have hrows := hends.rows
    rw [store.ledger.rowsFor_eq_self (pass_narrowed env plan now audit hready).2,
      store.ledger.rowsFor_eq_self (pass_narrowed env' plan now audit hready').2] at hrows
    exact hrows.symm

/-- A renderer that fails for some groups, and a sender that takes everything. -/
def failingFor (groups : List String) : Surroundings Unit where
  render request :=
    if request.group ∈ groups then .error (.unterminated 0)
    else .ok ⟨request.tier, request.group⟩
  send _ out := (.ok (), out)
  steady _ _ _ := rfl
  refuses _ := none

/-- The same audit of another group. -/
def otherSample : Audit := { Audit.sample with id := "b", group := "h" }

/-- One of two groups cannot be rendered for: the reminder of the other goes out, as it does when
nothing fails, and in the other order too. -/
theorem separate_when_one_fails :
    let start : Scene ReadyStore.memory.State Unit := ⟨Memory.empty, (), []⟩
    let pass (groups : List String) (audits : List Audit) :=
      ((failingFor groups).pass .memory Plan.sample .epoch audits start).1
    ∃ reports reports',
      pass ["g"] [.sample, otherSample] = .ok (.total .epoch [.sample, otherSample] reports) ∧
        pass ["g"] [otherSample, .sample] = .ok (.total .epoch [otherSample, .sample] reports) ∧
        pass [] [.sample, otherSample] = .ok (.total .epoch [.sample, otherSample] reports') ∧
        (reports .sample).failed = 1 ∧ (reports' .sample).sent = 1 ∧
        (reports otherSample).outcomes = [⟨"b", "overdue", .sent⟩] ∧
        reports' otherSample = reports otherSample := by
  intro start pass
  have hids : ([Audit.sample, otherSample].map Audit.id).Nodup := by decide
  obtain ⟨reports, hsplits, hperm, hgroup⟩ :=
    @separate Unit (failingFor ["g"]) .memory .sample .epoch _ start hids trivial
  have hswapped := (hperm [otherSample, .sample] (List.Perm.swap _ _ _)).1
  have hagree : (failingFor ["g"]).AgreeOff (failingFor []) [.sample, otherSample] "g" := by
    refine ⟨fun request hne _ _ => ?_, fun _ _ _ _ => rfl⟩
    simp [delivery, Pass.deliver_run, renderer, failingFor, hne, Except.mapError]
  obtain ⟨reports', hsplits', hsame⟩ := hgroup Unit (failingFor []) start "g" rfl hagree
  have hfirst := hsplits.alone .sample (by simp)
  have hfirst' := hsplits'.alone .sample (by simp)
  have hsecond := hsplits.alone otherSample (by simp)
  refine ⟨reports, reports', hsplits.whole, hswapped.whole, hsplits'.whole, ?_, ?_, ?_,
    (hsame otherSample (by simp) (by decide)).1⟩
  · rw [← Except.ok.inj hfirst]
    rfl
  · rw [← Except.ok.inj hfirst']
    rfl
  · rw [← Except.ok.inj hsecond]
    rfl

end Passes

end Surroundings

end AuditReminder
