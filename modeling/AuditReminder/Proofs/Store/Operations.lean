/-
Whole histories of a store.

`Operations` is all that can be done with a store: what a pass asks of it, and what is done to
audits besides.  A `Call` is one operation or a whole pass, and `Operations.performAll` answers one
call after the other.  Both stores are such operations.

Two stores are compared, and one store is followed, through a relation that every operation keeps.
A pass keeps it too, as it consists of operations of the store (`Program.run_related`); its claims
are all made at the instant of the pass, so a relation may depend on that instant.
-/
import AuditReminder.Proofs.Pass.Phase
import AuditReminder.Proofs.Pass.Requests
import AuditReminder.Proofs.Store.Closing

namespace AuditReminder

/-! ## Operations and calls -/

/-- What can be done with a store whose states are `σ`. -/
structure Operations (σ : Type) where
  backend : Backend σ
  add : σ → Audit → Except AddFault Unit × σ
  /-- Closes an audit; tells whether there is such an audit. -/
  close : σ → AuditId → Except StoreFault Bool × σ
  recordsOf : σ → AuditId → Except StoreFault (List Record)

def Memory.operations : Operations Memory where
  backend := backend
  add store audit :=
    match store.add audit with
    | .ok store => (.ok (), store)
    | .error fault => (.error (.invalid fault), store)
  close store id := (.ok (store.close id).1, (store.close id).2)
  recordsOf store id := .ok (store.recordsOf id)

def Database.operations (c : Connection) : Operations Database where
  backend := backend c
  add db audit := db.addAudit c audit
  close db id := db.close c id
  recordsOf db id := (db.view c).recordsOf id

/-- A call of a store, or a pass over it. -/
inductive Call (ω : Type) where
  | add (audit : Audit)
  | close (id : AuditId)
  | listOpen
  | sentTiers (id : AuditId)
  | claim (id : AuditId) (tier : String) (now : Instant)
  | release (id : AuditId) (tier : String)
  | recordsOf (id : AuditId)
  | pass (render : RenderNotice) (send : SendMessage ω) (plan : Plan) (now : Instant)

/-- What a call comes to. -/
inductive Reply where
  | added (result : Except AddFault Unit)
  | closed (found : Except StoreFault Bool)
  | listed (audits : Except StoreFault (List Audit))
  | read (sent : Except StoreFault NameSet)
  | claimed (result : Except StoreFault Bool)
  | released (result : Except StoreFault Unit)
  | recorded (records : Except StoreFault (List Record))
  | passed (result : Except PassStop Report)

namespace Operations

variable {σ ω : Type}

/-- Answers one call. -/
def perform (ops : Operations σ) (call : Call ω) (scene : Scene σ ω) : Reply × Scene σ ω :=
  match call with
  | .add audit =>
      let (result, store) := ops.add scene.store audit
      (.added result, { scene with store := store })
  | .close id =>
      let (found, store) := ops.close scene.store id
      (.closed found, { scene with store := store })
  | .listOpen => (.listed (ops.backend.listOpen scene.store), scene)
  | .sentTiers id => (.read (ops.backend.sentTiers scene.store id), scene)
  | .claim id tier now =>
      let (result, store) := ops.backend.claim scene.store id tier now
      (.claimed result, { scene with store := store })
  | .release id tier =>
      let (result, store) := ops.backend.release scene.store id tier
      (.released result, { scene with store := store })
  | .recordsOf id => (.recorded (ops.recordsOf scene.store id), scene)
  | .pass render send plan now =>
      let (result, scene) := Pass.run ops.backend render send plan now scene
      (.passed result, scene)

/-- Answers calls one after the other. -/
def performAll (ops : Operations σ) : List (Call ω) → Scene σ ω → List Reply × Scene σ ω
  | [], scene => ([], scene)
  | call :: calls, scene =>
      let (reply, scene) := ops.perform call scene
      let (replies, scene) := ops.performAll calls scene
      (reply :: replies, scene)

end Operations

/-! ## Relations that a pass keeps -/

/-- If the operation claims, then at this instant. -/
def Ask.ClaimsAt (now : Instant) : Ask → Prop
  | .claim _ _ instant => instant = now
  | _ => True

theorem Phase.claimsAt_of_admits {phase : Phase} {now : Instant} {ask : Ask}
    (h : phase.Admits now ask) : ask.ClaimsAt now := by
  cases ask with
  | claim id tier instant =>
      cases phase with
      | free => exact h
      | claimed pair => exact h.elim
      | failed pair => exact h.elim
  | listOpen | sentTiers | deliver | release | note => trivial

/-- An orderly program claims at its instant alone. -/
theorem Program.asks_claimsAt {α : Type} {now : Instant} {p : Program α} {phase : Phase}
    (hp : p.Orderly now phase) : p.Asks (Ask.ClaimsAt now) := by
  induction p generalizing phase with
  | done value => trivial
  | step ask next ih => exact ⟨phase.claimsAt_of_admits hp.1, fun answer => ih _ (hp.2 answer)⟩

/-- Two stores that answer alike. -/
structure Backend.Related {σ τ : Type} (R : σ → τ → Prop) (now : Instant) (b : Backend σ)
    (b' : Backend τ) : Prop where
  listOpen {s : σ} {t : τ} : R s t → b.listOpen s = b'.listOpen t
  sentTiers {s : σ} {t : τ} : R s t → ∀ id, b.sentTiers s id = b'.sentTiers t id
  claim {s : σ} {t : τ} : R s t → ∀ id tier,
    (b.claim s id tier now).1 = (b'.claim t id tier now).1 ∧
      R (b.claim s id tier now).2 (b'.claim t id tier now).2
  release {s : σ} {t : τ} : R s t → ∀ id tier,
    (b.release s id tier).1 = (b'.release t id tier).1 ∧
      R (b.release s id tier).2 (b'.release t id tier).2

/-- Two scenes with related stores, and the same otherwise. -/
structure Scene.Related {σ τ ω : Type} (R : σ → τ → Prop) (scene : Scene σ ω)
    (scene' : Scene τ ω) : Prop where
  store : R scene.store scene'.store
  out : scene.out = scene'.out
  events : scene.events = scene'.events

/-- A pass over two stores that answer alike comes to the same, sends the same and notes the same
events. -/
theorem Backend.Related.run {σ τ ω : Type} {R : σ → τ → Prop} {now : Instant} {b : Backend σ}
    {b' : Backend τ} (hb : Backend.Related R now b b') (render : RenderNotice)
    (send : SendMessage ω) (plan : Plan) {scene : Scene σ ω} {scene' : Scene τ ω}
    (h : scene.Related R scene') :
    (Pass.run b render send plan now scene).1 = (Pass.run b' render send plan now scene').1 ∧
      (Pass.run b render send plan now scene).2.Related R
        (Pass.run b' render send plan now scene').2 := by
  refine Program.run_related (R := Scene.Related R) ?_
    (Program.asks_claimsAt Pass.orderly_program) h
  intro ask hask s t hst
  cases ask with
  | listOpen => exact ⟨hb.listOpen hst.store, hst⟩
  | sentTiers id => exact ⟨hb.sentTiers hst.store id, hst⟩
  | claim id tier instant =>
      obtain rfl : instant = now := hask
      obtain ⟨hanswer, hstore⟩ := hb.claim hst.store id tier
      exact ⟨hanswer, hstore, hst.out, hst.events⟩
  | release id tier =>
      obtain ⟨hanswer, hstore⟩ := hb.release hst.store id tier
      exact ⟨hanswer, hstore, hst.out, hst.events⟩
  | deliver request =>
      have hout : (Pass.deliver (m := StateM ω) render send request).run s.out
          = (Pass.deliver (m := StateM ω) render send request).run t.out := by rw [hst.out]
      exact ⟨congrArg Prod.fst hout, hst.store, congrArg Prod.snd hout, hst.events⟩
  | note event => exact ⟨rfl, hst.store, hst.out, congrArg (· ++ [event]) hst.events⟩

end AuditReminder
