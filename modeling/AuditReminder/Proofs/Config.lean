/-
Accepted configurations.

A configuration is accepted if it passes its check, and that is so of every one that is loaded from
a file, put there by default or changed by key (`Config.Accepted.valid`).  There is a renderer for
it.  The check does not try to print a date, and the pattern `%#z` passes it although nothing can be
printed by it.  So what the renderer does with a request depends on whether the templates of its
kind show the deadline under such a pattern:

    r.Shows kind      every request of the kind is rendered
    ¬ r.Shows kind    none is, and a pass that has claimed one halts without giving the claim back

Main statement: `Config.renders`.
-/
import AuditReminder.Config.File
import AuditReminder.Proofs.Notice
import AuditReminder.Proofs.Pass.Account
import AuditReminder.Proofs.Store.Operations
import AuditReminder.Proofs.Url.Letters

namespace AuditReminder

/-! ## Passes that do not halt -/

/-- An answer to a delivery that halts comes of a request whose deadline cannot be printed. -/
theorem Pass.render_of_halted {σ ω : Type} {backend : Backend σ} {render : RenderNotice}
    {send : SendMessage ω} {request : Request} {scene : Scene σ ω}
    (h : (Pass.handler backend render send (.deliver request) scene).1 = Delivery.halted) :
    render request = .error .unprintableDate := by
  have hdelivery : ((Pass.deliver (m := StateM ω) render send request).run scene.out).1
      = Delivery.halted := h
  unfold Pass.deliver at hdelivery
  split at hdelivery
  · assumption
  · cases hdelivery
  · next notice _ =>
    simp only [StateT.run, bind, StateT.bind] at hdelivery
    rcases hsend : send ⟨request.owners, notice.subject, notice.body⟩ scene.out
      with ⟨fault | done, out⟩
    · rw [hsend] at hdelivery
      cases hdelivery
    · rw [hsend] at hdelivery
      cases hdelivery

theorem Event.eq_of_halted {e : Event} (h : e.stop? = some .halted) :
    ∃ request, e = ⟨.deliver request, .halted⟩ := by
  obtain ⟨ask, answer⟩ := e
  cases ask with
  | deliver request =>
      cases answer with
      | halted => exact ⟨request, rfl⟩
      | sent | renderFailed | sendFailed => cases h
  | listOpen => cases answer <;> cases h
  | sentTiers id => cases answer <;> cases h
  | claim id tier now => cases answer <;> cases h
  | release id tier => cases h
  | note event => cases h

/-- A pass that halts was to render a request whose deadline cannot be printed. -/
theorem Pass.exists_unprintable {σ ω : Type} {backend : Backend σ} {render : RenderNotice}
    {send : SendMessage ω} {plan : Plan} {now : Instant} {scene : Scene σ ω}
    (h : (Pass.run backend render send plan now scene).1 = .error .halted) :
    ∃ request, render request = .error .unprintableDate := by
  obtain ⟨e, he, hstop⟩ := Pass.exists_stop h
  obtain ⟨request, rfl⟩ := Event.eq_of_halted hstop
  have hanswer (ask : Ask) (scene : Scene σ ω)
      (hevent : (⟨ask, (Pass.handler backend render send ask scene).1⟩ : Event)
        = ⟨.deliver request, .halted⟩) : render request = .error .unprintableDate := by
    injection hevent with hask hanswer
    subst hask
    exact Pass.render_of_halted (eq_of_heq hanswer)
  have hevents : ∀ e ∈ (Pass.program plan now).trace (Pass.handler backend render send) scene,
      e = ⟨.deliver request, .halted⟩ → render request = .error .unprintableDate :=
    Program.forall_mem_trace (I := fun _ => True)
      (fun ask _ scene _ => ⟨hanswer ask scene, trivial⟩)
      (Program.asks_claimsAt Pass.orderly_program) trivial
  exact ⟨request, hevents _ he rfl⟩

namespace RenderConfig

/-- A configuration that has an address and is otherwise in order has a renderer. -/
theorem renderer_eq_ok_iff {c : RenderConfig} {r : Renderer} :
    c.renderer = .ok r ↔
      ∃ url, Url.read c.baseUrl = .ok url ∧
        r = ⟨url.text, c.dateFormat, c.standard, c.reminder⟩ ∧ r.InOrder := by
  unfold renderer
  rcases Url.read c.baseUrl with fault | url
  · simp
  · rcases hof : Renderer.of url.text c.dateFormat c.standard c.reminder with fault | r'
    · simp only [hof, reduceCtorEq, Except.ok.injEq, exists_eq_left', false_iff]
      intro hr
      cases hof.symm.trans (Renderer.of_eq_ok_iff.mpr hr)
    · obtain ⟨hr', horder⟩ := Renderer.of_eq_ok_iff.mp hof
      simp only [hof, Except.ok.injEq, exists_eq_left']
      constructor
      · rintro rfl
        exact ⟨hr', horder⟩
      · rintro ⟨rfl, -⟩
        exact hr'

/-- The default templates are in order with any pattern. -/
theorem inOrder_default {baseUrl dateFormat : String}
    (hformat : (DatePattern.read? dateFormat.toList).isSome = true) :
    (⟨baseUrl, dateFormat, default.standard, default.reminder⟩ : Renderer).InOrder where
  pattern := Option.isSome_iff_exists.mp hformat
  pairs kind := by
    have hok {result : Except RenderFault Unit} (h : result.isOk = true) : result = .ok () := by
      cases result with
      | ok done => rfl
      | error fault => cases h
    cases kind with
    | standard =>
        exact hok (by decide +kernel : (default.standard.check .standard).isOk = true)
    | reminder =>
        exact hok (by decide +kernel : (default.reminder.check .reminder).isOk = true)

end RenderConfig

namespace Config

/-! ## What is accepted -/

theorem schedule_eq_ok_iff {c : Config} {schedule : Schedule} :
    c.schedule = .ok schedule ↔ Schedule.ofTiers c.tiers = .ok schedule :=
  Except.mapError_eq_ok_iff

/-- What the check of a configuration asks for. -/
theorem validate_eq_ok_iff {c : Config} :
    c.validate = .ok () ↔
      (∃ schedule, c.schedule = .ok schedule) ∧
        ¬ (c.scheduler.retentionHorizonDays < 0 ∨
          maxOffsetDays < c.scheduler.retentionHorizonDays) ∧
        c.scheduler.intervalSecs ≠ 0 ∧ ∃ r, c.render.renderer = .ok r := by
  unfold validate
  simp only [bind, Except.bind, pure, Except.pure]
  rcases c.schedule with fault | schedule
  · simp
  · by_cases hdays : c.scheduler.retentionHorizonDays < 0 ∨
        maxOffsetDays < c.scheduler.retentionHorizonDays
    · simp [hdays]
    · by_cases hinterval : c.scheduler.intervalSecs = 0
      · simp [hdays, hinterval]
      · rcases c.render.renderer with fault | r <;> simp [hdays, hinterval]

/-- The defaults, but for the pattern. -/
def withDateFormat (dateFormat : String) : Config :=
  { default with render := { default.render with dateFormat := dateFormat } }

theorem validate_withDateFormat {dateFormat : String}
    (hformat : (DatePattern.read? dateFormat.toList).isSome = true) :
    (withDateFormat dateFormat).validate = .ok () := by
  have hdays : ¬ (defaultHorizonDays < 0 ∨ maxOffsetDays < defaultHorizonDays) := by decide
  have hinterval : SchedulerConfig.default.intervalSecs ≠ 0 := by decide
  exact validate_eq_ok_iff.mpr ⟨⟨_, rfl⟩, hdays, hinterval, _,
    RenderConfig.renderer_eq_ok_iff.mpr
      ⟨_, Url.read_default, rfl, RenderConfig.inOrder_default hformat⟩⟩

/-- The defaults pass their own check. -/
theorem validate_default : default.validate = .ok () := by
  show (withDateFormat Renderer.defaultDateFormat).validate = .ok ()
  exact validate_withDateFormat (by decide +kernel)

/-- The ways to a configuration. -/
inductive Accepted : Config → Prop where
  | checked {c : Config} : c.validate = .ok () → Accepted c
  | set {before c : Config} {key text : String} : before.set key text = .ok c → Accepted c
  /-- On any machine, be the file there or not. -/
  | loaded {σ : Type} {platform : Platform (StateM σ)} {path : String} {s s' : σ} {c : Config} :
      (load platform path).run s = (.ok c, s') → Accepted c

/-- What a change by key goes through. -/
theorem set_eq_ok_iff {before c : Config} {key text : String} :
    before.set key text = .ok c ↔
      ∃ changed, update (fun value => (readAs text value).mapError (ConfigFault.invalidValue key))
          (.unknownKey key) (keyParts key) before.toJson = .ok changed ∧
        Exchange.config .value changed.sortKeys.toNode = .ok c ∧ c.validate = .ok () := by
  constructor
  · intro h
    obtain ⟨changed, hchanged, h⟩ := Except.bind_eq_ok_iff.mp h
    obtain ⟨updated, hupdated, h⟩ := Except.bind_eq_ok_iff.mp h
    obtain ⟨⟨⟩, hvalid, h⟩ := Except.bind_eq_ok_iff.mp h
    cases h
    exact ⟨changed, hchanged, Except.mapError_eq_ok_iff.mp hupdated, hvalid⟩
  · rintro ⟨changed, hchanged, hupdated, hvalid⟩
    refine Except.bind_eq_ok_iff.mpr ⟨changed, hchanged, ?_⟩
    refine Except.bind_eq_ok_iff.mpr ⟨c, Except.mapError_eq_ok_iff.mpr hupdated, ?_⟩
    exact Except.bind_eq_ok_iff.mpr ⟨(), hvalid, rfl⟩

theorem validate_of_set {before c : Config} {key text : String}
    (h : before.set key text = .ok c) : c.validate = .ok () := by
  obtain ⟨-, -, -, hvalid⟩ := set_eq_ok_iff.mp h
  exact hvalid

theorem validate_of_read {c : Config} {path text : String} (h : read path text = .ok c) :
    c.validate = .ok () := by
  unfold read at h
  split at h
  · cases h
  · split at h
    · cases h
    · obtain ⟨⟨⟩, hvalid, rfl⟩ := Except.map_eq_ok_iff.mp h
      exact hvalid

section Loading

variable {σ : Type} {platform : Platform (StateM σ)} {path : String} {s s₁ s' : σ} {c : Config}

/-- Where there is no file the defaults are saved. -/
theorem load_of_notFound (h : (platform.readText path).run s = (.error .notFound, s₁)) :
    (load platform path).run s = (.ok c, s') ↔
      (save platform path default).run s₁ = (.ok (), s') ∧ default = c := by
  unfold load
  simp only [StateT.run, bind, StateT.bind] at h ⊢
  rw [h]
  simp only [StateT.bind]
  rcases save platform path default s₁ with ⟨fault | done, after⟩
  · constructor
    · intro h
      cases h
    · rintro ⟨h, -⟩
      cases h
  · constructor
    · intro h
      cases h
      exact ⟨rfl, rfl⟩
    · rintro ⟨h, rfl⟩
      cases h
      rfl

/-- What is loaded are the defaults or what a text is read to. -/
theorem load_cases (h : (load platform path).run s = (.ok c, s')) :
    c = default ∨ ∃ text, read path text = .ok c := by
  rcases hread : (platform.readText path).run s with ⟨fault | text, after⟩
  · cases fault with
    | notFound => exact Or.inl ((load_of_notFound hread).mp h).2.symm
    | alreadyExists | notADirectory | isADirectory | noSpace | other =>
        unfold load at h
        simp only [StateT.run, bind, StateT.bind] at h hread
        rw [hread] at h
        cases h
  · unfold load at h
    simp only [StateT.run, bind, StateT.bind] at h hread
    rw [hread] at h
    exact Or.inr ⟨text, congrArg Prod.fst h⟩

theorem validate_of_load (h : (load platform path).run s = (.ok c, s')) : c.validate = .ok () := by
  rcases load_cases h with rfl | ⟨text, hread⟩
  · exact validate_default
  · exact validate_of_read hread

end Loading

theorem Accepted.valid {c : Config} (h : c.Accepted) : c.validate = .ok () := by
  cases h with
  | checked h => exact h
  | set h => exact validate_of_set h
  | loaded h => exact validate_of_load h

/-! ## What is accepted is rendered -/

/-- There is a renderer for an accepted configuration.  It renders all requests of a kind or none,
as it can show the deadlines of that kind or not, and if it can for either kind no pass halts. -/
theorem renders {c : Config} (h : c.Accepted) :
    ∃ r, c.render.renderer = .ok r ∧
      (∀ request, r.Shows request.kind → ∃ notice, r.render request = .ok notice) ∧
      (∀ request, ¬ r.Shows request.kind → r.render request = .error .unprintableDate) ∧
      ((∀ kind, r.Shows kind) →
        ∀ {σ ω : Type} (backend : Backend σ) (send : SendMessage ω) (plan : Plan) (now : Instant)
          (scene : Scene σ ω),
          (Pass.run backend r.render send plan now scene).1 ≠ .error .halted) := by
  obtain ⟨-, -, -, r, hr⟩ := validate_eq_ok_iff.mp h.valid
  obtain ⟨url, -, -, horder⟩ := RenderConfig.renderer_eq_ok_iff.mp hr
  refine ⟨r, hr, fun request => horder.render_of_shows, fun request => horder.render_of_not_shows,
    fun hshows σ ω backend send plan now scene hhalted => ?_⟩
  obtain ⟨request, hunprintable⟩ := Pass.exists_unprintable hhalted
  obtain ⟨notice, hnotice⟩ := horder.render_of_shows (hshows request.kind)
  cases hunprintable.symm.trans hnotice

theorem default_renders :
    default.Accepted ∧ ∃ r, default.render.renderer = .ok r ∧
      ∀ request, ∃ notice, r.render request = .ok notice := by
  have haccepted : default.Accepted := .checked validate_default
  obtain ⟨r, hr, hshown, -, -⟩ := renders haccepted
  obtain ⟨url, -, rfl, -⟩ := RenderConfig.renderer_eq_ok_iff.mp hr
  have hprints : (DatePattern.read? default.render.dateFormat.toList).any DatePattern.isPrintable
      = true := by decide +kernel
  exact ⟨haccepted, _, hr, fun request => hshown request (Or.inl hprints)⟩

/-- The configuration with the pattern `%#z` is accepted.  A pass with its renderer halts on the
first reminder that it has claimed: nothing is sent, and the record of the claim keeps every later
pass from sending it. -/
theorem halts_after_claim :
    (withDateFormat "%#z").validate = .ok () ∧
      ∃ r, (withDateFormat "%#z").render.renderer = .ok r ∧
        let ran := Pass.run Memory.backend r.render (fun _ sent => (.ok (), sent + 1))
          .sample .epoch ⟨.sample, 0, []⟩
        ran.1 = .error .halted ∧ ran.2.out = 0 ∧
          ran.2.store.records = [⟨"a", "overdue", .epoch⟩] := by
  have hvalid : (withDateFormat "%#z").validate = .ok () :=
    validate_withDateFormat (by decide +kernel)
  obtain ⟨-, -, -, r, hr⟩ := validate_eq_ok_iff.mp hvalid
  obtain ⟨url, -, hparts, horder⟩ := RenderConfig.renderer_eq_ok_iff.mp hr
  have hprints : r.printsDates = false := by
    rw [hparts]
    exact (by decide +kernel : (DatePattern.read? "%#z".toList).any DatePattern.isPrintable = false)
  have hshown (kind : Kind) : "ends_at" ∈ (r.templates kind).names?.getD [] := by
    rw [hparts]
    cases kind with
    | standard => exact (by decide +kernel : "ends_at" ∈ Renderer.defaultStandard.names?.getD [])
    | reminder => exact (by decide +kernel : "ends_at" ∈ Renderer.defaultReminder.names?.getD [])
  have hrender : r.render = fun _ => .error .unprintableDate := by
    funext request
    exact horder.render_of_not_shows
      (not_or.mpr ⟨Bool.eq_false_iff.mp hprints, not_not_intro (hshown request.kind)⟩)
  refine ⟨hvalid, r, hr, ?_⟩
  rw [hrender]
  simp only [Pass.run, Pass.program, Program.note, Program.ask, bind, Program.bind,
    Program.run_step, Pass.handler, Memory.listOpen_sample]
  exact ⟨rfl, rfl, rfl⟩

end Config

end AuditReminder
