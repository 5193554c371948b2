/-
What keeps a notice from being rendered.

A text that is expanded has all its braces closed and values for all the names between them, and one
whose braces are closed is not expanded for want of a value only (`Template.names?_of_expand`,
`Template.lookup_of_expand`).  To check a pair of templates is to fill it with nothing, so what the
check cannot see is a name whose value fails.  There is one: a deadline has no text under a pattern
with the piece that is read but not printed (`DatePattern.print?_eq_none_iff`).

So a renderer in order, which is what `Renderer.of` makes, renders each request of a kind unless
the templates of that kind show the deadline and its pattern is such a one (`Renderer.Shows`); and
then it renders none of that kind.

Main statements: `Renderer.InOrder.render_of_shows` and `Renderer.InOrder.render_of_not_shows`.
-/
import AuditReminder.Notice
import AuditReminder.Proofs.Document

namespace AuditReminder

/-! ## Placeholders -/

namespace Template

/-- The names between the braces of a text, from the left, if all braces are closed. -/
def names? (template : List Char) : Option (List String) :=
  match h : breakAtPair '\x7b' template with
  | none => some []
  | some (_, after) =>
      match h' : breakAtPair '\x7d' after with
      | none => none
      | some (inside, rest) =>
          have : rest.length < template.length :=
            Nat.lt_trans (length_of_breakAtPair h') (length_of_breakAtPair h)
          (names? rest).map (String.ofList (Text.trimBlanks inside) :: ·)
termination_by template.length

variable {ε : Type} {unterminated : Nat → ε} {lookup : String → Except ε String} {position : Nat}
  {template before after inside rest : List Char}

theorem names?_plain (h : breakAtPair '\x7b' template = none) : names? template = some [] := by
  rw [names?]
  split
  · rfl
  · next hopen => cases h.symm.trans hopen

theorem names?_closed (h : breakAtPair '\x7b' template = some (before, after))
    (h' : breakAtPair '\x7d' after = some (inside, rest)) :
    names? template = (names? rest).map (String.ofList (Text.trimBlanks inside) :: ·) := by
  rw [names?]
  split
  · next hopen => cases h.symm.trans hopen
  · next hopen =>
    cases h.symm.trans hopen
    split
    · next hclose => cases h'.symm.trans hclose
    · next hclose =>
      cases h'.symm.trans hclose
      rfl

theorem names?_open (h : breakAtPair '\x7b' template = some (before, after))
    (h' : breakAtPair '\x7d' after = none) : names? template = none := by
  rw [names?]
  split
  · next hopen => cases h.symm.trans hopen
  · next hopen =>
    cases h.symm.trans hopen
    split
    · rfl
    · next hclose => cases h'.symm.trans hclose

/-- In a text that is expanded all braces are closed, and all names have values. -/
theorem names?_of_expandFrom {text : List Char}
    (h : expandFrom unterminated lookup position template = .ok text) :
    ∃ names, names? template = some names ∧ ∀ name ∈ names, ∃ value, lookup name = .ok value := by
  fun_induction expandFrom unterminated lookup position template generalizing text with
  | case1 position template hopen => exact ⟨[], names?_plain hopen, fun _ => nofun⟩
  | case2 | case3 | case4 => cases h
  | case5 position template before after hopen inside rest hclose _ value hvalue next tail hrest =>
      rename_i ih
      obtain ⟨names, hnames, hvalues⟩ := ih hrest
      refine ⟨_, by rw [names?_closed hopen hclose, hnames, Option.map_some], ?_⟩
      exact List.forall_mem_cons.mpr ⟨⟨value, hvalue⟩, hvalues⟩

/-- If all braces are closed, a text is not expanded for want of a value only. -/
theorem lookup_of_expandFrom {names : List String} {fault : ε}
    (hnames : names? template = some names)
    (h : expandFrom unterminated lookup position template = .error fault) :
    ∃ name ∈ names, lookup name = .error fault := by
  fun_induction expandFrom unterminated lookup position template generalizing names with
  | case1 => cases h
  | case2 position template before after hopen hclose =>
      cases (names?_open hopen hclose).symm.trans hnames
  | case3 position template before after hopen inside rest hclose _ fault' hfault =>
      rw [names?_closed hopen hclose] at hnames
      obtain ⟨others, -, rfl⟩ := Option.map_eq_some_iff.mp hnames
      cases h
      exact ⟨_, List.mem_cons_self, hfault⟩
  | case4 position template before after hopen inside rest hclose _ value hvalue _ other hrest =>
      rename_i ih
      rw [names?_closed hopen hclose] at hnames
      obtain ⟨others, hothers, rfl⟩ := Option.map_eq_some_iff.mp hnames
      cases h
      obtain ⟨name, hname, hfault⟩ := ih hothers hrest
      exact ⟨name, List.mem_cons_of_mem _ hname, hfault⟩
  | case5 => cases h

theorem names?_of_expand {template text : String}
    (h : expand unterminated lookup template = .ok text) :
    ∃ names, names? template.toList = some names ∧
      ∀ name ∈ names, ∃ value, lookup name = .ok value := by
  unfold expand at h
  rcases hexpand : expandFrom unterminated lookup 0 template.toList with fault | expanded
  · rw [hexpand] at h
    cases h
  · exact names?_of_expandFrom hexpand

theorem lookup_of_expand {template : String} {names : List String} {fault : ε}
    (hnames : names? template.toList = some names)
    (h : expand unterminated lookup template = .error fault) :
    ∃ name ∈ names, lookup name = .error fault := by
  unfold expand at h
  rcases hexpand : expandFrom unterminated lookup 0 template.toList with fault' | expanded
  · rw [hexpand] at h
    cases h
    exact lookup_of_expandFrom hnames hexpand
  · rw [hexpand] at h
    cases h

theorem known_of_variableFault? {kind : Kind} {name : String}
    (h : variableFault? kind name = none) : name ∈ commonVariables ∨ name = "days_left" := by
  unfold variableFault? at h
  split at h
  · exact Or.inl ‹_›
  · split at h
    · exact Or.inr ‹_›
    · cases h

end Template

namespace TemplatePair

/-- The names in the subject and in the body. -/
def names? (pair : TemplatePair) : Option (List String) := do
  let inSubject ← Template.names? pair.subject.toList
  let inBody ← Template.names? pair.body.toList
  return inSubject ++ inBody

/-- The subject and the body with every placeholder filled; the subject is filled first. -/
def fill {ε : Type} (unterminated : Nat → ε) (lookup : String → Except ε String)
    (pair : TemplatePair) : Except ε (String × String) := do
  let subject ← Template.expand unterminated lookup pair.subject
  let body ← Template.expand unterminated lookup pair.body
  return (subject, body)

section Fill

variable {ε : Type} {unterminated : Nat → ε} {lookup : String → Except ε String}
  {pair : TemplatePair}

theorem names?_of_fill {texts : String × String} (h : pair.fill unterminated lookup = .ok texts) :
    ∃ names, pair.names? = some names ∧ ∀ name ∈ names, ∃ value, lookup name = .ok value := by
  unfold fill at h
  rcases hsubject : Template.expand unterminated lookup pair.subject with fault | subject
  · rw [hsubject] at h
    cases h
  · rcases hbody : Template.expand unterminated lookup pair.body with fault | body
    · rw [hsubject, hbody] at h
      cases h
    · obtain ⟨inSubject, hin, hvalues⟩ := Template.names?_of_expand hsubject
      obtain ⟨inBody, hin', hvalues'⟩ := Template.names?_of_expand hbody
      refine ⟨inSubject ++ inBody, by rw [names?, hin, hin']; rfl, ?_⟩
      exact List.forall_mem_append.mpr ⟨hvalues, hvalues'⟩

theorem lookup_of_fill {names : List String} {fault : ε} (hnames : pair.names? = some names)
    (h : pair.fill unterminated lookup = .error fault) :
    ∃ name ∈ names, lookup name = .error fault := by
  obtain ⟨inSubject, hsubject, hrest⟩ := Option.bind_eq_some_iff.mp hnames
  obtain ⟨inBody, hbody, hboth⟩ := Option.bind_eq_some_iff.mp hrest
  obtain rfl : inSubject ++ inBody = names := Option.some.inj hboth
  unfold fill at h
  rcases hexpand : Template.expand unterminated lookup pair.subject with fault' | subject
  · obtain ⟨name, hname, hfault⟩ := Template.lookup_of_expand hsubject hexpand
    rw [hexpand] at h
    cases h
    exact ⟨name, List.mem_append_left _ hname, hfault⟩
  · rcases hexpand' : Template.expand unterminated lookup pair.body with fault' | body
    · obtain ⟨name, hname, hfault⟩ := Template.lookup_of_expand hbody hexpand'
      rw [hexpand, hexpand'] at h
      cases h
      exact ⟨name, List.mem_append_right _ hname, hfault⟩
    · rw [hexpand, hexpand'] at h
      cases h

end Fill

/-- To check a pair is to fill it with nothing. -/
theorem check_eq (pair : TemplatePair) (kind : Kind) :
    pair.check kind = (pair.fill .unterminated (probe kind)).map fun _ => () := by
  unfold check fill
  cases Template.expand RenderFault.unterminated (probe kind) pair.subject with
  | error fault => rfl
  | ok subject => cases Template.expand RenderFault.unterminated (probe kind) pair.body <;> rfl

theorem variableFault?_of_probe {kind : Kind} {name value : String}
    (h : probe kind name = .ok value) : Template.variableFault? kind name = none := by
  unfold probe at h
  split at h
  · cases h
  · assumption

/-- A pair that passes its check has all its braces closed, and names that its kind may use. -/
theorem names?_of_check {pair : TemplatePair} {kind : Kind} (h : pair.check kind = .ok ()) :
    ∃ names, pair.names? = some names ∧
      ∀ name ∈ names, Template.variableFault? kind name = none := by
  rw [check_eq] at h
  rcases hfill : pair.fill RenderFault.unterminated (probe kind) with fault | texts
  · rw [hfill] at h
    cases h
  · obtain ⟨names, hnames, hvalues⟩ := names?_of_fill hfill
    refine ⟨names, hnames, fun name hname => ?_⟩
    obtain ⟨value, hvalue⟩ := hvalues name hname
    exact variableFault?_of_probe hvalue

end TemplatePair

/-! ## Dates -/

namespace DatePattern

theorem printItem?_eq_none_iff {t : Instant} {c : Instant.Civil} {item : Item} :
    printItem? t c item = none ↔ item = .word .permissiveOffset := by
  cases item with
  | literal text => simp [printItem?]
  | number part pad => simp [printItem?]
  | word part =>
      cases part with
      | zoneOffset colons => rcases colons with _ | _ | _ | colons <;> simp [printItem?, printWord?]
      | _ => simp [printItem?, printWord?]

/-- A pattern prints no instant or all of them. -/
theorem print?_eq_none_iff {items : List Item} {t : Instant} :
    print? items t = none ↔ isPrintable items = false := by
  induction items with
  | nil => simp [print?, isPrintable]
  | cons item items ih =>
      have hcons : print? (item :: items) t
          = (printItem? t t.civil item).bind fun here => (print? items t).map (here ++ ·) := by
        unfold print?
        rw [List.foldr_cons]
        rcases printItem? t t.civil item with _ | here
        · rfl
        · show (some here).bind _ = (some here).bind _
          rw [Option.bind_some, Option.bind_some, Option.map_eq_bind]
          rfl
      rw [hcons, isPrintable, List.all_cons, Bool.and_eq_false_iff, bne_eq_false_iff_eq,
        ← printItem?_eq_none_iff (t := t) (c := t.civil)]
      rw [isPrintable] at ih
      cases printItem? t t.civil item with
      | none => simp
      | some here => simpa using ih

end DatePattern

/-! ## Renderers -/

namespace Renderer

variable {r : Renderer} {kind : Kind} {request : Request} {name : String}

/-- The pattern is one, and the templates of either kind pass their check. -/
structure InOrder (r : Renderer) : Prop where
  pattern : ∃ items, DatePattern.read? r.dateFormat.toList = some items
  pairs (kind : Kind) : (r.templates kind).check kind = .ok ()

theorem checkDateFormat_eq_ok_iff {format : String} :
    checkDateFormat format = .ok () ↔ ∃ items, DatePattern.read? format.toList = some items := by
  unfold checkDateFormat
  cases DatePattern.read? format.toList <;> simp

/-- A renderer is made of what is in order, and of nothing else. -/
theorem of_eq_ok_iff {baseUrl dateFormat : String} {standard reminder : TemplatePair} :
    Renderer.of baseUrl dateFormat standard reminder = .ok r ↔
      r = ⟨baseUrl, dateFormat, standard, reminder⟩ ∧ r.InOrder := by
  constructor
  · intro h
    obtain ⟨⟨⟩, hpattern, h⟩ := Except.bind_eq_ok_iff.mp h
    obtain ⟨⟨⟩, hstandard, h⟩ := Except.bind_eq_ok_iff.mp h
    obtain ⟨⟨⟩, hreminder, h⟩ := Except.bind_eq_ok_iff.mp h
    cases h
    refine ⟨rfl, checkDateFormat_eq_ok_iff.mp hpattern, fun kind => ?_⟩
    cases kind with
    | standard => exact hstandard
    | reminder => exact hreminder
  · rintro ⟨rfl, hpattern, hpairs⟩
    have hstandard := hpairs .standard
    have hreminder := hpairs .reminder
    exact Except.bind_eq_ok_iff.mpr ⟨(), checkDateFormat_eq_ok_iff.mpr hpattern,
      Except.bind_eq_ok_iff.mpr ⟨(), hstandard, Except.bind_eq_ok_iff.mpr ⟨(), hreminder, rfl⟩⟩⟩

/-- Whether deadlines have a text. -/
def printsDates (r : Renderer) : Bool :=
  (DatePattern.read? r.dateFormat.toList).any DatePattern.isPrintable

/-- The templates of a kind do not show the deadline, or it has a text. -/
def Shows (r : Renderer) (kind : Kind) : Prop :=
  r.printsDates = true ∨ "ends_at" ∉ (r.templates kind).names?.getD []

instance (r : Renderer) (kind : Kind) : Decidable (r.Shows kind) :=
  inferInstanceAs (Decidable (_ ∨ _))

theorem deadlineText_of_printsDates (h : r.printsDates = true) (endsAt : Instant) :
    ∃ text, r.deadlineText endsAt = .ok text := by
  unfold printsDates at h
  unfold deadlineText
  rcases hitems : DatePattern.read? r.dateFormat.toList with _ | items <;> rw [hitems] at h
  · cases h
  · rcases htext : DatePattern.print? items endsAt with _ | text
    · rw [Option.any_some, DatePattern.print?_eq_none_iff.mp htext] at h
      cases h
    · exact ⟨String.ofList text, by rw [Option.bind_some, htext]⟩

theorem deadlineText_of_not_printsDates (h : r.printsDates = false) (endsAt : Instant) :
    r.deadlineText endsAt = .error .unprintableDate := by
  unfold printsDates at h
  unfold deadlineText
  rcases hitems : DatePattern.read? r.dateFormat.toList with _ | items <;> rw [hitems] at h
  · rfl
  · rw [Option.any_some] at h
    rw [Option.bind_some, DatePattern.print?_eq_none_iff.mpr h]

/-- A name that the kind may use has a value, but for the deadline. -/
theorem exists_lookup (h : Template.variableFault? request.kind name = none)
    (hname : name ≠ "ends_at") : ∃ value, r.lookup request name = .ok value := by
  have hknown := Template.known_of_variableFault? h
  simp only [Template.commonVariables, List.mem_cons, List.not_mem_nil, or_false] at hknown
  unfold lookup
  rw [h]
  rcases hknown with (rfl | rfl | rfl | rfl) | rfl
  · exact ⟨_, rfl⟩
  · exact ⟨_, rfl⟩
  · exact absurd rfl hname
  · exact ⟨_, rfl⟩
  · exact ⟨_, rfl⟩

/-- To render a request is to fill the pair of its kind. -/
theorem render_eq (r : Renderer) (request : Request) :
    r.render request =
      ((r.templates request.kind).fill (fun position => .fault (.unterminated position))
        (r.lookup request)).map fun texts => ⟨texts.1, texts.2⟩ := by
  unfold render TemplatePair.fill
  dsimp only
  cases Template.expand (fun position => RenderStop.fault (.unterminated position))
    (r.lookup request) (r.templates request.kind).subject with
  | error stop => rfl
  | ok subject =>
      cases Template.expand (fun position => RenderStop.fault (.unterminated position))
        (r.lookup request) (r.templates request.kind).body <;> rfl

/-- A request that cannot be rendered has a name without a value. -/
theorem lookup_of_render {names : List String} {stop : RenderStop}
    (hnames : (r.templates request.kind).names? = some names)
    (h : r.render request = .error stop) : ∃ name ∈ names, r.lookup request name = .error stop := by
  rw [render_eq] at h
  generalize hfill : (r.templates request.kind).fill _ _ = filled at h
  cases filled with
  | error stop =>
      cases h
      exact TemplatePair.lookup_of_fill hnames hfill
  | ok texts => cases h

/-- All names of a request that is rendered have values. -/
theorem exists_lookup_of_render {names : List String} {notice : Notice}
    (hnames : (r.templates request.kind).names? = some names) (h : r.render request = .ok notice) :
    ∀ name ∈ names, ∃ value, r.lookup request name = .ok value := by
  rw [render_eq] at h
  generalize hfill : (r.templates request.kind).fill _ _ = filled at h
  cases filled with
  | error stop => cases h
  | ok texts =>
      obtain ⟨names', hnames', hvalues⟩ := TemplatePair.names?_of_fill hfill
      cases hnames.symm.trans hnames'
      exact hvalues

/-- The names of a renderer in order. -/
theorem InOrder.names? (h : r.InOrder) (kind : Kind) :
    ∃ names, (r.templates kind).names? = some names ∧
      ∀ name ∈ names, Template.variableFault? kind name = none :=
  TemplatePair.names?_of_check (h.pairs kind)

/-- A renderer in order renders every request of a kind that it can show. -/
theorem InOrder.render_of_shows (h : r.InOrder) (hshows : r.Shows request.kind) :
    ∃ notice, r.render request = .ok notice := by
  obtain ⟨names, hnames, hvalid⟩ := h.names? request.kind
  rcases hrender : r.render request with stop | notice
  · obtain ⟨name, hname, hfault⟩ := lookup_of_render hnames hrender
    have hvalue : ∃ value, r.lookup request name = .ok value := by
      by_cases hdeadline : name = "ends_at"
      · subst hdeadline
        rcases hshows with hprints | hnone
        · exact deadlineText_of_printsDates hprints request.endsAt
        · rw [hnames] at hnone
          exact absurd hname hnone
      · exact exists_lookup (hvalid name hname) hdeadline
    obtain ⟨value, hvalue⟩ := hvalue
    cases hvalue.symm.trans hfault
  · exact ⟨notice, rfl⟩

/-- It renders no request of another kind, for want of the text of the deadline. -/
theorem InOrder.render_of_not_shows (h : r.InOrder) (hshows : ¬ r.Shows request.kind) :
    r.render request = .error .unprintableDate := by
  obtain ⟨names, hnames, hvalid⟩ := h.names? request.kind
  obtain ⟨hprints, hshown⟩ := not_or.mp hshows
  rw [hnames, Option.getD_some, Decidable.not_not] at hshown
  have hdeadline : r.lookup request "ends_at" = .error .unprintableDate :=
    deadlineText_of_not_printsDates (Bool.eq_false_iff.mpr hprints) request.endsAt
  rcases hrender : r.render request with stop | notice
  · obtain ⟨name, hname, hfault⟩ := lookup_of_render hnames hrender
    by_cases hother : name = "ends_at"
    · subst hother
      cases hdeadline.symm.trans hfault
      rfl
    · obtain ⟨value, hvalue⟩ := exists_lookup (hvalid name hname) hother
      cases hvalue.symm.trans hfault
  · obtain ⟨value, hvalue⟩ := exists_lookup_of_render hnames hrender "ends_at" hshown
    cases hdeadline.symm.trans hvalue

end Renderer

end AuditReminder
