/-
Checks and renderings that end alike.

A pair of templates is checked without a request: each name is given nothing for a value, or refused
for the kind.  A request gives the same names their values and refuses the same ones in the same
words, as far as its deadline has a text (`Renderer.alike_lookup`).  What a template is expanded to
depends on its names only through this, so checking and rendering end alike: with the same first
fault, or both without one (`Template.alike_expand`).

Main statement: `Renderer.renders_as_checked`.
-/
import AuditReminder.Proofs.Notice
import AuditReminder.Proofs.Template
import Mathlib.Control.Monad.Basic

namespace AuditReminder

/-! ## Computations that end alike -/

/-- Both give a value, whichever it is, or both fail and the fault of the second is that of the
first in other words. -/
inductive Alike {ε ε' α β : Type} (reword : ε → ε') : Except ε α → Except ε' β → Prop
  | ok (a : α) (b : β) : Alike reword (.ok a) (.ok b)
  | error (fault : ε) : Alike reword (.error fault) (.error (reword fault))

namespace Alike

variable {ε ε' α β γ δ : Type} {reword : ε → ε'} {x : Except ε α} {y : Except ε' β}

theorem bind {f : α → Except ε γ} {g : β → Except ε' δ} (h : Alike reword x y)
    (hrest : ∀ a b, Alike reword (f a) (g b)) : Alike reword (x >>= f) (y >>= g) := by
  cases h with
  | ok a b => exact hrest a b
  | error fault => exact .error fault

theorem map_left {f : α → γ} (h : Alike reword x y) : Alike reword (x.map f) y := by
  cases h with
  | ok a b => exact .ok (f a) b
  | error fault => exact .error fault

theorem map_right {g : β → δ} (h : Alike reword x y) : Alike reword x (y.map g) := by
  cases h with
  | ok a b => exact .ok a (g b)
  | error fault => exact .error fault

theorem exists_ok_iff (h : Alike reword x y) : (∃ b, y = .ok b) ↔ ∃ a, x = .ok a := by
  cases h with
  | ok a b => exact iff_of_true ⟨b, rfl⟩ ⟨a, rfl⟩
  | error fault => exact iff_of_false nofun nofun

/-- Where different faults are told apart, one fails with what the other fails with. -/
theorem error_iff (hreword : Function.Injective reword) (h : Alike reword x y) (fault : ε) :
    y = .error (reword fault) ↔ x = .error fault := by
  cases h with
  | ok a b => exact iff_of_false nofun nofun
  | error other =>
    constructor
    · intro he
      rw [hreword (Except.error.inj he)]
    · intro he
      rw [Except.error.inj he]

end Alike

/-! ## Templates -/

section Templates

variable {ε ε' : Type} {reword : ε → ε'} {unterminated : Nat → ε}
  {lookup : String → Except ε String} {lookup' : String → Except ε' String}
  (h : ∀ name, Alike reword (lookup name) (lookup' name))
include h

namespace Template

/-- Piece by piece, two look-ups that are alike for every name expand a template alike. -/
theorem alike_expandFrom {template : List Char} {pieces : List Piece} {tail : Tail}
    (hreads : Reads template pieces tail) (position : Nat) :
    Alike reword (expandFrom unterminated lookup position template)
      (expandFrom (fun position => reword (unterminated position)) lookup' position template) := by
  induction hreads generalizing position with
  | plain hplain =>
    rw [expandFrom_plain position hplain, expandFrom_plain position hplain]
    exact .ok _ _
  | unclosed hopen hrest =>
    rw [expandFrom_unclosed position hopen hrest, expandFrom_unclosed position hopen hrest]
    exact .error _
  | piece hopen hclose _ ih =>
    rw [expandFrom_piece position hopen hclose, expandFrom_piece position hopen hclose]
    exact (h _).bind fun _ _ => (ih _).bind fun _ _ => .ok _ _

theorem alike_expand (template : String) :
    Alike reword (expand unterminated lookup template)
      (expand (fun position => reword (unterminated position)) lookup' template) := by
  obtain ⟨pieces, tail, hreads⟩ := exists_reads template.toList
  exact (alike_expandFrom h hreads 0).map_left.map_right

end Template

theorem TemplatePair.alike_fill (pair : TemplatePair) :
    Alike reword (pair.fill unterminated lookup)
      (pair.fill (fun position => reword (unterminated position)) lookup') :=
  (Template.alike_expand h pair.subject).bind fun _ _ =>
    (Template.alike_expand h pair.body).bind fun _ _ => .ok _ _

end Templates

/-! ## Renderers -/

namespace Renderer

variable {r : Renderer} {request : Request}

/-- If the deadline has a text, a request has values for the names that its kind may use, and for no
others. -/
theorem alike_lookup (hdate : ∃ text, r.deadlineText request.endsAt = .ok text) (name : String) :
    Alike RenderStop.fault (TemplatePair.probe request.kind name) (r.lookup request name) := by
  rcases hfault : Template.variableFault? request.kind name with _ | fault
  · have hvalue : ∃ value, r.lookup request name = .ok value := by
      by_cases hdeadline : name = "ends_at"
      · subst hdeadline
        exact hdate
      · exact exists_lookup hfault hdeadline
    obtain ⟨value, hvalue⟩ := hvalue
    rw [TemplatePair.probe, hfault, hvalue]
    exact .ok _ _
  · rw [TemplatePair.probe, lookup, hfault]
    exact .error fault

/-- To fill a pair for a request is to check it for the kind of the request. -/
theorem alike_check (hdate : ∃ text, r.deadlineText request.endsAt = .ok text)
    (pair : TemplatePair) :
    Alike RenderStop.fault (pair.check request.kind)
      (pair.fill (fun position => .fault (.unterminated position)) (r.lookup request)) := by
  rw [TemplatePair.check_eq]
  exact (TemplatePair.alike_fill (alike_lookup hdate) pair).map_left

/-- Whatever a request says, as long as its deadline has a text: a pair is filled for it if the pair
passes the check for its kind, and otherwise it fails with the fault that the check finds.  So its
notice is rendered, or fails to be, as the templates of its kind are checked. -/
theorem renders_as_checked (r : Renderer) (request : Request)
    (hdate : ∃ text, r.deadlineText request.endsAt = .ok text) (pair : TemplatePair) :
    (∀ fault, pair.fill (fun position => .fault (.unterminated position)) (r.lookup request)
        = .error (.fault fault) ↔ pair.check request.kind = .error fault) ∧
      ((∃ texts, pair.fill (fun position => .fault (.unterminated position)) (r.lookup request)
        = .ok texts) ↔ pair.check request.kind = .ok ()) ∧
      (r.templates request.kind = pair →
        (∀ fault, r.render request = .error (.fault fault)
          ↔ pair.check request.kind = .error fault) ∧
        ((∃ notice, r.render request = .ok notice) ↔ pair.check request.kind = .ok ())) := by
  have hinj : Function.Injective RenderStop.fault := fun _ _ he => RenderStop.fault.inj he
  have hpassed : (∃ done, pair.check request.kind = .ok done) ↔ pair.check request.kind = .ok () :=
    ⟨fun ⟨(), hdone⟩ => hdone, fun hdone => ⟨(), hdone⟩⟩
  have hfill := alike_check hdate pair
  refine ⟨hfill.error_iff hinj, hfill.exists_ok_iff.trans hpassed, ?_⟩
  rintro rfl
  have hrender : Alike RenderStop.fault ((r.templates request.kind).check request.kind)
      (r.render request) := by
    rw [render_eq]
    exact hfill.map_right
  exact ⟨hrender.error_iff hinj, hrender.exists_ok_iff.trans hpassed⟩

/-- The days left are refused in a standard notice, though the request counts them and an open
placeholder comes later. -/
theorem renders_as_checked_sample :
    (∃ text, default.deadlineText .epoch = .ok text) ∧
      TemplatePair.check
          ⟨"é\x7b\x7btier\x7d\x7d", "\x7b\x7bends_at\x7d\x7d\x7b\x7bdays_left\x7d\x7d\x7b\x7b"⟩
          .standard = .error (.variableNotAvailable "days_left") ∧
      TemplatePair.fill (fun position => RenderStop.fault (.unterminated position))
          (default.lookup ⟨"a", "g", .empty, .epoch, 14, "14d", .standard⟩)
          ⟨"é\x7b\x7btier\x7d\x7d", "\x7b\x7bends_at\x7d\x7d\x7b\x7bdays_left\x7d\x7d\x7b\x7b"⟩
        = .error (.fault (.variableNotAvailable "days_left")) := by
  have hdate : ∃ text, default.deadlineText .epoch = .ok text :=
    deadlineText_of_printsDates (by decide +kernel) .epoch
  have hcheck : TemplatePair.check
      ⟨"é\x7b\x7btier\x7d\x7d", "\x7b\x7bends_at\x7d\x7d\x7b\x7bdays_left\x7d\x7d\x7b\x7b"⟩
      .standard = .error (.variableNotAvailable "days_left") := by decide +kernel
  obtain ⟨hfault, -, -⟩ := renders_as_checked default
    ⟨"a", "g", .empty, .epoch, 14, "14d", .standard⟩ hdate
    ⟨"é\x7b\x7btier\x7d\x7d", "\x7b\x7bends_at\x7d\x7d\x7b\x7bdays_left\x7d\x7d\x7b\x7b"⟩
  exact ⟨hdate, hcheck, (hfault _).mpr hcheck⟩

end Renderer

end AuditReminder
