/-
What a template spells.

A template is read from the left: literal text up to the first pair of opening braces, a placeholder
up to the first pair of closing braces behind it, and the rest in the same way (`Template.Reads`).
This reading belongs to the template alone, and there is just one (`Template.reads_unique`), so a
value that holds braces of its own is spelled as it stands.

    breakAtPair_of_breaks     a text is broken where its first pair stands
    exists_reads              every template can be read
    expandFrom_of_values      with a value for each name the pieces are spelled out
    expandFrom_of_unclosed    unless the last placeholder is open, which is told by its byte
    expandFrom_of_fault       a name without a value is the fault of all that stands behind it

Main statement: `Template.expands_as_read`.
-/
import AuditReminder.Notice
import AuditReminder.Proofs.Document

namespace AuditReminder.Template

/-! ## The reading of a template -/

/-- A literal text and the placeholder behind it. -/
structure Piece where
  literal : List Char
  inside : List Char

/-- How a template ends. -/
inductive Tail where
  | plain (literal : List Char)
  /-- The last placeholder is not closed. -/
  | unclosed (literal inside : List Char)

/-- The name that a placeholder asks for. -/
def Piece.name (piece : Piece) : String := String.ofList (Text.trimBlanks piece.inside)

/-- A piece as it stands in its template. -/
def Piece.written (piece : Piece) : List Char :=
  piece.literal ++ '\x7b' :: '\x7b' :: (piece.inside ++ ['\x7d', '\x7d'])

def Tail.written : Tail → List Char
  | plain literal => literal
  | unclosed literal inside => literal ++ '\x7b' :: '\x7b' :: inside

/-- The literals with the values between them, and the last literal. -/
def spelled (pieces : List Piece) (values : List String) (last : List Char) : List Char :=
  (List.zipWith (fun piece value => piece.literal ++ value.toList) pieces values).flatten ++ last

/-- What pieces come to once their names have values: they are spelled out, unless the placeholder
behind them is open, which is a fault at the byte where its braces stand. -/
def Tail.ending {ε : Type} (unterminated : Nat → ε) (pieces : List Piece) (values : List String) :
    Tail → Except ε String
  | plain last => .ok (String.ofList (spelled pieces values last))
  | unclosed literal _ => .error (unterminated
      (String.ofList (pieces.flatMap Piece.written ++ literal)).utf8ByteSize)

/-- The first pair of marks in a text stands between two parts of it. -/
structure Breaks (mark : Char) (cs before after : List Char) : Prop where
  whole : cs = before ++ mark :: mark :: after
  first : ¬ [mark, mark] <:+: before ++ [mark]

/-- A template is made of pieces and of its end; each literal goes up to the first opening pair, and
each placeholder up to the first closing pair behind it. -/
inductive Reads : List Char → List Piece → Tail → Prop
  | plain {template : List Char} : ¬ ['\x7b', '\x7b'] <:+: template →
      Reads template [] (.plain template)
  | unclosed {template literal inside : List Char} : Breaks '\x7b' template literal inside →
      ¬ ['\x7d', '\x7d'] <:+: inside → Reads template [] (.unclosed literal inside)
  | piece {template literal after inside rest : List Char} {pieces : List Piece} {tail : Tail} :
      Breaks '\x7b' template literal after → Breaks '\x7d' after inside rest →
      Reads rest pieces tail → Reads template (⟨literal, inside⟩ :: pieces) tail

/-! ## Breaking a text -/

section Breaking

variable {mark a : Char} {cs before after : List Char}

theorem pair_infix_cons_cons_iff {b : Char} {rest : List Char} :
    [mark, mark] <:+: a :: b :: rest ↔ (a = mark ∧ b = mark) ∨ [mark, mark] <:+: b :: rest := by
  rw [List.infix_cons_iff, List.cons_prefix_cons, List.cons_prefix_cons]
  simp [eq_comm]

theorem not_pair_infix_singleton : ¬ [mark, mark] <:+: [a] := fun h => by
  have hle := h.length_le
  simp at hle

/-- A text is broken unless no pair stands in it. -/
theorem breakAtPair_eq_none_iff : breakAtPair mark cs = none ↔ ¬ [mark, mark] <:+: cs := by
  fun_induction breakAtPair mark cs with
  | case1 a b rest hpair => simp [pair_infix_cons_cons_iff, hpair]
  | case2 a b rest hpair ih => simp [pair_infix_cons_cons_iff, hpair, ih]
  | case3 cs hshort =>
    refine iff_of_true rfl fun h => ?_
    rcases cs with _ | ⟨a, _ | ⟨b, rest⟩⟩
    · exact absurd h.length_le (by simp)
    · exact not_pair_infix_singleton h
    · exact hshort a b rest rfl

/-- No pair stands before the one at which a text is broken. -/
theorem breaks_of_breakAtPair (h : breakAtPair mark cs = some (before, after)) :
    Breaks mark cs before after := by
  refine ⟨eq_of_breakAtPair h, ?_⟩
  fun_induction breakAtPair mark cs generalizing before after with
  | case1 a b rest hpair =>
    obtain ⟨rfl, rfl⟩ : [] = before ∧ rest = after := by simpa using h
    exact not_pair_infix_singleton
  | case2 a b rest hpair ih =>
    obtain ⟨⟨before', after'⟩, h', heq⟩ := Option.map_eq_some_iff.mp h
    obtain ⟨rfl, rfl⟩ : a :: before' = before ∧ after' = after := by simpa using heq
    have hwhole := eq_of_breakAtPair h'
    -- what follows `a` is the head of the text behind it, be it in `before'` or the mark
    rcases before' with _ | ⟨c, before'⟩
    · obtain ⟨rfl, -⟩ := List.cons.inj hwhole
      simpa [pair_infix_cons_cons_iff, not_pair_infix_singleton] using hpair
    · obtain ⟨rfl, -⟩ := List.cons.inj hwhole
      rw [List.cons_append, List.cons_append, pair_infix_cons_cons_iff, not_or]
      exact ⟨hpair, ih h'⟩
  | case3 => cases h

/-- A text is broken where its first pair stands. -/
theorem breakAtPair_of_breaks (h : Breaks mark cs before after) :
    breakAtPair mark cs = some (before, after) := by
  obtain ⟨rfl, hfirst⟩ := h
  induction before with
  | nil => simp [breakAtPair]
  | cons a before ih =>
    -- the text behind `a` starts like what is left of it up to the mark
    obtain ⟨c, upTo, behind, hupTo, hbehind⟩ : ∃ c upTo behind,
        before ++ [mark] = c :: upTo ∧ before ++ mark :: mark :: after = c :: behind := by
      cases before with
      | nil => exact ⟨mark, [], _, rfl, rfl⟩
      | cons c before => exact ⟨c, _, _, rfl, rfl⟩
    rw [List.cons_append, hupTo, pair_infix_cons_cons_iff, ← hupTo, not_or] at hfirst
    have hrest := ih hfirst.2
    rw [hbehind] at hrest
    rw [List.cons_append, hbehind, breakAtPair, if_neg hfirst.1, hrest]
    rfl

end Breaking

/-! ## One reading for each template -/

section Reading

variable {template : List Char} {pieces pieces' : List Piece} {tail tail' : Tail}

/-- Two breaks of one text are the same. -/
theorem Breaks.unique {mark : Char} {cs before after before' after' : List Char}
    (h : Breaks mark cs before after) (h' : Breaks mark cs before' after') :
    before = before' ∧ after = after' := by
  have hsame := (breakAtPair_of_breaks h).symm.trans (breakAtPair_of_breaks h')
  simpa using hsame

/-- A text that is broken holds a pair. -/
theorem Breaks.pair_infix {mark : Char} {cs before after : List Char}
    (h : Breaks mark cs before after) : [mark, mark] <:+: cs :=
  ⟨before, after, by simp [h.whole]⟩

theorem reads_unique (h : Reads template pieces tail) (h' : Reads template pieces' tail') :
    pieces = pieces' ∧ tail = tail' := by
  induction h generalizing pieces' tail' with
  | plain hplain =>
    cases h' with
    | plain _ => exact ⟨rfl, rfl⟩
    | unclosed hopen _ => exact (hplain hopen.pair_infix).elim
    | piece hopen _ _ => exact (hplain hopen.pair_infix).elim
  | unclosed hopen hrest =>
    cases h' with
    | plain hplain => exact (hplain hopen.pair_infix).elim
    | unclosed hopen' _ =>
      obtain ⟨rfl, rfl⟩ := hopen.unique hopen'
      exact ⟨rfl, rfl⟩
    | piece hopen' hclose' _ =>
      obtain ⟨rfl, rfl⟩ := hopen.unique hopen'
      exact (hrest hclose'.pair_infix).elim
  | piece hopen hclose _ ih =>
    cases h' with
    | plain hplain => exact (hplain hopen.pair_infix).elim
    | unclosed hopen' hrest' =>
      obtain ⟨rfl, rfl⟩ := hopen.unique hopen'
      exact (hrest' hclose.pair_infix).elim
    | piece hopen' hclose' hreads' =>
      obtain ⟨rfl, rfl⟩ := hopen.unique hopen'
      obtain ⟨rfl, rfl⟩ := hclose.unique hclose'
      obtain ⟨rfl, rfl⟩ := ih hreads'
      exact ⟨rfl, rfl⟩

/-- Every template can be read. -/
theorem exists_reads (template : List Char) : ∃ pieces tail, Reads template pieces tail := by
  rcases hopen : breakAtPair '\x7b' template with _ | ⟨literal, after⟩
  · exact ⟨[], _, .plain (breakAtPair_eq_none_iff.mp hopen)⟩
  · have hopens := breaks_of_breakAtPair hopen
    rcases hclose : breakAtPair '\x7d' after with _ | ⟨inside, rest⟩
    · exact ⟨[], _, .unclosed hopens (breakAtPair_eq_none_iff.mp hclose)⟩
    · have hshorter : rest.length < template.length :=
        Nat.lt_trans (length_of_breakAtPair hclose) (length_of_breakAtPair hopen)
      obtain ⟨pieces, tail, hreads⟩ := exists_reads rest
      exact ⟨⟨literal, inside⟩ :: pieces, tail, .piece hopens (breaks_of_breakAtPair hclose) hreads⟩
termination_by template.length

/-- A template is what its pieces and its end are written as. -/
theorem written_of_reads (h : Reads template pieces tail) :
    template = pieces.flatMap Piece.written ++ tail.written := by
  induction h with
  | plain _ => rfl
  | unclosed hopen _ => exact hopen.whole
  | piece hopen hclose _ ih =>
    rw [hopen.whole, hclose.whole, List.flatMap_cons, List.append_assoc, ← ih]
    simp [Piece.written]

end Reading

/-! ## Expansion -/

section Expansion

variable {ε : Type} {unterminated : Nat → ε} {lookup : String → Except ε String}
  {template literal after inside rest : List Char} {pieces : List Piece} {tail : Tail}

theorem expandFrom_plain (position : Nat) (h : ¬ ['\x7b', '\x7b'] <:+: template) :
    expandFrom unterminated lookup position template = .ok template := by
  rw [expandFrom]
  split
  · rfl
  · next hopen => cases (breakAtPair_eq_none_iff.mpr h).symm.trans hopen

theorem expandFrom_unclosed (position : Nat) (h : Breaks '\x7b' template literal inside)
    (h' : ¬ ['\x7d', '\x7d'] <:+: inside) :
    expandFrom unterminated lookup position template
      = .error (unterminated (position + Text.byteLength literal)) := by
  rw [expandFrom]
  split
  · next hopen => cases (breakAtPair_of_breaks h).symm.trans hopen
  · next hopen =>
    cases (breakAtPair_of_breaks h).symm.trans hopen
    split
    · rfl
    · next hclose => cases (breakAtPair_eq_none_iff.mpr h').symm.trans hclose

/-- A placeholder is looked up, and then the rest of the template is expanded. -/
theorem expandFrom_piece (position : Nat) (h : Breaks '\x7b' template literal after)
    (h' : Breaks '\x7d' after inside rest) :
    expandFrom unterminated lookup position template = (do
      let value ← lookup (Piece.mk literal inside).name
      let tail ← expandFrom unterminated lookup
        (position + Text.byteLength (Piece.mk literal inside).written) rest
      return literal ++ value.toList ++ tail) := by
  have hbytes : Text.byteLength (Piece.mk literal inside).written
      = Text.byteLength literal + 2 + Text.byteLength inside + 2 := by
    have hbraces : '\x7b'.utf8Size = 1 ∧ '\x7d'.utf8Size = 1 := ⟨rfl, rfl⟩
    simp only [Piece.written, Text.byteLength_append, Text.byteLength_cons, Text.byteLength_nil,
      hbraces]
    omega
  rw [expandFrom, hbytes]
  split
  · next hopen => cases (breakAtPair_of_breaks h).symm.trans hopen
  · next hopen =>
    cases (breakAtPair_of_breaks h).symm.trans hopen
    split
    · next hclose => cases (breakAtPair_of_breaks h').symm.trans hclose
    · next hclose =>
      cases (breakAtPair_of_breaks h').symm.trans hclose
      simp only [Piece.name, Nat.add_assoc]
      cases lookup (String.ofList (Text.trimBlanks inside)) with
      | error fault => rfl
      | ok value =>
        dsimp only [bind, Except.bind]
        generalize expandFrom unterminated lookup _ rest = expanded
        cases expanded <;> rfl

/-- With a value for each name the pieces are spelled out. -/
theorem expandFrom_of_values {values : List String} {last : List Char} (position : Nat)
    (h : Reads template pieces (.plain last))
    (hvalues : pieces.map (fun piece => lookup piece.name) = values.map .ok) :
    expandFrom unterminated lookup position template = .ok (spelled pieces values last) := by
  generalize htail : Tail.plain last = tail at h
  induction h generalizing position values with
  | plain hplain =>
    cases htail
    obtain rfl : values = [] := List.map_eq_nil_iff.mp hvalues.symm
    exact expandFrom_plain position hplain
  | unclosed _ _ => cases htail
  | piece hopen hclose _ ih =>
    obtain _ | ⟨value, values⟩ := values
    · cases hvalues
    · obtain ⟨hvalue, hrest⟩ := List.cons.inj hvalues
      dsimp only at hvalue
      rw [expandFrom_piece position hopen hclose, hvalue]
      simp only [bind, Except.bind, ih _ hrest htail]
      simp [spelled, pure, Except.pure]

/-- With a value for each name an open placeholder is the fault, told by its byte. -/
theorem expandFrom_of_unclosed (position : Nat) (h : Reads template pieces (.unclosed literal inside))
    (hvalues : ∀ piece ∈ pieces, ∃ value, lookup piece.name = .ok value) :
    expandFrom unterminated lookup position template
      = .error (unterminated
          (position + Text.byteLength (pieces.flatMap Piece.written ++ literal))) := by
  generalize htail : Tail.unclosed literal inside = tail at h
  induction h generalizing position with
  | plain _ => cases htail
  | unclosed hopen hrest =>
    cases htail
    exact expandFrom_unclosed position hopen hrest
  | piece hopen hclose _ ih =>
    obtain ⟨⟨value, hvalue⟩, hrest⟩ := List.forall_mem_cons.mp hvalues
    rw [expandFrom_piece position hopen hclose, hvalue]
    simp only [bind, Except.bind, ih _ hrest htail, List.flatMap_cons, List.append_assoc,
      Text.byteLength_append, Nat.add_assoc]

/-- The first name without a value is the fault, whatever stands behind it. -/
theorem expandFrom_of_fault {before behind : List Piece} {piece : Piece} {fault : ε} (position : Nat)
    (h : Reads template (before ++ piece :: behind) tail)
    (hvalues : ∀ other ∈ before, ∃ value, lookup other.name = .ok value)
    (hfault : lookup piece.name = .error fault) :
    expandFrom unterminated lookup position template = .error fault := by
  induction before generalizing position template with
  | nil =>
    obtain _ | _ | ⟨hopen, hclose, _⟩ := h
    rw [expandFrom_piece position hopen hclose, hfault]
    rfl
  | cons first before ih =>
    obtain ⟨⟨value, hvalue⟩, hrest⟩ := List.forall_mem_cons.mp hvalues
    obtain _ | _ | ⟨hopen, hclose, hreads⟩ := h
    rw [expandFrom_piece position hopen hclose, hvalue]
    simp only [bind, Except.bind, ih _ hreads hrest]

/-- Either each name has a value, or there is a first one that has none. -/
theorem values_or_fault (lookup : String → Except ε String) (pieces : List Piece) :
    (∃ values : List String, pieces.map (fun piece => lookup piece.name) = values.map .ok) ∨
      ∃ before piece behind fault, pieces = before ++ piece :: behind ∧
        (∀ other ∈ before, ∃ value, lookup other.name = .ok value) ∧
        lookup piece.name = .error fault := by
  induction pieces with
  | nil => exact Or.inl ⟨[], rfl⟩
  | cons piece pieces ih =>
    rcases hlookup : lookup piece.name with fault | value
    · exact Or.inr ⟨[], piece, pieces, fault, rfl, fun _ => nofun, hlookup⟩
    · rcases ih with ⟨values, hvalues⟩ | ⟨before, other, behind, fault, rfl, hbefore, hfault⟩
      · exact Or.inl ⟨value :: values, by rw [List.map_cons, List.map_cons, hlookup, hvalues]⟩
      · exact Or.inr ⟨piece :: before, other, behind, fault, rfl,
          List.forall_mem_cons.mpr ⟨⟨value, hlookup⟩, hbefore⟩, hfault⟩

/-- Each value is that of the name at its place. -/
theorem lookup_of_mem_zip {values : List String}
    (h : pieces.map (fun piece => lookup piece.name) = values.map .ok) :
    ∀ entry ∈ pieces.zip values, lookup entry.1.name = .ok entry.2 := by
  induction pieces generalizing values with
  | nil => intro entry hentry; cases hentry
  | cons piece pieces ih =>
    obtain _ | ⟨value, values⟩ := values
    · cases h
    · obtain ⟨hvalue, hrest⟩ := List.cons.inj h
      exact List.forall_mem_cons.mpr ⟨hvalue, ih hrest⟩

theorem exists_value_of_map {values : List String}
    (h : pieces.map (fun piece => lookup piece.name) = values.map .ok) :
    ∀ piece ∈ pieces, ∃ value, lookup piece.name = .ok value := fun piece hpiece => by
  have hmem : lookup piece.name ∈ values.map Except.ok := h ▸ List.mem_map_of_mem hpiece
  obtain ⟨value, -, hvalue⟩ := List.mem_map.mp hmem
  exact ⟨value, hvalue.symm⟩

end Expansion

/-! ## Whole templates -/

section Whole

variable {ε : Type} {unterminated : Nat → ε} {lookup : String → Except ε String}
  {template : String} {pieces : List Piece} {tail : Tail}

theorem utf8ByteSize_ofList (cs : List Char) :
    (String.ofList cs).utf8ByteSize = Text.byteLength cs := by
  induction cs with
  | nil => rfl
  | cons c cs ih =>
    rw [String.ofList_cons, String.utf8ByteSize_append, String.utf8ByteSize_singleton, ih,
      Text.byteLength_cons]

theorem expand_of_values {values : List String} (h : Reads template.toList pieces tail)
    (hvalues : pieces.map (fun piece => lookup piece.name) = values.map .ok) :
    expand unterminated lookup template = tail.ending unterminated pieces values := by
  unfold expand
  cases tail with
  | plain last => rw [expandFrom_of_values 0 h hvalues]; rfl
  | unclosed literal inside =>
    rw [expandFrom_of_unclosed 0 h (exists_value_of_map hvalues), Nat.zero_add,
      ← utf8ByteSize_ofList]
    rfl

theorem expand_of_fault {before behind : List Piece} {piece : Piece} {fault : ε}
    (h : Reads template.toList (before ++ piece :: behind) tail)
    (hvalues : ∀ other ∈ before, ∃ value, lookup other.name = .ok value)
    (hfault : lookup piece.name = .error fault) :
    expand unterminated lookup template = .error fault := by
  unfold expand
  rw [expandFrom_of_fault 0 h hvalues hfault]
  rfl

/-- A template that is expanded has its braces closed and values for its names, which it spells. -/
theorem spelled_of_expand {text : String} (h : Reads template.toList pieces tail)
    (htext : expand unterminated lookup template = .ok text) :
    ∃ values last, tail = .plain last ∧
      pieces.map (fun piece => lookup piece.name) = values.map .ok ∧
      text = String.ofList (spelled pieces values last) := by
  rcases values_or_fault lookup pieces with
    ⟨values, hvalues⟩ | ⟨before, piece, behind, fault, rfl, hbefore, hfault⟩
  · have hexpand := (expand_of_values h hvalues).symm.trans htext
    cases tail with
    | plain last => exact ⟨values, last, rfl, hvalues, (Except.ok.inj hexpand).symm⟩
    | unclosed literal inside => cases hexpand
  · cases (expand_of_fault h hbefore hfault).symm.trans htext

end Whole

/-- Expansion is what the one reading of a template says.  With a value for each name the literals
and the values are spelled out in order, unless the last placeholder is open, which is a fault that
tells the byte of its braces; and a name without a value is the fault if all names before it have
one.  A value is not read again, so a group and a tier are spelled as they are named in the request,
whatever braces they hold. -/
theorem expands_as_read (template : String) :
    ∃ pieces tail, Reads template.toList pieces tail ∧
      (∀ pieces' tail', Reads template.toList pieces' tail' → pieces' = pieces ∧ tail' = tail) ∧
      template.toList = pieces.flatMap Piece.written ++ tail.written ∧
      (∀ {ε : Type} (unterminated : Nat → ε) (lookup : String → Except ε String),
        (∀ values, pieces.map (fun piece => lookup piece.name) = values.map .ok →
          expand unterminated lookup template = tail.ending unterminated pieces values) ∧
          ∀ before piece behind fault, pieces = before ++ piece :: behind →
            (∀ other ∈ before, ∃ value, lookup other.name = .ok value) →
              lookup piece.name = .error fault →
                expand unterminated lookup template = .error fault) ∧
      ∀ (r : Renderer) (request : Request) (notice : Notice), r.render request = .ok notice →
        ∀ text, (template, text) ∈ [((r.templates request.kind).subject, notice.subject),
            ((r.templates request.kind).body, notice.body)] →
          ∃ values last, tail = .plain last ∧
            pieces.map (fun piece => r.lookup request piece.name) = values.map .ok ∧
            text = String.ofList (spelled pieces values last) ∧
            ∀ entry ∈ pieces.zip values,
              (entry.1.name = "group" → entry.2 = request.group) ∧
                (entry.1.name = "tier" → entry.2 = request.tier) := by
  obtain ⟨pieces, tail, hreads⟩ := exists_reads template.toList
  refine ⟨pieces, tail, hreads, fun _ _ h => reads_unique h hreads, written_of_reads hreads,
    fun unterminated lookup => ⟨fun values => expand_of_values hreads, ?_⟩, ?_⟩
  · rintro before piece behind fault rfl hbefore hfault
    exact expand_of_fault hreads hbefore hfault
  · intro r request notice hrender text htext
    have hexpand : expand (fun position => RenderStop.fault (.unterminated position))
        (r.lookup request) template = .ok text := by
      obtain ⟨subject, hsubject, hrest⟩ := Except.bind_eq_ok_iff.mp hrender
      obtain ⟨body, hbody, hnotice⟩ := Except.bind_eq_ok_iff.mp hrest
      obtain rfl : Notice.mk subject body = notice := Except.ok.inj hnotice
      simp only [List.mem_cons, List.not_mem_nil, or_false, Prod.mk.injEq] at htext
      rcases htext with ⟨rfl, rfl⟩ | ⟨rfl, rfl⟩
      · exact hsubject
      · exact hbody
    obtain ⟨values, last, htail, hvalues, hspelled⟩ := spelled_of_expand hreads hexpand
    refine ⟨values, last, htail, hvalues, hspelled, fun entry hentry => ?_⟩
    have hvalue := lookup_of_mem_zip hvalues entry hentry
    have hgroup : r.lookup request "group" = .ok request.group := rfl
    have htier : r.lookup request "tier" = .ok request.tier := rfl
    refine ⟨fun hname => ?_, fun hname => ?_⟩
    · rw [hname, hgroup] at hvalue
      exact (Except.ok.inj hvalue).symm
    · rw [hname, htier] at hvalue
      exact (Except.ok.inj hvalue).symm

/-- A tier that is named like a placeholder is spelled as it is named; and the byte of an open
placeholder is counted over letters of more than one. -/
theorem expands_as_read_sample :
    expand (fun position => RenderStop.fault (.unterminated position))
        (Renderer.default.lookup
          ⟨"a", "g", .empty, .epoch, 0, "\x7b\x7bgroup\x7d\x7d", .reminder⟩)
        "\x7b \x7b\x7b tier\x7d\x7d\x7d" = .ok "\x7b \x7b\x7bgroup\x7d\x7d\x7d" ∧
      expand (fun position => RenderStop.fault (.unterminated position))
        (Renderer.default.lookup ⟨"a", "g", .empty, .epoch, 0, "3d", .reminder⟩)
        "é\x7b\x7btier\x7d\x7dé\x7b\x7bx" = .error (.fault (.unterminated 12)) := by
  constructor
  · obtain ⟨pieces, tail, -, hunique, -, hexpand, -⟩ :=
      expands_as_read "\x7b \x7b\x7b tier\x7d\x7d\x7d"
    have hopen : Breaks '\x7b' "\x7b \x7b\x7b tier\x7d\x7d\x7d".toList ['\x7b', ' ']
        [' ', 't', 'i', 'e', 'r', '\x7d', '\x7d', '\x7d'] := ⟨rfl, by decide⟩
    have hclose : Breaks '\x7d' [' ', 't', 'i', 'e', 'r', '\x7d', '\x7d', '\x7d']
        [' ', 't', 'i', 'e', 'r'] ['\x7d'] := ⟨rfl, by decide⟩
    obtain ⟨rfl, rfl⟩ := hunique _ _ (.piece hopen hclose (.plain (by decide)))
    exact ((hexpand _ _).1 ["\x7b\x7bgroup\x7d\x7d"] (by rfl)).trans rfl
  · obtain ⟨pieces, tail, -, hunique, -, hexpand, -⟩ :=
      expands_as_read "é\x7b\x7btier\x7d\x7dé\x7b\x7bx"
    have hopen : Breaks '\x7b' "é\x7b\x7btier\x7d\x7dé\x7b\x7bx".toList ['é']
        ['t', 'i', 'e', 'r', '\x7d', '\x7d', 'é', '\x7b', '\x7b', 'x'] := ⟨rfl, by decide⟩
    have hclose : Breaks '\x7d' ['t', 'i', 'e', 'r', '\x7d', '\x7d', 'é', '\x7b', '\x7b', 'x']
        ['t', 'i', 'e', 'r'] ['é', '\x7b', '\x7b', 'x'] := ⟨rfl, by decide⟩
    have hopen' : Breaks '\x7b' ['é', '\x7b', '\x7b', 'x'] ['é'] ['x'] := ⟨rfl, by decide⟩
    obtain ⟨rfl, rfl⟩ := hunique _ _ (.piece hopen hclose (.unclosed hopen' (by decide)))
    exact ((hexpand _ _).1 ["3d"] (by rfl)).trans rfl

end AuditReminder.Template
