/-
Hosts of small letters.

Nothing happens to a domain name of small letters and points: no letter of it is mapped, composed or
encoded, and none is a mark, a joiner or written from right to left (`Url.domain?_plain`).  What
the tables of code points say about characters in ASCII is read off their texts, once for each
table.

The default address has such a host, so it is an address (`Url.read_default`).
-/
import AuditReminder.Notice
import AuditReminder.Url.Reader

namespace AuditReminder

/-! ## Tables -/

namespace CodeTable

variable {α : Type} {table : CodeTable α} {c : Char}

theorem find?_eq_none
    (h : ∀ range ∈ table.ranges, ¬ (range.first ≤ c.toNat ∧ c.toNat ≤ range.last)) :
    table.find? c = none := by
  rcases hfind : table.find? c with _ | value
  · rfl
  · obtain ⟨range, hrange, hfirst, hlast, -⟩ := exists_of_find? hfind
    exact absurd ⟨hfirst, hlast⟩ (h range hrange)

/-- The ranges of a text. -/
def readRanges (value : List Char → α) (cs : List Char) : List (CodeRange α) :=
  let words := Text.split ' ' (cs.map fun c => if c = '\n' then ' ' else c)
  (words.filter (· ≠ [])).map (readRange value)

/-- What all ranges of a text have, those of its table have. -/
theorem forall_read {value : List Char → α} {text : String} {p : CodeRange α → Bool}
    (h : ∃ cs, text = String.ofList cs ∧ (readRanges value cs).all p = true) :
    ∀ range ∈ (read value text).ranges, p range = true := by
  obtain ⟨cs, rfl, hall⟩ := h
  intro range hrange
  have hranges : (read value (String.ofList cs)).ranges = (readRanges value cs).toArray := by
    rw [read, String.toList_ofList]
    rfl
  rw [hranges, List.mem_toArray] at hrange
  exact List.all_eq_true.mp hall range hrange

/-- No range of the table has a character in ASCII. -/
def IsBeyondAscii (table : CodeTable α) : Prop := ∀ range ∈ table.ranges, 0x80 ≤ range.first

theorem isBeyondAscii_read {value : List Char → α} {text : String}
    (h : ∃ cs, text = String.ofList cs ∧
      ((readRanges value cs).all fun range => decide (0x80 ≤ range.first)) = true) :
    (read value text).IsBeyondAscii := fun range hrange =>
  of_decide_eq_true (forall_read h range hrange)

theorem IsBeyondAscii.find? (h : table.IsBeyondAscii) (hc : c.toNat < 0x80) :
    table.find? c = none := by
  refine find?_eq_none fun range hrange hin => ?_
  have hfirst := h range hrange
  omega

end CodeTable

namespace Text

theorem mem_of_mem_split {separator c : Char} {cs part : List Char} (h : part ∈ split separator cs)
    (hc : c ∈ part) : c ∈ cs := by
  induction cs generalizing part with
  | nil =>
      rw [split, List.mem_singleton] at h
      rw [h] at hc
      cases hc
  | cons first cs ih =>
      rw [split] at h
      split at h
      · rcases List.mem_cons.mp h with rfl | h
        · cases hc
        · exact List.mem_cons_of_mem _ (ih h hc)
      · split at h
        · next hnone => exact absurd hnone (split_ne_nil separator cs)
        · next head rest hsplit =>
          rcases List.mem_cons.mp h with rfl | h
          · rcases List.mem_cons.mp hc with rfl | hc
            · exact List.mem_cons_self
            · exact List.mem_cons_of_mem _ (ih (hsplit ▸ List.mem_cons_self) hc)
          · exact List.mem_cons_of_mem _ (ih (hsplit ▸ List.mem_cons_of_mem _ h) hc)

/-! ## Characters in ASCII -/

section Tables

set_option maxRecDepth 100000

theorem isBeyondAscii_nonspacingMarks : nonspacingMarks.IsBeyondAscii := by
  unfold nonspacingMarks CodeTable.readSet
  refine CodeTable.isBeyondAscii_read ⟨_, rfl, ?_⟩
  decide +kernel

theorem isBeyondAscii_spacingMarks : spacingMarks.IsBeyondAscii := by
  unfold spacingMarks CodeTable.readSet
  refine CodeTable.isBeyondAscii_read ⟨_, rfl, ?_⟩
  decide +kernel

theorem isBeyondAscii_classes : Canonical.classes.IsBeyondAscii := by
  unfold Canonical.classes
  refine CodeTable.isBeyondAscii_read ⟨_, rfl, ?_⟩
  decide +kernel

/-- Nothing in ASCII is composed of other characters, or composed with one before it. -/
theorem pairs_beyond_ascii :
    ∀ range ∈ Canonical.pairs.ranges, 0x80 ≤ range.first ∧ 0x80 ≤ range.value.2 := by
  have hall : ∀ range ∈ Canonical.pairs.ranges,
      decide (0x80 ≤ range.first ∧ 0x80 ≤ range.value.2) = true := by
    unfold Canonical.pairs
    refine CodeTable.forall_read ⟨_, rfl, ?_⟩
    decide +kernel
  exact fun range hrange => of_decide_eq_true (hall range hrange)

/-- The table of directions leaves the small letters out. -/
theorem directions_without_letters :
    ∀ range ∈ directions.ranges, range.last < 0x61 ∨ 0x7A < range.first := by
  have hall : ∀ range ∈ directions.ranges,
      decide (range.last < 0x61 ∨ 0x7A < range.first) = true := by
    unfold directions
    refine CodeTable.forall_read ⟨_, rfl, ?_⟩
    decide +kernel
  exact fun range hrange => of_decide_eq_true (hall range hrange)

end Tables

variable {c : Char} {cs : List Char}

theorem isNonspacing_ascii (hc : c.toNat < 0x80) : isNonspacing c = false := by
  rw [isNonspacing, CodeTable.contains, isBeyondAscii_nonspacingMarks.find? hc]
  rfl

theorem isMark_ascii (hc : c.toNat < 0x80) : isMark c = false := by
  rw [isMark, isNonspacing_ascii hc, CodeTable.contains, isBeyondAscii_spacingMarks.find? hc]
  rfl

namespace Canonical

theorem classOf_ascii (hc : c.toNat < 0x80) : classOf c = 0 := by
  rw [classOf, isBeyondAscii_classes.find? hc]
  rfl

/-- A character taken apart by a table. -/
def partsBy (table : CodeTable (Nat × Nat)) : Nat → Char → List Char
  | 0, c => [c]
  | depth + 1, c =>
      match table.find? c with
      | some (first, second) => partsBy table depth (Char.ofNat first) ++ [Char.ofNat second]
      | none =>
          let n := c.toNat
          if firstSyllable ≤ n ∧ n < firstSyllable + leads * vowels * trails then
            syllableParts (n - firstSyllable)
          else [c]

-- to unfold `parts` itself would be to evaluate its table
theorem parts_eq : parts = partsBy pairs := by
  delta parts partsBy
  rfl

theorem partsBy_ascii {table : CodeTable (Nat × Nat)} (htable : table.IsBeyondAscii)
    (hc : c.toNat < 0x80) (depth : Nat) : partsBy table depth c = [c] := by
  cases depth with
  | zero => rfl
  | succ depth =>
      have hsyllable : ¬ (firstSyllable ≤ c.toNat ∧
          c.toNat < firstSyllable + leads * vowels * trails) := by
        unfold firstSyllable
        omega
      simp only [partsBy, htable.find? hc, if_neg hsyllable]

theorem parts_ascii (hc : c.toNat < 0x80) (depth : Nat) : parts depth c = [c] := by
  rw [parts_eq]
  exact partsBy_ascii (fun range hrange => (pairs_beyond_ascii range hrange).1) hc depth

theorem composed?_ascii {b : Char} (hc : c.toNat < 0x80) : composed? b c = none := by
  have hsyllable : syllable? b c = none := by
    unfold syllable? firstLead firstVowel firstSyllable beforeTrail leads vowels trails
    dsimp only
    rw [if_neg (by omega), if_neg (by omega)]
  have hpairs : pairs.ranges.find? (fun range => range.value == (b.toNat, c.toNat)) = none := by
    refine Array.find?_eq_none.mpr fun range hrange hvalue => ?_
    have hsecond := (pairs_beyond_ascii range hrange).2
    rw [eq_of_beq hvalue] at hsecond
    exact absurd hc (Nat.not_lt.mpr hsecond)
  simp only [composed?, hsyllable, hpairs, Option.map_none]

theorem decompose_ascii (h : ∀ c ∈ cs, c.toNat < 0x80) : decompose cs = cs := by
  have hparts : cs.flatMap (parts maxMarks) = cs := by
    induction cs with
    | nil => rfl
    | cons c cs ih =>
        rw [List.flatMap_cons, parts_ascii (h c List.mem_cons_self),
          ih fun d hd => h d (List.mem_cons_of_mem _ hd)]
        rfl
  have hplace (done : List Char) : cs.foldl placeMark done = cs.reverse ++ done := by
    clear hparts
    induction cs generalizing done with
    | nil => rfl
    | cons c cs ih =>
        have hput : placeMark done c = c :: done := by
          cases done with
          | nil => rfl
          | cons last rest => simp [placeMark, classOf_ascii (h c List.mem_cons_self)]
        rw [List.foldl_cons, hput, ih fun d hd => h d (List.mem_cons_of_mem _ hd)]
        simp
  rw [decompose, hparts, hplace, List.append_nil, List.reverse_reverse]

/-- A text in ASCII is its own canonical form. -/
theorem compose_ascii (h : ∀ c ∈ cs, c.toNat < 0x80) : compose cs = cs := by
  have hadd (p : Progress) (hmarks : p.marks = []) :
      (cs.foldl Progress.add p).reversed = cs.reverse ++ p.reversed := by
    induction cs generalizing p with
    | nil => rfl
    | cons c cs ih =>
        have hc := h c List.mem_cons_self
        have hnone : (if p.isOpen c then p.base.bind fun base => composed? base c else none)
            = none := by
          cases p.base <;> simp [composed?_ascii hc]
        have hnext : p.add c = ⟨p.reversed, some c, []⟩ := by
          unfold Progress.add
          rw [hnone]
          exact if_pos (classOf_ascii hc)
        rw [List.foldl_cons, hnext, ih (fun d hd => h d (List.mem_cons_of_mem _ hd)) _ rfl]
        simp [Progress.reversed]
  rw [compose, decompose_ascii h, hadd _ rfl]
  simp [Progress.reversed]

end Canonical

/-! ## Small letters -/

/-- A letter from a to z. -/
def IsSmallLetter (c : Char) : Prop := 0x61 ≤ c.toNat ∧ c.toNat ≤ 0x7A

instance (c : Char) : Decidable (IsSmallLetter c) := inferInstanceAs (Decidable (_ ∧ _))

theorem IsSmallLetter.ascii (h : IsSmallLetter c) : c.toNat < 0x80 := by
  unfold IsSmallLetter at h
  omega

theorem joinersFitAfter_letters (h : ∀ c ∈ cs, IsSmallLetter c) (before : List Char) :
    joinersFitAfter before cs = true := by
  induction cs generalizing before with
  | nil => rfl
  | cons c cs ih =>
      have hc := (h c List.mem_cons_self).ascii
      have hjoiner : c ≠ joiner := by
        rintro rfl
        exact absurd hc (by decide)
      have hnonJoiner : c ≠ nonJoiner := by
        rintro rfl
        exact absurd hc (by decide)
      have hrest := ih (fun d hd => h d (List.mem_cons_of_mem _ hd)) (c :: before)
      rw [joinersFitAfter.eq_def]
      simp only [if_neg hjoiner, if_neg hnonJoiner, hrest, Bool.true_and]

/-- The direction of a character by a table. -/
def directionBy (table : CodeTable Direction) (c : Char) : Direction :=
  match table.find? c with
  | some d => d
  | none => if isNonspacing c then .mark else .leftToRight

theorem direction_eq : direction = directionBy directions := by
  delta direction directionBy
  rfl

theorem directionBy_letter {table : CodeTable Direction}
    (htable : ∀ range ∈ table.ranges, range.last < 0x61 ∨ 0x7A < range.first)
    (h : IsSmallLetter c) : directionBy table c = .leftToRight := by
  have hfind : table.find? c = none := by
    refine CodeTable.find?_eq_none fun range hrange hin => ?_
    have hout := htable range hrange
    unfold IsSmallLetter at h
    omega
  rw [directionBy, hfind]
  exact if_neg (Bool.eq_false_iff.mp (isNonspacing_ascii h.ascii))

theorem direction_letter (h : IsSmallLetter c) : direction c = .leftToRight := by
  rw [direction_eq]
  exact directionBy_letter directions_without_letters h

theorem keepDirections_letters {names : List (List Char)}
    (h : ∀ name ∈ names, ∀ c ∈ name, IsSmallLetter c) : keepDirections names = true := by
  have hnone : (names.any fun name => name.any fun c => (direction c).isRightToLeft) = false := by
    simp only [List.any_eq_false]
    intro name hname hany
    obtain ⟨c, hc, hright⟩ := List.any_eq_true.mp hany
    rw [direction_letter (h name hname c hc)] at hright
    cases hright
  rw [keepDirections, hnone]
  rfl

end Text

namespace Url

open Text

variable {cs : List Char}

/-- Only small letters and points. -/
def IsPlainName (cs : List Char) : Prop := ∀ c ∈ cs, IsSmallLetter c ∨ c = '.'

instance (cs : List Char) : Decidable (IsPlainName cs) :=
  List.decidableBAll (fun c => IsSmallLetter c ∨ c = '.') cs

theorem IsPlainName.ascii (h : IsPlainName cs) : ∀ c ∈ cs, c.toNat < 0x80 := by
  intro c hc
  rcases h c hc with hletter | rfl
  · exact hletter.ascii
  · decide

theorem mapChar?_plain {c : Char} (h : IsSmallLetter c ∨ c = '.') : mapChar? c = some [c] := by
  have hascii : c.toNat < 0x80 := by
    rcases h with h | rfl
    · exact h.ascii
    · decide
  have hlower : c.toLower = c := by
    rcases h with h | rfl
    · unfold IsSmallLetter Char.toNat at h
      refine dif_neg fun hupper => ?_
      have hbelow : c.val.toNat ≤ 0x5A := hupper.2
      omega
    · rfl
  rw [mapChar?, if_pos hascii, hlower]

theorem isForbiddenInDomain_plain {c : Char} (h : IsSmallLetter c ∨ c = '.') :
    isForbiddenInDomain c = false := by
  have hnone : ("%#/:<>?@[\\]^|".toList.all fun d => !decide (IsSmallLetter d ∨ d = '.')) = true :=
    by decide +kernel
  have hlist : "%#/:<>?@[\\]^|".toList.contains c = false := by
    rw [← Bool.not_eq_true, List.contains_iff_mem]
    intro hmem
    have hnot := List.all_eq_true.mp hnone c hmem
    rw [decide_eq_true h] at hnot
    cases hnot
  have hcode : 0x2E ≤ c.toNat ∧ c.toNat ≤ 0x7A := by
    rcases h with h | rfl
    · unfold IsSmallLetter at h
      omega
    · decide
  have hlow : ¬ c.toNat ≤ 0x20 := by omega
  have hdelete : c.toNat ≠ 0x7F := by omega
  rw [isForbiddenInDomain, hlist, decide_eq_false hlow, beq_false_of_ne hdelete]
  rfl

/-- The labels of a plain name have small letters only. -/
theorem IsPlainName.labels (h : IsPlainName cs) :
    ∀ label ∈ split '.' cs, ∀ c ∈ label, IsSmallLetter c := by
  intro label hlabel c hc
  rcases h c (mem_of_mem_split hlabel hc) with hletter | rfl
  · exact hletter
  · exact absurd hc (not_mem_of_mem_split hlabel)

theorem label?_letters {label : List Char} (h : ∀ c ∈ label, IsSmallLetter c) :
    label? label = some label := by
  have hmark : encodedMark.isPrefixOf label = false := by
    rw [Bool.eq_false_iff]
    intro hprefix
    have hhyphen : '-' ∈ label :=
      (List.isPrefixOf_iff_prefix.mp hprefix).subset (by decide)
    exact absurd (h '-' hhyphen) (by decide)
  have hhead : label.head?.any isMark = false := by
    cases label with
    | nil => rfl
    | cons c rest =>
        rw [List.head?_cons, Option.any_some]
        exact isMark_ascii (h c List.mem_cons_self).ascii
  have hformed : isWellFormed label = true := by
    rw [isWellFormed, hhead, joinersFit, joinersFitAfter_letters h]
    rfl
  rw [label?, hmark, if_neg Bool.false_ne_true, if_pos hformed]

theorem mapM_eq_some {α β : Type} {f : α → Option β} {g : α → β} {xs : List α}
    (h : ∀ x ∈ xs, f x = some (g x)) : xs.mapM f = some (xs.map g) := by
  induction xs with
  | nil => rfl
  | cons x xs ih =>
      rw [List.mapM_cons, h x List.mem_cons_self, ih fun y hy => h y (List.mem_cons_of_mem _ hy)]
      rfl

/-- A plain name is its own form in ASCII. -/
theorem domain?_plain (h : IsPlainName cs) : domain? cs = some cs := by
  have hmapped : cs.mapM mapChar? = some (cs.map ([·])) :=
    mapM_eq_some fun c hc => mapChar?_plain (h c hc)
  have hcomposed : Canonical.compose (cs.map ([·])).flatten = cs := by
    have hflat : (cs.map ([·])).flatten = cs := by
      clear h hmapped
      induction cs with
      | nil => rfl
      | cons c cs ih => rw [List.map_cons, List.flatten_cons, ih]; rfl
    rw [hflat, Canonical.compose_ascii h.ascii]
  have hlabels : (split '.' cs).mapM label? = some ((split '.' cs).map id) :=
    mapM_eq_some fun label hlabel => label?_letters (h.labels label hlabel)
  have htexts : (split '.' cs).map labelText = split '.' cs := by
    refine (List.map_congr_left fun label hlabel => ?_).trans (List.map_id _)
    have hascii : isAscii label = true := List.all_eq_true.mpr fun c hc =>
      decide_eq_true (h.labels label hlabel c hc).ascii
    exact if_pos hascii
  have hallowed : cs.any isForbiddenInDomain = false :=
    List.any_eq_false.mpr fun c hc => Bool.eq_false_iff.mp (isForbiddenInDomain_plain (h c hc))
  rw [domain?, hmapped]
  simp only [Option.bind_eq_bind, Option.bind_some, hcomposed, hlabels, List.map_id, htexts,
    join_split, keepDirections_letters h.labels, hallowed]
  rfl

/-! ## The default address -/

/-- A plain name is a host, unless it is empty or a number. -/
theorem readHost_plain {kind : SchemeKind} (h : IsPlainName cs) (hkind : kind ≠ .other)
    (hdecode : decode? cs = some cs) (hname : cs ≠ []) (hnumber : endsInNumber cs = false) :
    readHost kind cs = .ok (.domain cs) := by
  unfold readHost
  split
  · exact absurd (h '[' List.mem_cons_self) (by decide)
  · rw [if_neg hkind, hdecode, Option.bind_some, domain?_plain h]
    split
    · next hnone => cases hnone
    · next hempty => exact absurd (Option.some.inj hempty) hname
    · next name _ hsome =>
      cases hsome
      rw [if_neg (Bool.eq_false_iff.mp hnumber)]

/-- The host of the default address. -/
def defaultHost : List Char := "groups.example.com".toList

theorem readAuthority_defaultHost :
    readAuthority .special "https".toList defaultHost false
      = .ok ⟨[], [], .domain defaultHost, none⟩ := by
  have hhost : readHost .special defaultHost = .ok (.domain defaultHost) :=
    readHost_plain (by decide +kernel) (by decide) (by decide +kernel) (by decide +kernel)
      (by decide +kernel)
  have hat : breakAtLastAt defaultHost = none := by decide +kernel
  have hport : breakAtPort false defaultHost = (defaultHost, none) := by decide +kernel
  have hempty : defaultHost.isEmpty = false := by decide +kernel
  unfold readAuthority
  simp only [hat, hport, hempty, hhost]
  rfl

theorem read_default :
    Url.read Renderer.defaultBaseUrl
      = .ok ⟨"https".toList, some ⟨[], [], .domain defaultHost, none⟩, .segments [[]], none,
          none⟩ := by
  have hscheme : scheme? (clean Renderer.defaultBaseUrl.toList)
      = some ("https".toList, "//groups.example.com/".toList) := by decide +kernel
  have hkind : kindOf "https".toList = .special := by decide +kernel
  have hslashes : "//groups.example.com/".toList.dropWhile (isSlash .special)
      = defaultHost ++ ['/'] := by decide +kernel
  have htext : ((defaultHost ++ ['/']).takeWhile fun c => !endsAuthority .special c)
      = defaultHost := by decide +kernel
  have hafter : ((defaultHost ++ ['/']).dropWhile fun c => !endsAuthority .special c)
      = ['/'] := by decide +kernel
  have htail : breakAtTail ['/'] = (['/'], []) := by decide +kernel
  rw [Url.read, hscheme]
  simp only [withScheme, hkind, withAuthority, hslashes, htext, hafter, htail, List.isEmpty_cons,
    readAuthority_defaultHost]
  rfl

end Url

end AuditReminder
