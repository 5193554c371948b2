/-
Configurations by key.

The value of a key is what stands at the end of its path (`get?_eq`), and a change puts another one
there (`set_eq_ok_iff_replaceAt`).  A configuration is a view of what it is encoded to (`view`): it
is made of records, and at their ends of texts, of numbers and of the list of its tiers.

Main statement: `lawful_view`.
-/
import AuditReminder.Proofs.Config.Changes
import AuditReminder.Proofs.Config.Paths
import AuditReminder.Proofs.Exchange.Members

namespace AuditReminder

open Document Config

/-! ## Parts of a configuration -/

namespace Config.View

theorem text : View Decode.text Json.text fun _ => True := by
  refine leaf (fun s fields h => by cases h) (fun _ _ => rfl) fun s t new hsame hdecode => ?_
  cases hsame
  cases hdecode
  rfl

theorem eq_of_number {low high m n : Int} {expected : String} {dialect : Dialect}
    {after : Option Position}
    (h : Decode.number low high expected dialect (.atom (.integer n) after) = .ok m) :
    low ≤ n ∧ m = n := by
  rw [Decode.number] at h
  split at h
  · next hbounds =>
    cases h
    exact ⟨hbounds.1, rfl⟩
  · cases h

theorem int64 : View Decode.int64 Json.integer fun n => isInt64 n = true := by
  refine leaf (fun n fields h => by cases h) (fun n hn => Decode.int64_atom hn)
    fun n m new hsame hdecode => ?_
  cases hsame
  exact congrArg Json.integer (eq_of_number hdecode).2

theorem nat64 : View Decode.nat64 (fun n => .integer n) fun n => isInt64 n = true := by
  refine leaf (fun n fields h => by cases h) (fun n hn => Decode.nat64_atom hn)
    fun n m new hsame hdecode => ?_
  cases hsame with
  | integer _ k =>
      obtain ⟨j, hj, rfl⟩ := Except.map_eq_ok_iff.mp hdecode
      obtain ⟨hpos, rfl⟩ := eq_of_number hj
      exact congrArg Json.integer (Int.toNat_of_nonneg hpos)

end Config.View

namespace Tier

theorem of_toJson {tier : Tier} (h : isInt64 tier.offsetDays = true) :
    Exchange.tier .value tier.toJson.sortKeys.toNode = .ok tier := by
  refine Member.record_toJson apart_members (a := tier) ?_
  simp only [members, List.forall_mem_cons]
  refine ⟨rfl, Decode.int64_atom h, ?_, fun _ hmember => by cases hmember⟩
  cases tier.kind with
  | standard => rfl
  | reminder => rfl

theorem items_of_toJson {tiers : List Tier} (h : ∀ tier ∈ tiers, isInt64 tier.offsetDays = true) :
    Decode.items (Exchange.tier .value) (Json.toNodes (Json.sortItems (tiers.map toJson)))
      = .ok tiers := by
  induction tiers with
  | nil => rfl
  | cons tier rest ih =>
      have hrest := ih fun other hother => h other (List.mem_cons_of_mem _ hother)
      rw [List.map_cons, Json.sortItems, Json.toNodes, Decode.items,
        of_toJson (h tier List.mem_cons_self)]
      simp only [bind, Except.bind, hrest]
      rfl

theorem view_list : View Exchange.tiers (fun tiers => .list (tiers.map toJson))
    fun tiers => ∀ tier ∈ tiers, isInt64 tier.offsetDays = true := by
  refine View.leaf (fun tiers fields h => by cases h) (fun tiers h => ?_)
    fun tiers tiers' new hsame => by cases hsame
  show (Decode.items (Exchange.tier .value) (Json.toNodes (Json.sortItems (tiers.map toJson)))
    >>= _) = _
  rw [items_of_toJson h]
  rfl

end Tier

namespace TemplatePair

def members : List (Member TemplatePair) :=
  [⟨String, "subject", true, Decode.text, .text, subject,
      fun subject pair => { pair with subject := subject }⟩,
    ⟨String, "body", true, Decode.text, .text, body, fun body pair => { pair with body := body }⟩]

theorem apart_members : Member.Apart members where
  names := by decide
  get_put := by simp [members]
  get_put_of_ne := by simp [members]
  ext a b h := by
    simp only [members, List.forall_mem_cons] at h
    obtain ⟨hsubject, hbody, -⟩ := h
    cases a
    cases b
    cases hsubject
    cases hbody
    rfl

theorem view : View Exchange.templatePair toJson fun _ => True := by
  refine View.record members "struct TemplatePair" ⟨"", ""⟩ apart_members ?_
  simp only [members, List.forall_mem_cons]
  exact ⟨⟨_, View.text, fun _ _ => trivial⟩, ⟨_, View.text, fun _ _ => trivial⟩,
    fun _ hmember => by cases hmember⟩

end TemplatePair

namespace SchedulerConfig

def members : List (Member SchedulerConfig) :=
  [⟨Int, "retention_horizon_days", false, Decode.int64, .integer, retentionHorizonDays,
      fun days c => { c with retentionHorizonDays := days }⟩,
    ⟨Nat, "interval_secs", false, Decode.nat64, fun secs => .integer secs, intervalSecs,
      fun secs c => { c with intervalSecs := secs }⟩]

theorem apart_members : Member.Apart members where
  names := by decide
  get_put := by simp [members]
  get_put_of_ne := by simp [members]
  ext a b h := by
    simp only [members, List.forall_mem_cons] at h
    obtain ⟨hdays, hsecs, -⟩ := h
    cases a
    cases b
    cases hdays
    cases hsecs
    rfl

/-- Its numbers have 64 bits and a sign. -/
def IsWritable (c : SchedulerConfig) : Prop :=
  isInt64 c.retentionHorizonDays = true ∧ isInt64 c.intervalSecs = true

theorem view : View Exchange.schedulerConfig toJson IsWritable := by
  refine View.record members "struct SchedulerConfig" .default apart_members ?_
  simp only [members, List.forall_mem_cons]
  exact ⟨⟨_, View.int64, fun _ h => h.1⟩, ⟨_, View.nat64, fun _ h => h.2⟩,
    fun _ hmember => by cases hmember⟩

end SchedulerConfig

namespace RenderConfig

def members : List (Member RenderConfig) :=
  [⟨String, "base_url", false, Decode.text, .text, baseUrl,
      fun url c => { c with baseUrl := url }⟩,
    ⟨String, "date_format", false, Decode.text, .text, dateFormat,
      fun format c => { c with dateFormat := format }⟩,
    ⟨TemplatePair, "standard", false, Exchange.templatePair, TemplatePair.toJson, standard,
      fun pair c => { c with standard := pair }⟩,
    ⟨TemplatePair, "reminder", false, Exchange.templatePair, TemplatePair.toJson, reminder,
      fun pair c => { c with reminder := pair }⟩]

theorem apart_members : Member.Apart members where
  names := by decide
  get_put := by simp [members]
  get_put_of_ne := by simp [members]
  ext a b h := by
    simp only [members, List.forall_mem_cons] at h
    obtain ⟨hurl, hformat, hstandard, hreminder, -⟩ := h
    cases a
    cases b
    cases hurl
    cases hformat
    cases hstandard
    cases hreminder
    rfl

theorem view : View Exchange.renderConfig toJson fun _ => True := by
  refine View.record members "struct RenderConfig" .default apart_members ?_
  simp only [members, List.forall_mem_cons]
  exact ⟨⟨_, View.text, fun _ _ => trivial⟩, ⟨_, View.text, fun _ _ => trivial⟩,
    ⟨_, TemplatePair.view, fun _ _ => trivial⟩, ⟨_, TemplatePair.view, fun _ _ => trivial⟩,
    fun _ hmember => by cases hmember⟩

end RenderConfig

namespace Config

def members : List (Member Config) :=
  [⟨String, "database", false, Decode.text, .text, database,
      fun database c => { c with database := database }⟩,
    ⟨SchedulerConfig, "scheduler", false, Exchange.schedulerConfig, SchedulerConfig.toJson,
      scheduler, fun scheduler c => { c with scheduler := scheduler }⟩,
    ⟨RenderConfig, "render", false, Exchange.renderConfig, RenderConfig.toJson, render,
      fun render c => { c with render := render }⟩,
    ⟨List Tier, "tiers", false, Exchange.tiers, fun tiers => .list (tiers.map Tier.toJson), tiers,
      fun tiers c => { c with tiers := tiers }⟩]

theorem apart_members : Member.Apart members where
  names := by decide
  get_put := by simp [members]
  get_put_of_ne := by simp [members]
  ext a b h := by
    simp only [members, List.forall_mem_cons] at h
    obtain ⟨hdatabase, hscheduler, hrender, htiers, -⟩ := h
    cases a
    cases b
    cases hdatabase
    cases hscheduler
    cases hrender
    cases htiers
    rfl

/-- Its numbers have 64 bits and a sign. -/
def IsWritable (c : Config) : Prop :=
  c.scheduler.IsWritable ∧ ∀ tier ∈ c.tiers, isInt64 tier.offsetDays = true

theorem view : View Exchange.config toJson IsWritable := by
  refine View.record members "struct Config" .default apart_members ?_
  simp only [members, List.forall_mem_cons]
  exact ⟨⟨_, View.text, fun _ _ => trivial⟩, ⟨_, SchedulerConfig.view, fun _ h => h.1⟩,
    ⟨_, RenderConfig.view, fun _ _ => trivial⟩, ⟨_, Tier.view_list, fun _ h => h.2⟩,
    fun _ hmember => by cases hmember⟩

/-! ## What is shown -/

variable {c c' : Config} {key text : String}

/-- The value of a key, before it is shown. -/
def valueAt? (c : Config) (key : String) : Option Json := lookUp (keyParts key) c.toJson

/-- A key shows its value with the fields in order. -/
theorem get?_eq (c : Config) (key : String) :
    c.get? key = (c.valueAt? key).map fun value => shown value.sortKeys := by
  unfold get?
  split
  · next hempty =>
    subst hempty
    rfl
  · rw [view.sorts, valueAt?, Option.map_map]
    rfl

theorem readInteger?_text {n : Int} (h : isInt64 n = true) :
    readInteger? (Decimal.text n) = some n := by
  have hall : (Decimal.digits n.natAbs).all Char.isDigit = true :=
    List.all_eq_true.mpr fun _ hc => Decimal.isDigit_of_mem_digits hc
  have hdigits : ¬ (Decimal.digits n.natAbs = [] ∨ ¬ (Decimal.digits n.natAbs).all Char.isDigit) :=
    not_or.mpr ⟨Decimal.digits_ne_nil _, not_not_intro hall⟩
  unfold readInteger?
  rw [Decimal.text, String.toList_ofList]
  rcases Decimal.signed_cases n with ⟨hneg, hsigned⟩ | ⟨hpos, hsigned⟩
  · have hvalue : -(Decimal.value (Decimal.digits n.natAbs) : Int) = n := by
      rw [Decimal.value_digits]
      omega
    rw [hsigned]
    simp only [if_neg hdigits, if_true, hvalue, h]
  · have hvalue : (Decimal.value (Decimal.digits n.natAbs) : Int) = n := by
      rw [Decimal.value_digits]
      omega
    obtain ⟨d, ds, hcons, hdigit⟩ := Decimal.digits_eq_cons n.natAbs
    rw [hcons] at hdigits hvalue
    rw [hsigned, hcons]
    split
    · next negative digits heq =>
      split at heq
      · next hminus =>
        cases hminus
        cases hdigit
      · next hplus =>
        cases hplus
        cases hdigit
      · cases heq
        simp only [if_neg hdigits, Bool.false_eq_true, if_false, hvalue, h, if_true]

/-- What is shown of a value is read as this value in its own place. -/
theorem readAs_shown {value : Json} (hplain : value.Plain Decode.maxLevels)
    (hbounded : value.toNode.Bounded) :
    ∃ new, readAs (shown value.sortKeys) value = .ok new ∧ new.sortKeys = value.sortKeys := by
  have hsource := Json.source_compact (Json.plain_sortKeys hplain)
  have hjson : readAs.json value.sortKeys.compact = .ok value.sortKeys := by
    rw [readAs.json, hsource]
    rfl
  cases value with
  | text s => exact ⟨.text s, rfl, rfl⟩
  | integer n =>
      refine ⟨.integer n, ?_, rfl⟩
      show readAs (Decimal.text n) (.integer n) = _
      rw [readAs, readInteger?_text hbounded]
  | list items => exact ⟨_, hjson, Json.sortKeys_sortKeys _⟩
  | object fields => exact ⟨_, hjson, Json.sortKeys_sortKeys _⟩
  | null | bool | float => exact hplain.elim

theorem isWritable_of_validate (h : c.validate = .ok ())
    (hsecs : isInt64 c.scheduler.intervalSecs = true) : c.IsWritable := by
  obtain ⟨hdays, -, htiers⟩ := numbers_of_validate h
  exact ⟨⟨hdays, hsecs⟩, htiers⟩

theorem plain_toJson (h : c.IsWritable) : c.toJson.Plain Decode.maxLevels := by
  obtain ⟨⟨hdays, hsecs⟩, htiers⟩ := h
  have hitems : ∀ tiers : List Tier, (∀ tier ∈ tiers, isInt64 tier.offsetDays = true) →
      Json.PlainItems 126 (tiers.map Tier.toJson) := by
    intro tiers htiers
    induction tiers with
    | nil => trivial
    | cons tier rest ih =>
        have hoffset := Json.whole_of_isInt64 (htiers tier List.mem_cons_self)
        exact ⟨⟨by decide, trivial, hoffset, trivial, trivial⟩,
          ih fun other hother => htiers other (List.mem_cons_of_mem _ hother)⟩
  refine ⟨by decide, trivial, ?scheduler, ?render, ?tiers, trivial⟩
  case scheduler =>
    exact ⟨by decide, Json.whole_of_isInt64 hdays, Json.whole_of_isInt64 hsecs, trivial⟩
  case render =>
    exact ⟨by decide, trivial, trivial, ⟨by decide, trivial, trivial, trivial⟩,
      ⟨by decide, trivial, trivial, trivial⟩, trivial⟩
  case tiers => exact ⟨by decide, hitems c.tiers htiers⟩

theorem bounded_toJson (h : c.IsWritable) : c.toJson.toNode.Bounded := by
  obtain ⟨⟨hdays, hsecs⟩, htiers⟩ := h
  have hitems : ∀ tiers : List Tier, (∀ tier ∈ tiers, isInt64 tier.offsetDays = true) →
      Node.BoundedItems (Json.toNodes (tiers.map Tier.toJson)) := by
    intro tiers htiers
    induction tiers with
    | nil => trivial
    | cons tier rest ih =>
        exact ⟨⟨trivial, htiers tier List.mem_cons_self, trivial, trivial⟩,
          ih fun other hother => htiers other (List.mem_cons_of_mem _ hother)⟩
  exact ⟨trivial, ⟨hdays, hsecs, trivial⟩, ⟨trivial, trivial, ⟨trivial, trivial, trivial⟩,
    ⟨trivial, trivial, trivial⟩, trivial⟩, hitems c.tiers htiers, trivial⟩

/-! ## What is put there -/

/-- A change by key puts a value in the place of another, and is decoded and checked. -/
theorem set_eq_ok_iff_replaceAt :
    c.set key text = .ok c' ↔
      ∃ old new, c.valueAt? key = some old ∧ readAs text old = .ok new ∧
        Exchange.config .value (replaceAt (keyParts key) new c.toJson).sortKeys.toNode = .ok c' ∧
        c'.validate = .ok () := by
  rw [set_eq_ok_iff]
  constructor
  · rintro ⟨changed, hchanged, hdecode, hvalid⟩
    obtain ⟨old, new, hold, hnew, rfl⟩ := update_eq_ok_iff.mp hchanged
    exact ⟨old, new, hold, Except.mapError_eq_ok_iff.mp hnew, hdecode, hvalid⟩
  · rintro ⟨old, new, hold, hnew, hdecode, hvalid⟩
    exact ⟨_, update_eq_ok_iff.mpr ⟨old, new, hold, Except.mapError_eq_ok_iff.mpr hnew, rfl⟩,
      hdecode, hvalid⟩

/-- A check finds fault with values, not with keys. -/
theorem validate_ne_unknownKey (name : String) : c.validate ≠ .error (.unknownKey name) := by
  intro h
  unfold validate at h
  simp only [bind, Except.bind, pure, Except.pure] at h
  split at h
  · next fault hschedule =>
    cases h
    obtain ⟨reason, -, hfault⟩ := Except.mapError_eq_error_iff.mp hschedule
    cases hfault
  · split at h
    · cases h
    · split at h
      · cases h
      · split at h
        · next fault hrenderer =>
          cases h
          unfold RenderConfig.renderer at hrenderer
          split at hrenderer
          · cases hrenderer
          · split at hrenderer <;> cases hrenderer
        · cases h

/-- A change is refused for its key if there is no value, and for nothing else. -/
theorem set_eq_unknownKey_iff {name : String} :
    c.set key text = .error (.unknownKey name) ↔ c.valueAt? key = none ∧ name = key := by
  constructor
  · intro h
    rcases Except.bind_eq_error_iff.mp h with h | ⟨changed, -, h⟩
    · rw [update_eq] at h
      rcases hvalue : lookUp (keyParts key) c.toJson with _ | old
      · rw [hvalue] at h
        cases h
        exact ⟨hvalue, rfl⟩
      · rw [hvalue] at h
        simp only at h
        rcases hread : readAs text old with reason | new
        · rw [hread] at h
          cases h
        · rw [hread] at h
          cases h
    rcases Except.bind_eq_error_iff.mp h with h | ⟨updated, -, h⟩
    · obtain ⟨fault, -, h⟩ := Except.mapError_eq_error_iff.mp h
      cases h
    rcases Except.bind_eq_error_iff.mp h with h | ⟨done, -, h⟩
    · exact (validate_ne_unknownKey name h).elim
    · cases h
  · rintro ⟨hvalue, rfl⟩
    refine Except.bind_eq_error_iff.mpr (Or.inl ?_)
    rw [update_eq, ← valueAt?, hvalue]

/-- Changes a configuration in place; it stays as it was if the change is refused. -/
def change (key text : String) : StateM Config (Except ConfigFault Unit) := fun c =>
  match c.set key text with
  | .ok updated => (.ok (), updated)
  | .error fault => (.error fault, c)

/-- The laws of keys, for a configuration that is in order and whose interval has 64 bits and a
sign.  Where a key shows nothing a change is refused for that key, and only there.  What a key shows
can be put there and changes nothing, be it a text, a number, an object or the list of tiers.  An
accepted change shows the text put in the place of a text, and the number that the text spells in
the place of a number; it leaves what is shown under every key that leads neither through it nor on
from it; and it leaves a configuration in order.  A change that is refused leaves all as it was. -/
theorem lawful_view (hvalid : c.validate = .ok ()) (hsecs : isInt64 c.scheduler.intervalSecs = true)
    (key text : String) :
    (∀ name, c.set key text = .error (.unknownKey name) ↔ c.get? key = none ∧ name = key) ∧
      (∀ s, c.get? key = some s → c.set key s = .ok c) ∧
      (∀ c', c.set key text = .ok c' →
        (∀ s, c.valueAt? key = some (.text s) → c'.get? key = some text) ∧
          (∀ m, c.valueAt? key = some (.integer m) →
            ∃ n, readInteger? text = some n ∧ c'.get? key = some (Decimal.text n)) ∧
          (∀ other, Apart (keyParts key) (keyParts other) → c'.get? other = c.get? other)) ∧
      ∀ outcome after, (change key text).run c = (outcome, after) →
        after.validate = .ok () ∧ ∀ fault, outcome = .error fault → after = c := by
  have hwritable := isWritable_of_validate hvalid hsecs
  refine ⟨?unknown, ?again, ?changed, ?kept⟩
  case unknown =>
    intro name
    rw [set_eq_unknownKey_iff, get?_eq, Option.map_eq_none_iff]
  case again =>
    intro s hs
    rw [get?_eq] at hs
    obtain ⟨old, hold, rfl⟩ := Option.map_eq_some_iff.mp hs
    obtain ⟨new, hnew, hsame⟩ := readAs_shown (plain_lookUp (plain_toJson hwritable) hold)
      (bounded_lookUp (bounded_toJson hwritable) hold)
    refine set_eq_ok_iff_replaceAt.mpr ⟨old, new, hold, hnew, ?_, hvalid⟩
    rw [sortKeys_replaceAt hold hsame]
    exact view.decodes c hwritable
  case changed =>
    intro c' h
    obtain ⟨old, new, hold, hnew, hdecode, -⟩ := set_eq_ok_iff_replaceAt.mp h
    refine ⟨fun s hs => ?_, fun m hm => ?_, fun other hother => ?_⟩
    · obtain rfl : old = .text s := Option.some.inj (hold.symm.trans hs)
      cases hnew
      have htaken := view.takes c c' _ _ _ hold (.text s text) hdecode
      rw [get?_eq, valueAt?, htaken]
      rfl
    · obtain rfl : old = .integer m := Option.some.inj (hold.symm.trans hm)
      rw [readAs] at hnew
      split at hnew
      · next n hn =>
        cases hnew
        have htaken := view.takes c c' _ _ _ hold (.integer m n) hdecode
        rw [get?_eq, valueAt?, htaken]
        exact ⟨n, hn, rfl⟩
      · cases hnew
    · rw [get?_eq, get?_eq, valueAt?, valueAt?,
        view.keeps c c' _ _ _ hwritable hold hdecode _ hother]
  case kept =>
    intro outcome after hafter
    have hchange : change key text c = (outcome, after) := hafter
    unfold change at hchange
    split at hchange
    · next updated hset =>
      cases hchange
      exact ⟨validate_of_set hset, fun fault hfault => by cases hfault⟩
    · cases hchange
      exact ⟨hvalid, fun _ _ => rfl⟩

/-- With the defaults there is nothing under `tiers.0`, what is shown of the templates can be put
back, and a minute is shown as such whatever zeros it was written with. -/
theorem lawful_view_sample :
    default.validate = .ok () ∧ isInt64 default.scheduler.intervalSecs = true ∧
      default.set "tiers.0" "14d" = .error (.unknownKey "tiers.0") ∧
      (∃ s, default.get? "render" = some s ∧ default.set "render" s = .ok default) ∧
      default.set "scheduler.interval_secs" "+060" = .ok (withInterval 60) ∧
      (withInterval 60).get? "scheduler.interval_secs" = some "60" ∧
      (withInterval 60).get? "render" = default.get? "render" := by
  have hsecs : isInt64 default.scheduler.intervalSecs = true := by decide
  obtain ⟨hunknown, -, -, -⟩ := lawful_view validate_default hsecs "tiers.0" "14d"
  obtain ⟨-, hagain, -, -⟩ := lawful_view validate_default hsecs "render" ""
  obtain ⟨-, -, hchanged, -⟩ := lawful_view validate_default hsecs "scheduler.interval_secs" "+060"
  have hset : default.set "scheduler.interval_secs" "+060" = .ok (withInterval 60) :=
    set_eq_ok_iff.mpr
      ⟨(withInterval 60).toJson, by rfl, by rfl, validate_withInterval (by decide)⟩
  obtain ⟨-, hnumber, hothers⟩ := hchanged _ hset
  obtain ⟨n, hn, hshown⟩ := hnumber 300 (by rfl)
  have hsixty : n = 60 := Option.some.inj (hn.symm.trans (by rfl))
  have hnone : default.get? "tiers.0" = none := by
    rw [get?_eq]
    rfl
  have hparts : keyParts "render" = ["render"] := by rfl
  have hrender : ∃ s, default.get? "render" = some s := by
    have hvalue : default.valueAt? "render" = some default.render.toJson := by
      rw [valueAt?, hparts]
      rfl
    rw [get?_eq, hvalue]
    exact ⟨_, rfl⟩
  obtain ⟨s, hs⟩ := hrender
  refine ⟨validate_default, hsecs, (hunknown _).mpr ⟨hnone, rfl⟩, ⟨s, hs, hagain s hs⟩, hset, ?_,
    hothers "render" ?_⟩
  · rw [hshown, hsixty]
    decide +kernel
  · have hparts' : keyParts "scheduler.interval_secs" = ["scheduler", "interval_secs"] := by rfl
    rw [hparts, hparts']
    exact ⟨by decide, by decide⟩

end Config

end AuditReminder
