/-
Configurations that are changed by key.

A configuration is kept as TOML, whose whole numbers have 64 bits and a sign, and changed as JSON,
where an interval may be larger.  So after any changes there is one question left, whether the
interval can be written (`Config.changes_saved`): if it can, the configuration is saved and loaded
again, and if it cannot, saving fails and leaves the file as it is.

A number put in the place of a number has 64 bits and a sign, and so has every number that is
loaded.  Only an object put in the place of the whole scheduler can bring a larger interval in
(`Config.interval_of_set`), and it does (`Config.set_not_saved`).
-/
import AuditReminder.Proofs.Config.Paths
import AuditReminder.Proofs.Config.Saved
import AuditReminder.Proofs.Json.Sorted
import AuditReminder.Proofs.Toml.Numbers

namespace AuditReminder

open Document

/-! ## Intervals that are decoded -/

namespace Exchange

open Decode

variable {dialect : Dialect}

theorem interval_of_schedulerConfig {node : Node} {s : SchedulerConfig}
    (h : schedulerConfig dialect node = .ok s) (hnode : node.Bounded) :
    isInt64 s.intervalSecs = true := by
  refine record_keeps (P := fun s => isInt64 s.intervalSecs = true) ?_ h hnode (by decide)
  intro slot hslot part hpart draft draft' hdraft hstore
  rcases List.mem_cons.mp hslot with rfl | hslot
  · obtain ⟨days, -, rfl⟩ := Except.map_eq_ok_iff.mp hstore
    exact hdraft
  · cases List.mem_singleton.mp hslot
    obtain ⟨secs, hsecs, rfl⟩ := Except.map_eq_ok_iff.mp hstore
    exact isInt64_of_nat64 hsecs hpart

/-- The interval of a configuration is that of its scheduler, or the default if there is none. -/
theorem interval_of_config {fs : List (Key × Node)} {ending : Ending} {before : Option Position}
    {c : Config} (h : config dialect (.record fs ending before) = .ok c)
    (hscheduler : ∀ node, (Except.ok "scheduler", node) ∈ fs → node.Bounded) :
    isInt64 c.scheduler.intervalSecs = true := by
  obtain ⟨seen, hfields⟩ := fields_of_record h
  refine fields_keeps (P := fun c => isInt64 c.scheduler.intervalSecs = true) ?_ hfields (by decide)
  intro name node hnode slot hslot draft draft' hdraft hstore
  have hname : slot.name = name := by simpa using List.find?_some hslot
  have hmem := List.mem_of_find?_eq_some hslot
  simp only [List.mem_cons, List.not_mem_nil, or_false] at hmem
  rcases hmem with rfl | rfl | rfl | rfl
  · obtain ⟨database, -, rfl⟩ := Except.map_eq_ok_iff.mp hstore
    exact hdraft
  · obtain ⟨scheduler, hdecode, rfl⟩ := Except.map_eq_ok_iff.mp hstore
    cases hname
    exact interval_of_schedulerConfig hdecode (hscheduler node hnode)
  · obtain ⟨render, -, rfl⟩ := Except.map_eq_ok_iff.mp hstore
    exact hdraft
  · obtain ⟨tiers, -, rfl⟩ := Except.map_eq_ok_iff.mp hstore
    exact hdraft

end Exchange

namespace Config

/-! ## Intervals that are set -/

section Update

variable {ε : Type} {change : Json → Except ε Json} {missing : ε} {part : String}
  {path : List String} {fields : List (String × Json)}

/-- A change behind a field puts one value in its place. -/
theorem update_object {changed : Json}
    (h : update change missing (part :: path) (.object fields) = .ok changed) :
    ∃ value value', Json.field? part (.object fields) = some value ∧
      update change missing path value = .ok value' ∧
        changed = .object (replaceField part value' fields) := by
  rw [update] at h
  split at h
  · cases h
  · next value hvalue =>
    obtain ⟨value', hvalue', h⟩ := Except.bind_eq_ok_iff.mp h
    cases h
    exact ⟨value, value', hvalue, hvalue', rfl⟩

theorem mem_replaceField {value : Json} {field : String × Json}
    (h : field ∈ replaceField part value fields) : field = (part, value) ∨ field ∈ fields := by
  induction fields with
  | nil => cases h
  | cons first rest ih =>
      rw [replaceField] at h
      split at h
      · rcases List.mem_cons.mp h with h | h
        · exact Or.inl h
        · exact Or.inr (List.mem_cons_of_mem _ h)
      · rcases List.mem_cons.mp h with rfl | h
        · exact Or.inr List.mem_cons_self
        · rcases ih h with h | h
          · exact Or.inl h
          · exact Or.inr (List.mem_cons_of_mem _ h)

end Update

theorem isInt64_of_readInteger? {text : String} {n : Int} (h : readInteger? text = some n) :
    isInt64 n = true := by
  unfold readInteger? at h
  simp only [Option.ite_none_left_eq_some, Option.ite_none_right_eq_some] at h
  obtain ⟨-, hn, heq⟩ := h
  rw [← Option.some.inj heq]
  exact hn

/-- A text in the place of a number stands for a number of 64 bits. -/
theorem readAs_integer {text : String} {n : Int} {value : Json}
    (h : readAs text (.integer n) = .ok value) : ∃ m, value = .integer m ∧ isInt64 m = true := by
  simp only [readAs] at h
  split at h
  · next m hm =>
    cases h
    exact ⟨m, rfl, isInt64_of_readInteger? hm⟩
  · cases h

/-- The number that a change puts in the place of a number has 64 bits. -/
theorem update_integer {key text : String} {path : List String} {n : Int} {value : Json}
    (h : update (fun value => (readAs text value).mapError (ConfigFault.invalidValue key))
      (.unknownKey key) path (.integer n) = .ok value) :
    ∃ m, value = .integer m ∧ isInt64 m = true := by
  cases path with
  | nil => exact readAs_integer (Except.mapError_eq_ok_iff.mp h)
  | cons part path => cases h

/-- Numbers of 64 bits are what a bounded scheduler is made of. -/
theorem bounded_scheduler {days secs : Int} (hdays : isInt64 days = true)
    (hsecs : isInt64 secs = true) :
    (Json.object [("retention_horizon_days", .integer days),
      ("interval_secs", .integer secs)]).sortKeys.toNode.Bounded := by
  have hbefore : "interval_secs" < "retention_horizon_days" := by decide +kernel
  have hsorted : (Json.object [("retention_horizon_days", .integer days),
      ("interval_secs", .integer secs)]).sortKeys = .object [("interval_secs", .integer secs),
        ("retention_horizon_days", .integer days)] := by
    show Json.object (Json.placeField "interval_secs" _ [("retention_horizon_days", _)]) = _
    rw [Json.placeField, if_pos hbefore]
    rfl
  rw [hsorted]
  exact ⟨hsecs, hdays, trivial⟩

variable {before c : Config} {key text : String}

/-- A change within the scheduler leaves it bounded. -/
theorem bounded_of_update {part : String} {path : List String} {value : Json}
    (hdays : isInt64 before.scheduler.retentionHorizonDays = true)
    (hsecs : isInt64 before.scheduler.intervalSecs = true)
    (h : update (fun value => (readAs text value).mapError (ConfigFault.invalidValue key))
      (.unknownKey key) (part :: path) before.scheduler.toJson = .ok value) :
    value.sortKeys.toNode.Bounded := by
  obtain ⟨old, new, hold, hnew, rfl⟩ := update_object h
  by_cases hdayPart : part = "retention_horizon_days"
  · subst hdayPart
    cases hold
    obtain ⟨m, rfl, hm⟩ := update_integer hnew
    exact bounded_scheduler hm hsecs
  · by_cases hsecPart : part = "interval_secs"
    · subst hsecPart
      cases hold
      obtain ⟨m, rfl, hm⟩ := update_integer hnew
      exact bounded_scheduler hdays hm
    · have hnone : Json.field? part before.scheduler.toJson = none := by
        simp [Json.field?, SchedulerConfig.toJson, Ne.symm hdayPart, Ne.symm hsecPart]
      cases hnone.symm.trans hold

theorem eq_of_keyParts {name : String} (h : keyParts key = [name]) : key = name := by
  have hjoin := Text.join_split '.' key.toList
  obtain ⟨cs, hsplit, rfl⟩ := List.map_eq_singleton_iff.mp h
  rw [hsplit] at hjoin
  rw [show cs = key.toList from hjoin, String.ofList_toList]

/-- A change of anything but the whole scheduler leaves the interval a number of 64 bits. -/
theorem interval_of_set (hbefore : before.validate = .ok ())
    (hsecs : isInt64 before.scheduler.intervalSecs = true) (hkey : key ≠ "scheduler")
    (h : before.set key text = .ok c) : isInt64 c.scheduler.intervalSecs = true := by
  obtain ⟨changed, hupdate, hdecode, -⟩ := set_eq_ok_iff.mp h
  obtain ⟨hdays, -, -⟩ := numbers_of_validate hbefore
  rcases hparts : keyParts key with _ | ⟨part, path⟩
  · exact (Text.split_ne_nil _ _ (List.map_eq_nil_iff.mp hparts)).elim
  rw [hparts] at hupdate
  obtain ⟨old, new, hold, hnew, rfl⟩ := update_object hupdate
  refine Exchange.interval_of_config hdecode ?_
  intro node hnode
  obtain ⟨field, hfield, hname, rfl⟩ := Json.mem_toFields hnode
  rcases Json.mem_sortFields hfield with hfield | ⟨given, hgiven, rfl⟩
  · cases hfield
  have hgivenName : given.1 = "scheduler" := (Except.ok.inj hname).symm
  rcases mem_replaceField hgiven with rfl | hgiven
  · -- something within the scheduler was changed
    subst hgivenName
    cases hold
    cases path with
    | nil => exact (hkey (eq_of_keyParts hparts)).elim
    | cons within path => exact bounded_of_update hdays hsecs hnew
  · -- the scheduler is as it was
    simp only [List.mem_cons, List.not_mem_nil, or_false] at hgiven
    rcases hgiven with rfl | rfl | rfl | rfl
    · simp at hgivenName
    · exact bounded_scheduler hdays hsecs
    · simp at hgivenName
    · simp at hgivenName

theorem interval_of_load {σ : Type} {platform : Platform (StateM σ)} {path : String} {s s' : σ}
    (h : (load platform path).run s = (.ok c, s')) :
    isInt64 c.scheduler.intervalSecs = true := by
  rcases load_cases h with rfl | ⟨content, hread⟩
  · decide
  · unfold read at hread
    split at hread
    · cases hread
    · next document hdocument =>
      split at hread
      · cases hread
      · next decoded hdecode =>
        obtain ⟨⟨⟩, -, rfl⟩ := Except.map_eq_ok_iff.mp hread
        obtain ⟨fields, rfl, hbounded⟩ := Toml.bounded_read hdocument
        exact Exchange.interval_of_config hdecode fun node hnode =>
          Node.boundedFields_iff.mp hbounded _ hnode

/-! ## Changes one after the other -/

/-- The configuration after some changes by key, all of which are accepted. -/
def setAll (c : Config) : List (String × String) → Except ConfigFault Config
  | [] => .ok c
  | change :: rest => do
      let changed ← c.set change.1 change.2
      setAll changed rest

/-- What changes start from: the defaults, or what is loaded on a machine. -/
inductive Initial : Config → Prop where
  | default : Initial default
  | loaded {σ : Type} {platform : Platform (StateM σ)} {path : String} {s s' : σ} {c : Config} :
      (load platform path).run s = (.ok c, s') → Initial c

theorem Initial.valid (h : Initial c) : c.validate = .ok () := by
  cases h with
  | default => exact validate_default
  | loaded hload => exact validate_of_load hload

theorem Initial.interval (h : Initial c) : isInt64 c.scheduler.intervalSecs = true := by
  cases h with
  | default => decide
  | loaded hload => exact interval_of_load hload

/-- What every one of the changes keeps, all of them keep. -/
theorem setAll_keeps {P : Config → Prop} {start : Config} {changes : List (String × String)}
    (hkeep : ∀ change ∈ changes, ∀ before after : Config, P before →
      before.set change.1 change.2 = .ok after → P after)
    (h : start.setAll changes = .ok c) (hstart : P start) : P c := by
  induction changes generalizing start with
  | nil =>
      cases h
      exact hstart
  | cons change rest ih =>
      obtain ⟨changed, hchanged, hrest⟩ := Except.bind_eq_ok_iff.mp h
      have hfirst := hkeep change List.mem_cons_self start changed hstart hchanged
      exact ih (fun change hmem => hkeep change (List.mem_cons_of_mem _ hmem)) hrest hfirst

theorem save_of_interval {σ : Type} (platform : Platform (StateM σ)) (path : String) (s : σ)
    (h : isInt64 c.scheduler.intervalSecs = false) :
    (save platform path c).run s
      = (.error (.saveFailed path "out-of-range value for u64 type"), s) := by
  unfold save write
  rw [h]
  rfl

/-- Whatever was set, starting from the defaults or from what was loaded: if the interval has 64
bits with a sign, the configuration is saved and is what is loaded next, and otherwise it is not
saved and nothing is written.  The interval is of that kind unless the whole scheduler was set. -/
theorem changes_saved {σ : Type} {platform : Platform (StateM σ)} {path : String} {s : σ}
    {start : Config} {changes : List (String × String)} (hstart : start.Initial)
    (hset : start.setAll changes = .ok c) (hwritable : platform.Writable path s)
    (hkeeps : platform.Keeps path s) :
    (isInt64 c.scheduler.intervalSecs = true →
      ∃ s', (save platform path c).run s = (.ok (), s') ∧
        ((load platform path).run s').1 = .ok c) ∧
      (isInt64 c.scheduler.intervalSecs = false →
        (save platform path c).run s
          = (.error (.saveFailed path "out-of-range value for u64 type"), s)) ∧
      ((∀ change ∈ changes, change.1 ≠ "scheduler") →
        isInt64 c.scheduler.intervalSecs = true) := by
  have hvalid : c.validate = .ok () :=
    setAll_keeps (P := fun c => c.validate = .ok ())
      (fun change _ before after _ hchange => validate_of_set hchange) hset hstart.valid
  refine ⟨?_, save_of_interval platform path s, ?_⟩
  · intro hsecs
    obtain ⟨s', hsave⟩ := save_of_writable hsecs hwritable
    exact ⟨s', hsave, load_of_save hvalid hkeeps hsave⟩
  · intro hkeys
    have hboth := setAll_keeps
      (P := fun c => c.validate = .ok () ∧ isInt64 c.scheduler.intervalSecs = true) ?_ hset
      ⟨hstart.valid, hstart.interval⟩
    · exact hboth.2
    · intro change hmem before after hbefore hchange
      exact ⟨validate_of_set hchange,
        interval_of_set hbefore.1 hbefore.2 (hkeys change hmem) hchange⟩

/-- The defaults, but for the interval. -/
def withInterval (secs : Nat) : Config :=
  { default with scheduler := { default.scheduler with intervalSecs := secs } }

theorem validate_withInterval {secs : Nat} (h : secs ≠ 0) :
    (withInterval secs).validate = .ok () := by
  obtain ⟨hschedule, hdays, -, hrenderer⟩ := validate_eq_ok_iff.mp validate_default
  exact validate_eq_ok_iff.mpr ⟨hschedule, hdays, h, hrenderer⟩

/-- An interval of a minute is set, saved and loaded. -/
theorem changes_saved_sample :
    default.setAll [("scheduler.interval_secs", "60")] = .ok (withInterval 60) ∧
      ∃ s', (save Machine.platform "config.toml" (withInterval 60)).run .bare = (.ok (), s') ∧
        ((load Machine.platform "config.toml").run s').1 = .ok (withInterval 60) := by
  have hone : default.set "scheduler.interval_secs" "60" = .ok (withInterval 60) :=
    set_eq_ok_iff.mpr
      ⟨(withInterval 60).toJson, by rfl, by rfl, validate_withInterval (by decide)⟩
  have hset : default.setAll [("scheduler.interval_secs", "60")] = .ok (withInterval 60) :=
    Except.bind_eq_ok_iff.mpr ⟨_, hone, rfl⟩
  obtain ⟨hsaved, -, hinterval⟩ := changes_saved .default hset
    (Machine.writable Machine.holds_bare) (Machine.keeps Machine.holds_bare)
  exact ⟨hset, hsaved (hinterval (by decide))⟩

/-- An object in the place of the whole scheduler is accepted with the greatest interval of 64 bits,
and then it is not saved, although every text can be written to the file. -/
theorem set_not_saved :
    ∃ c, default.set "scheduler"
        "\x7b\"retention_horizon_days\":30,\"interval_secs\":18446744073709551615\x7d" = .ok c ∧
      Machine.platform.Writable "config.toml" .bare ∧
        ((save Machine.platform "config.toml" c).run .bare).1
          = .error (.saveFailed "config.toml" "out-of-range value for u64 type") := by
  let scheduler := (withInterval 18446744073709551615).scheduler.toJson
  have hread : readAs.json
      "\x7b\"retention_horizon_days\":30,\"interval_secs\":18446744073709551615\x7d"
      = .ok scheduler := by
    have htext : scheduler.compact
        = "\x7b\"retention_horizon_days\":30,\"interval_secs\":18446744073709551615\x7d" := by
      decide +kernel
    have hplain : scheduler.Plain Decode.maxLevels :=
      ⟨by decide, ⟨by decide, by decide⟩, ⟨by decide, by decide⟩, trivial⟩
    rw [← htext, readAs.json, Json.source_compact hplain]
    rfl
  refine ⟨withInterval 18446744073709551615, ?_, Machine.writable Machine.holds_bare, ?_⟩
  · refine set_eq_ok_iff.mpr ⟨(withInterval 18446744073709551615).toJson, ?_, by rfl,
      validate_withInterval (by decide)⟩
    exact update_eq_ok_iff.mpr ⟨default.scheduler.toJson, scheduler, by rfl,
      Except.mapError_eq_ok_iff.mpr hread, by rfl⟩
  · rw [save_of_interval _ _ _ (by decide)]

end Config

end AuditReminder
