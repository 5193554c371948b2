/-
Configurations that are saved.

A checked configuration is made of texts, which can be written whatever they hold, and of numbers
that its check keeps small, but for the interval.  Written as a document of TOML it is in order: the
plain fields of each table stand in front of its tables.  So it is read back as it was
(`Config.read_of_write`), and where a file keeps what is written, what is saved is what is loaded
next.

Main statement: `Config.file_round_trip`.
-/
import AuditReminder.Proofs.Config
import AuditReminder.Proofs.Files
import AuditReminder.Proofs.Toml.Documents

namespace AuditReminder

open Document

/-! ## What a configuration is decoded to -/

namespace Exchange

open Decode

theorem kind_text (k : Kind) : kind .toml (Toml.text k.text).toNode = .ok k := by
  cases k with
  | standard => rfl
  | reminder => rfl

theorem tier_toToml {t : Tier} (h : isInt64 t.offsetDays = true) :
    tier .toml t.toToml.toNode = .ok t := by
  apply record_eq_ok
  · refine (fields_cons rfl (by simp) (store_eq_ok rfl _)).trans ?_
    refine (fields_cons rfl (by simp) (store_eq_ok (int64_atom h) _)).trans ?_
    exact fields_cons rfl (by simp) (store_eq_ok (kind_text t.kind) _)
  · rfl

theorem items_toToml {ts : List Tier} (h : ∀ t ∈ ts, isInt64 t.offsetDays = true) :
    items (tier .toml) (Toml.toNodes (ts.map Tier.toToml)) = .ok ts := by
  induction ts with
  | nil => rfl
  | cons t rest ih =>
      have hfirst := tier_toToml (h t List.mem_cons_self)
      have hrest := ih fun t ht => h t (List.mem_cons_of_mem _ ht)
      rw [List.map_cons, Toml.toNodes, items, hfirst]
      simp only [bind, Except.bind, hrest]
      rfl

theorem tiers_toToml {ts : List Tier} (h : ∀ t ∈ ts, isInt64 t.offsetDays = true) :
    tiers .toml (Toml.list (ts.map Tier.toToml)).toNode = .ok ts := by
  show (items (tier .toml) (Toml.toNodes (ts.map Tier.toToml)) >>= _) = _
  rw [items_toToml h]
  rfl

theorem schedulerConfig_table {s : SchedulerConfig} (hdays : isInt64 s.retentionHorizonDays = true)
    (hsecs : isInt64 s.intervalSecs = true) :
    schedulerConfig .toml (Toml.table [("retention_horizon_days", .integer s.retentionHorizonDays),
      ("interval_secs", .integer s.intervalSecs)]).toNode = .ok s := by
  apply record_eq_ok
  · refine (fields_cons rfl (by simp) (store_eq_ok (int64_atom hdays) _)).trans ?_
    exact fields_cons rfl (by simp) (store_eq_ok (nat64_atom hsecs) _)
  · rfl

theorem config_toToml {c : Config} (hdays : isInt64 c.scheduler.retentionHorizonDays = true)
    (hsecs : isInt64 c.scheduler.intervalSecs = true)
    (htiers : ∀ t ∈ c.tiers, isInt64 t.offsetDays = true) :
    config .toml (Toml.table c.toToml).toNode = .ok c := by
  apply record_eq_ok
  · refine (fields_cons rfl (by simp) (store_eq_ok rfl _)).trans ?_
    refine (fields_cons rfl (by simp) (store_eq_ok (schedulerConfig_table hdays hsecs) _)).trans ?_
    -- the texts of the templates and the address are decoded as they are
    have hrender : renderConfig .toml (Toml.table [("base_url", .text c.render.baseUrl),
        ("date_format", .text c.render.dateFormat), ("standard", c.render.standard.toToml),
        ("reminder", c.render.reminder.toToml)]).toNode = .ok c.render := rfl
    refine (fields_cons rfl (by simp) (store_eq_ok hrender _)).trans ?_
    exact fields_cons rfl (by simp) (store_eq_ok (tiers_toToml htiers) _)
  · rfl

end Exchange

namespace Config

variable {c : Config}

/-! ## What is written -/

/-- The numbers of a checked configuration have 64 bits, but perhaps for its interval. -/
theorem numbers_of_validate (h : c.validate = .ok ()) :
    isInt64 c.scheduler.retentionHorizonDays = true ∧
      c.tiers ≠ [] ∧ ∀ t ∈ c.tiers, isInt64 t.offsetDays = true := by
  obtain ⟨⟨schedule, hschedule⟩, hdays, -, -⟩ := validate_eq_ok_iff.mp h
  obtain ⟨hsome, hoffsets⟩ := Schedule.offsets_of_ofTiers (schedule_eq_ok_iff.mp hschedule)
  have hsmall {n : Int} (hn : -maxOffsetDays ≤ n ∧ n ≤ maxOffsetDays) : isInt64 n = true := by
    rw [isInt64_iff]
    exact ⟨Int.le_trans (by decide) hn.1, Int.le_trans hn.2 (by decide)⟩
  rw [not_or, Int.not_lt, Int.not_lt] at hdays
  exact ⟨hsmall ⟨Int.le_trans (by decide) hdays.1, hdays.2⟩, hsome,
    fun t ht => hsmall (hoffsets t ht)⟩

theorem inOrder_toToml (h : c.tiers ≠ []) : Toml.InOrder c.toToml where
  keys := by simp [toToml]
  plainFirst := by
    rcases htiers : c.tiers with _ | ⟨t, rest⟩
    · exact (h htiers).elim
    · simp only [toToml, htiers]
      rfl

theorem kept_templatePair (pair : TemplatePair) {levels : Nat} (h : 0 < levels) :
    Toml.Kept levels pair.toToml :=
  ⟨h, ⟨by simp, rfl⟩, trivial, trivial, trivial⟩

theorem kept_tiers {ts : List Tier} (h : ∀ t ∈ ts, isInt64 t.offsetDays = true) (levels : Nat) :
    Toml.KeptItems levels (ts.map Tier.toToml) := by
  induction ts with
  | nil => trivial
  | cons t rest ih =>
      have hrest := ih fun t ht => h t (List.mem_cons_of_mem _ ht)
      exact ⟨⟨by simp, rfl⟩, ⟨trivial, h t List.mem_cons_self, trivial, trivial⟩, hrest⟩

theorem kept_toToml (hdays : isInt64 c.scheduler.retentionHorizonDays = true)
    (hsecs : isInt64 c.scheduler.intervalSecs = true) (hsome : c.tiers ≠ [])
    (htiers : ∀ t ∈ c.tiers, isInt64 t.offsetDays = true) :
    Toml.KeptFields Toml.maxDepth c.toToml := by
  refine ⟨trivial, ?scheduler, ?render, ?tiers, trivial⟩
  case scheduler => exact ⟨by decide, ⟨by simp, rfl⟩, hdays, hsecs, trivial⟩
  case render =>
    exact ⟨by decide, ⟨by simp, rfl⟩, trivial, trivial, kept_templatePair _ (by decide),
      kept_templatePair _ (by decide), trivial⟩
  case tiers => exact ⟨by decide, by simpa using hsome, kept_tiers htiers _⟩

theorem write_eq_ok_iff {text : String} :
    c.write = .ok text ↔
      isInt64 c.scheduler.intervalSecs = true ∧ String.ofList (Toml.write c.toToml) = text := by
  unfold write
  cases isInt64 c.scheduler.intervalSecs <;> simp

/-- A checked configuration that can be written is read back as it was. -/
theorem read_of_write {text : String} (h : c.validate = .ok ()) (hwrite : c.write = .ok text)
    (path : String) : read path text = .ok c := by
  obtain ⟨hsecs, rfl⟩ := write_eq_ok_iff.mp hwrite
  obtain ⟨hdays, hsome, htiers⟩ := numbers_of_validate h
  have hdocument := Toml.read_write (inOrder_toToml hsome) (kept_toToml hdays hsecs hsome htiers)
  unfold read
  simp only [hdocument, Exchange.config_toToml hdays hsecs htiers, h]
  rfl

/-! ## What is saved -/

section Saving

variable {σ : Type} {platform : Platform (StateM σ)} {path : String} {s s' : σ}

theorem save_eq_ok_iff :
    (save platform path c).run s = (.ok (), s') ↔
      ∃ text, c.write = .ok text ∧ (platform.writeText path text).run s = (.ok (), s') := by
  unfold save
  rcases c.write with reason | text
  · constructor
    · intro h
      cases h
    · rintro ⟨text, htext, -⟩
      cases htext
  · simp only [StateT.run, bind, StateT.bind, Except.ok.injEq, exists_eq_left']
    rcases platform.writeText path text s with ⟨fault | done, after⟩
    · constructor
      · intro h
        cases h
      · intro h
        cases h
    · constructor
      · intro h
        cases h
        rfl
      · intro h
        cases h
        rfl

/-- A file that is there is read. -/
theorem load_of_readText {text : String} (h : ((platform.readText path).run s).1 = .ok text) :
    ((load platform path).run s).1 = read path text := by
  unfold load
  simp only [StateT.run, bind, StateT.bind] at h ⊢
  rcases hread : platform.readText path s with ⟨result, after⟩
  rw [hread] at h
  cases h
  rfl

/-- A configuration is saved where it can be written. -/
theorem save_of_writable (hsecs : isInt64 c.scheduler.intervalSecs = true)
    (hwritable : platform.Writable path s) :
    ∃ s', (save platform path c).run s = (.ok (), s') := by
  obtain ⟨s', hs'⟩ := hwritable (String.ofList (Toml.write c.toToml))
  exact ⟨s', save_eq_ok_iff.mpr ⟨_, if_pos hsecs, hs'⟩⟩

/-- What was saved is loaded next where it is kept. -/
theorem load_of_save (h : c.validate = .ok ()) (hkeeps : platform.Keeps path s)
    (hsave : (save platform path c).run s = (.ok (), s')) :
    ((load platform path).run s').1 = .ok c := by
  obtain ⟨text, hwrite, hwritten⟩ := save_eq_ok_iff.mp hsave
  rw [load_of_readText (hkeeps text s' hwritten)]
  exact read_of_write h hwrite path

end Saving

/-- A checked configuration whose interval can be written is saved, whatever its texts hold, and
what is loaded next is that configuration.  Where there is no file, what loading gives it has left
there: it is what is loaded next. -/
theorem file_round_trip {σ : Type} (platform : Platform (StateM σ)) (path : String) (s : σ) :
    (∀ c : Config, c.validate = .ok () → isInt64 c.scheduler.intervalSecs = true →
      platform.Writable path s → platform.Keeps path s →
        ∃ s', (save platform path c).run s = (.ok (), s') ∧
          ((load platform path).run s').1 = .ok c) ∧
      ∀ s₁, (platform.readText path).run s = (.error .notFound, s₁) → platform.Keeps path s₁ →
        (platform.Writable path s₁ → ∃ c s', (load platform path).run s = (.ok c, s')) ∧
          ∀ c s', (load platform path).run s = (.ok c, s') →
            ((load platform path).run s').1 = .ok c := by
  refine ⟨?_, ?_⟩
  · intro c h hsecs hwritable hkeeps
    obtain ⟨s', hsave⟩ := save_of_writable hsecs hwritable
    exact ⟨s', hsave, load_of_save h hkeeps hsave⟩
  · intro s₁ hmissing hkeeps
    refine ⟨?_, ?_⟩
    · intro hwritable
      obtain ⟨s', hsave⟩ := save_of_writable (c := default) (by decide) hwritable
      exact ⟨default, s', (load_of_notFound hmissing).mpr ⟨hsave, rfl⟩⟩
    · intro c s' hload
      obtain ⟨hsave, rfl⟩ := (load_of_notFound hmissing).mp hload
      exact load_of_save validate_default hkeeps hsave

/-- A name with quotes, a comment sign, line breaks and control characters comes back from the
file, and on an empty disk the defaults do. -/
theorem file_round_trip_sample :
    let c : Config := { default with database := "\"a\" 'b' \\ # [c]\r\n\t\x00\x7f" }
    (∃ s', (save Machine.platform "config.toml" c).run .bare = (.ok (), s') ∧
      ((load Machine.platform "config.toml").run s').1 = .ok c) ∧
      ∃ c s', (load Machine.platform "config.toml").run .bare = (.ok c, s') ∧
        ((load Machine.platform "config.toml").run s').1 = .ok c := by
  intro c
  have hwritable := Machine.writable Machine.holds_bare
  have hkeeps := Machine.keeps Machine.holds_bare
  have hread : (Machine.platform.readText "config.toml").run .bare
      = (.error .notFound, .bare) := by
    show (Machine.bare.disk.read _, Machine.bare) = _
    rw [Disk.read, Machine.find_bare]
    rfl
  have hvalid : c.validate = .ok () :=
    validate_eq_ok_iff.mpr (validate_eq_ok_iff.mp validate_default)
  obtain ⟨hsaved, hmissing⟩ := file_round_trip Machine.platform "config.toml" .bare
  obtain ⟨hloads, hnext⟩ := hmissing .bare hread hkeeps
  obtain ⟨c', s', hload⟩ := hloads hwritable
  exact ⟨hsaved c hvalid (by decide) hwritable hkeeps, c', s', hload, hnext c' s' hload⟩

end Config

end AuditReminder
