/-
Schedules that are accepted.

A list of tiers is accepted if it is not empty and its tiers get on with each other
(`Schedule.ofTiers_eq_ok_iff`): above all, no two have one name or one threshold.  The schedule holds
the same tiers with the thresholds strictly falling (`Schedule.inOrder_ofTiers`).
So the tiers reached with so many days left are the first ones, and as the days go by only further
ones are added behind them: `filter_reached_append` puts the tiers of an earlier and of a later look
together to those of the later one alone.
-/
import AuditReminder.Policy

namespace AuditReminder

/-! ## Tiers that get on with each other -/

namespace Tier

/-- The tiers have names that are not blank, their thresholds lie within the bounds, and no two of
them share a name or a threshold. -/
structure Acceptable (tiers : List Tier) : Prop where
  named : ∀ tier ∈ tiers, Text.allBlank tier.name = false
  within : ∀ tier ∈ tiers, -maxOffsetDays ≤ tier.offsetDays ∧ tier.offsetDays ≤ maxOffsetDays
  names : (tiers.map Tier.name).Nodup
  offsets : (tiers.map Tier.offsetDays).Nodup

/-- What is wrong with a tier behind others: its name is blank, or else repeated, or else its
threshold lies outside the bounds, or else it is repeated. -/
inductive Offends (before : List Tier) (tier : Tier) : ScheduleFault → Prop
  | blankName : Text.allBlank tier.name = true → Offends before tier .blankName
  | repeatedName : Text.allBlank tier.name = false → (∃ other ∈ before, other.name = tier.name) →
      Offends before tier (.repeatedName tier.name)
  | offsetOutside : Text.allBlank tier.name = false → (∀ other ∈ before, other.name ≠ tier.name) →
      (tier.offsetDays < -maxOffsetDays ∨ maxOffsetDays < tier.offsetDays) →
      Offends before tier (.offsetOutside tier.name tier.offsetDays)
  | repeatedOffset : Text.allBlank tier.name = false → (∀ other ∈ before, other.name ≠ tier.name) →
      -maxOffsetDays ≤ tier.offsetDays → tier.offsetDays ≤ maxOffsetDays →
      (∃ other ∈ before, other.offsetDays = tier.offsetDays) →
      Offends before tier (.repeatedOffset tier.offsetDays)

variable {before tiers tiers' : List Tier} {tier : Tier} {fault : ScheduleFault}

theorem fault?_eq_some_iff : tier.fault? before = some fault ↔ tier.Offends before fault := by
  constructor
  · intro h
    unfold fault? at h
    split at h
    · next hblank =>
      cases h
      exact .blankName hblank
    · next hblank =>
      rw [Bool.not_eq_true] at hblank
      split at h
      · next hname =>
        cases h
        exact .repeatedName hblank (by simpa using hname)
      · next hname =>
        have hnew : ∀ other ∈ before, other.name ≠ tier.name := by simpa using hname
        split at h
        · next houtside =>
          cases h
          exact .offsetOutside hblank hnew houtside
        · next hwithin =>
          rw [not_or, Int.not_lt, Int.not_lt] at hwithin
          split at h
          · next hoffset =>
            cases h
            exact .repeatedOffset hblank hnew hwithin.1 hwithin.2 (by simpa using hoffset)
          · cases h
  · intro h
    cases h with
    | blankName hblank => simp [fault?, hblank]
    | repeatedName hblank hname => simp [fault?, hblank, hname]
    | offsetOutside hblank hnew houtside =>
      have hname : ¬ ∃ other ∈ before, other.name = tier.name := by simpa using hnew
      simp [fault?, hblank, hname, houtside]
    | repeatedOffset hblank hnew hlow hhigh hoffset =>
      have hname : ¬ ∃ other ∈ before, other.name = tier.name := by simpa using hnew
      have hwithin : ¬ (tier.offsetDays < -maxOffsetDays ∨ maxOffsetDays < tier.offsetDays) := by
        omega
      simp [fault?, hblank, hname, hwithin, hoffset]

theorem fault?_eq_none_iff :
    tier.fault? before = none ↔
      Text.allBlank tier.name = false ∧
        (-maxOffsetDays ≤ tier.offsetDays ∧ tier.offsetDays ≤ maxOffsetDays) ∧
          ∀ other ∈ before, other.name ≠ tier.name ∧ other.offsetDays ≠ tier.offsetDays := by
  simp only [Option.eq_none_iff_forall_ne_some, ne_eq, fault?_eq_some_iff]
  constructor
  · intro h
    have hblank : Text.allBlank tier.name = false :=
      Bool.eq_false_iff.mpr fun hblank => h _ (.blankName hblank)
    have hnames : ∀ other ∈ before, other.name ≠ tier.name := fun other ho he =>
      h _ (.repeatedName hblank ⟨other, ho, he⟩)
    have hlow : -maxOffsetDays ≤ tier.offsetDays :=
      Int.not_lt.mp fun hlt => h _ (.offsetOutside hblank hnames (.inl hlt))
    have hhigh : tier.offsetDays ≤ maxOffsetDays :=
      Int.not_lt.mp fun hlt => h _ (.offsetOutside hblank hnames (.inr hlt))
    refine ⟨hblank, ⟨hlow, hhigh⟩, fun other ho => ⟨hnames other ho, fun he => ?_⟩⟩
    exact h _ (.repeatedOffset hblank hnames hlow hhigh ⟨other, ho, he⟩)
  · rintro ⟨hblank, hwithin, hnew⟩ fault hfault
    cases hfault with
    | blankName hblank' => simp [hblank] at hblank'
    | repeatedName _ hname =>
      obtain ⟨other, ho, he⟩ := hname
      exact (hnew other ho).1 he
    | offsetOutside _ _ houtside => omega
    | repeatedOffset _ _ _ _ hoffset =>
      obtain ⟨other, ho, he⟩ := hoffset
      exact (hnew other ho).2 he

theorem acceptable_nil : Acceptable [] := ⟨by simp, by simp, .nil, .nil⟩

theorem acceptable_cons :
    Acceptable (tier :: tiers) ↔
      Text.allBlank tier.name = false ∧
        (-maxOffsetDays ≤ tier.offsetDays ∧ tier.offsetDays ≤ maxOffsetDays) ∧
          Acceptable tiers ∧
            ∀ other ∈ tiers, tier.name ≠ other.name ∧ tier.offsetDays ≠ other.offsetDays := by
  constructor
  · rintro ⟨hnamed, hwithin, hnames, hoffsets⟩
    rw [List.map_cons, List.nodup_cons] at hnames hoffsets
    refine ⟨hnamed tier List.mem_cons_self, hwithin tier List.mem_cons_self,
      ⟨fun t ht => hnamed t (List.mem_cons_of_mem _ ht),
        fun t ht => hwithin t (List.mem_cons_of_mem _ ht), hnames.2, hoffsets.2⟩, ?_⟩
    intro other ho
    exact ⟨fun he => hnames.1 (he ▸ List.mem_map_of_mem ho),
      fun he => hoffsets.1 (he ▸ List.mem_map_of_mem ho)⟩
  · rintro ⟨hblank, hwithin, hrest, hnew⟩
    refine ⟨?_, ?_, ?_, ?_⟩
    · exact List.forall_mem_cons.mpr ⟨hblank, hrest.named⟩
    · exact List.forall_mem_cons.mpr ⟨hwithin, hrest.within⟩
    · refine List.nodup_cons.mpr ⟨fun hm => ?_, hrest.names⟩
      obtain ⟨other, ho, he⟩ := List.mem_map.mp hm
      exact (hnew other ho).1 he.symm
    · refine List.nodup_cons.mpr ⟨fun hm => ?_, hrest.offsets⟩
      obtain ⟨other, ho, he⟩ := List.mem_map.mp hm
      exact (hnew other ho).2 he.symm

/-- Whether tiers get on with each other is no matter of their order. -/
theorem Acceptable.perm (h : Acceptable tiers) (hp : tiers.Perm tiers') : Acceptable tiers' where
  named t ht := h.named t (hp.mem_iff.mpr ht)
  within t ht := h.within t (hp.mem_iff.mpr ht)
  names := (hp.map _).nodup_iff.mp h.names
  offsets := (hp.map _).nodup_iff.mp h.offsets

end Tier

/-- Tiers are without fault behind others when they get on with each other and with those. -/
theorem firstFault?_eq_none_iff {before tiers : List Tier} :
    firstFault? before tiers = none ↔
      Tier.Acceptable tiers ∧
        ∀ a ∈ before, ∀ b ∈ tiers, a.name ≠ b.name ∧ a.offsetDays ≠ b.offsetDays := by
  induction tiers generalizing before with
  | nil => simp [firstFault?, Tier.acceptable_nil]
  | cons tier rest ih =>
    rw [firstFault?, Tier.acceptable_cons]
    cases hfault : tier.fault? before with
    | some fault =>
      refine ⟨fun h => by simp at h, ?_⟩
      rintro ⟨⟨hblank, hwithin, -, -⟩, hapart⟩
      have hnone := Tier.fault?_eq_none_iff.mpr
        ⟨hblank, hwithin, fun other ho => hapart other ho tier List.mem_cons_self⟩
      rw [hfault] at hnone
      cases hnone
    | none =>
      obtain ⟨hblank, hwithin, hnew⟩ := Tier.fault?_eq_none_iff.mp hfault
      simp only [ih, List.forall_mem_cons]
      constructor
      · rintro ⟨hrest, hhead, hbefore⟩
        exact ⟨⟨hblank, hwithin, hrest, hhead⟩, fun a ha => ⟨hnew a ha, hbefore a ha⟩⟩
      · rintro ⟨⟨-, -, hrest, hhead⟩, hbefore⟩
        exact ⟨hrest, hhead, fun a ha => (hbefore a ha).2⟩

/-! ## Order -/

/-- No two tiers share a name, and the thresholds fall strictly. -/
structure Tier.InOrder (tiers : List Tier) : Prop where
  names : (tiers.map Tier.name).Nodup
  falling : tiers.Pairwise fun a b => b.offsetDays < a.offsetDays

theorem perm_placeTier (tier : Tier) (tiers : List Tier) :
    (placeTier tier tiers).Perm (tier :: tiers) := by
  induction tiers with
  | nil => exact .refl _
  | cons head rest ih =>
      rw [placeTier]
      split
      · exact .refl _
      · exact (ih.cons head).trans (.swap tier head rest)

theorem perm_sortTiers (tiers : List Tier) : (sortTiers tiers).Perm tiers := by
  induction tiers with
  | nil => exact .refl _
  | cons tier rest ih => exact (perm_placeTier tier _).trans (ih.cons tier)

theorem falling_placeTier {tier : Tier} {tiers : List Tier}
    (h : tiers.Pairwise fun a b => b.offsetDays < a.offsetDays)
    (hne : ∀ other ∈ tiers, tier.offsetDays ≠ other.offsetDays) :
    (placeTier tier tiers).Pairwise fun a b => b.offsetDays < a.offsetDays := by
  induction tiers with
  | nil => exact List.pairwise_singleton _ _
  | cons head rest ih =>
      rw [List.pairwise_cons] at h
      rw [placeTier]
      split
      · next hlt =>
        refine .cons ?_ (.cons h.1 h.2)
        intro other ho
        rcases List.mem_cons.mp ho with rfl | ho
        · exact hlt
        · exact Int.lt_trans (h.1 other ho) hlt
      · next hle =>
        refine .cons ?_ (ih h.2 fun other ho => hne other (List.mem_cons_of_mem _ ho))
        intro other ho
        rcases List.mem_cons.mp ((perm_placeTier tier rest).mem_iff.mp ho) with rfl | ho
        · have hhead := hne head List.mem_cons_self
          omega
        · exact h.1 other ho

theorem falling_sortTiers {tiers : List Tier}
    (h : tiers.Pairwise fun a b => a.offsetDays ≠ b.offsetDays) :
    (sortTiers tiers).Pairwise fun a b => b.offsetDays < a.offsetDays := by
  induction tiers with
  | nil => exact .nil
  | cons tier rest ih =>
      rw [List.pairwise_cons] at h
      refine falling_placeTier (ih h.2) fun other ho => ?_
      exact h.1 other ((perm_sortTiers rest).mem_iff.mp ho)

namespace Schedule

variable {schedule : Schedule} {tiers : List Tier} {now endsAt : Instant} {sent : NameSet}
  {tier : Tier}

theorem ofTiers_eq_ok_iff :
    ofTiers tiers = .ok schedule ↔
      tiers ≠ [] ∧ Tier.Acceptable tiers ∧ schedule = ⟨sortTiers tiers⟩ := by
  have hnone : firstFault? [] tiers = none ↔ Tier.Acceptable tiers := by
    simp [firstFault?_eq_none_iff]
  unfold ofTiers
  split
  · next hempty => simp [hempty]
  · next hsome =>
    split
    · next fault hfault =>
      have hnot : ¬ Tier.Acceptable tiers := by simp [← hnone, hfault]
      simp [hnot]
    · next hfault => simp [hsome, hnone.mp hfault, eq_comm]

/-- An accepted schedule holds the tiers it was made of, in order. -/
theorem inOrder_ofTiers (h : ofTiers tiers = .ok schedule) :
    schedule.tiers.Perm tiers ∧ Tier.InOrder schedule.tiers := by
  obtain ⟨-, hacceptable, rfl⟩ := ofTiers_eq_ok_iff.mp h
  refine ⟨perm_sortTiers tiers, (hacceptable.perm (perm_sortTiers tiers).symm).names, ?_⟩
  exact falling_sortTiers (List.pairwise_map.mp hacceptable.offsets)

/-- An accepted schedule has tiers, and each has its threshold within the bounds. -/
theorem offsets_of_ofTiers (h : ofTiers tiers = .ok schedule) :
    tiers ≠ [] ∧
      ∀ tier ∈ tiers, -maxOffsetDays ≤ tier.offsetDays ∧ tier.offsetDays ≤ maxOffsetDays := by
  obtain ⟨hsome, hacceptable, -⟩ := ofTiers_eq_ok_iff.mp h
  exact ⟨hsome, hacceptable.within⟩

/-- A tier is due when it is reached and was not sent. -/
theorem mem_due :
    tier ∈ schedule.due now endsAt sent ↔
      tier ∈ schedule.tiers ∧ daysLeft now endsAt ≤ tier.offsetDays ∧ tier.name ∉ sent := by
  simp [due, Tier.isReached]

/-- What is due is in order when the schedule is. -/
theorem inOrder_due (h : Tier.InOrder schedule.tiers) (now endsAt : Instant) (sent : NameSet) :
    Tier.InOrder (schedule.due now endsAt sent) where
  names := h.names.sublist (List.filter_sublist.map _)
  falling := h.falling.filter _

end Schedule

/-! ## Two looks at one schedule -/

/-- Of tiers in order, those reached earlier and then those reached only later are those reached
later. -/
theorem filter_reached_append {tiers : List Tier} (h : Tier.InOrder tiers) {earlier later : Int}
    (hle : later ≤ earlier) (p : Tier → Bool) :
    tiers.filter (fun t => t.isReached earlier && p t)
        ++ tiers.filter (fun t => t.isReached later && !t.isReached earlier && p t)
      = tiers.filter fun t => t.isReached later && p t := by
  obtain ⟨-, hfalling⟩ := h
  induction tiers with
  | nil => rfl
  | cons tier rest ih =>
      rw [List.pairwise_cons] at hfalling
      have hrest := ih hfalling.2
      by_cases hreached : tier.isReached earlier = true
      · -- reached at both looks: the tier heads the first part and the whole
        have hlater : tier.isReached later = true := by
          simp only [Tier.isReached, decide_eq_true_eq] at hreached ⊢
          omega
        cases hp : p tier <;> simp [hreached, hlater, hp, hrest]
      · -- not reached earlier: neither is any tier behind it, so the first part is empty
        have hnone : rest.filter (fun t => t.isReached earlier && p t) = [] := by
          refine List.filter_eq_nil_iff.mpr fun other ho => ?_
          have hlt := hfalling.1 other ho
          simp only [Tier.isReached, decide_eq_true_eq] at hreached
          simp only [Tier.isReached, Bool.and_eq_true, decide_eq_true_eq, not_and]
          omega
        rw [hnone, List.nil_append] at hrest
        simp only [Bool.not_eq_true] at hreached
        simp [hreached, hnone, List.filter_cons, hrest]

end AuditReminder
