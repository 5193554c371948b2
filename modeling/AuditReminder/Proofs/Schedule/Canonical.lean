/-
Schedules in one form.

A list of tiers makes a schedule if it is not empty and its tiers get on with each other
(`Tier.Acceptable`).  What is wrong with any other list is what the first offending tier does to
those before it (`Tier.Offends`).  The schedule depends on the tiers alone and not on their order:
tiers with falling thresholds can be listed in one way only (`sortTiers_eq_of_perm`).

What is due is what is reached and was not sent.  So nothing is due once all of it is sent, and
what is taken back of it is due again, alone.

Main statement: `Schedule.ofTiers_canonical`.
-/
import AuditReminder.Proofs.Schedule
import Mathlib.Data.List.Nodup

namespace AuditReminder

/-! ## Sets of names -/

namespace NameSet

/-- The set with all names of a list as well. -/
def insertAll (names : List String) (s : NameSet) : NameSet :=
  names.foldl (fun s name => s.insert name) s

/-- The set without a name. -/
def erase (name : String) (s : NameSet) : NameSet :=
  ⟨s.names.filter (· ≠ name), s.increasing.filter _⟩

theorem mem_insertAll {x : String} {names : List String} {s : NameSet} :
    x ∈ s.insertAll names ↔ x ∈ s ∨ x ∈ names := mem_foldl_insert

theorem mem_erase {x name : String} {s : NameSet} : x ∈ s.erase name ↔ x ∈ s ∧ x ≠ name := by
  show x ∈ s.names.filter _ ↔ x ∈ s.names ∧ x ≠ name
  simp

end NameSet

/-! ## Offences -/

namespace Tier

variable {before : List Tier} {tier : Tier} {fault : ScheduleFault}

/-- The faults are those of the tiers before, in whatever order these are listed. -/
theorem Offends.of_mem_iff {before' : List Tier} (h : ∀ t, t ∈ before ↔ t ∈ before')
    (hfault : tier.Offends before fault) : tier.Offends before' fault := by
  cases hfault with
  | blankName hblank => exact .blankName hblank
  | repeatedName hblank hname => exact .repeatedName hblank (by simpa only [← h] using hname)
  | offsetOutside hblank hnew houtside =>
    exact .offsetOutside hblank (by simpa only [← h] using hnew) houtside
  | repeatedOffset hblank hnew hlow hhigh hoffset =>
    exact .repeatedOffset hblank (by simpa only [← h] using hnew) hlow hhigh
      (by simpa only [← h] using hoffset)

end Tier

/-! ## The first offence -/

/-- The fault is that of the first tier with one, and the tiers ahead of it are without. -/
theorem firstFault?_eq_some_iff {before tiers : List Tier} {fault : ScheduleFault} :
    firstFault? before tiers = some fault ↔
      ∃ ahead tier behind, tiers = ahead ++ tier :: behind ∧
        firstFault? before ahead = none ∧
          tier.fault? (ahead.reverse ++ before) = some fault := by
  induction tiers generalizing before with
  | nil => simp [firstFault?]
  | cons tier rest ih =>
    rw [firstFault?]
    cases hfault : tier.fault? before with
    | some found =>
      constructor
      · rintro ⟨⟩
        exact ⟨[], tier, rest, rfl, rfl, hfault⟩
      · rintro ⟨ahead, other, behind, hsplit, hnone, hother⟩
        -- the first tier is at fault, so nothing stands ahead of the one found
        cases ahead with
        | nil =>
          cases hsplit
          exact hfault.symm.trans hother
        | cons first ahead =>
          cases hsplit
          simp [firstFault?, hfault] at hnone
    | none =>
      constructor
      · intro h
        obtain ⟨ahead, other, behind, rfl, hnone, hother⟩ := ih.mp h
        refine ⟨tier :: ahead, other, behind, rfl, ?_, ?_⟩
        · rw [firstFault?, hfault]
          exact hnone
        · rw [List.reverse_cons, List.append_assoc]
          exact hother
      · rintro ⟨ahead, other, behind, hsplit, hnone, hother⟩
        cases ahead with
        | nil =>
          cases hsplit
          rw [List.reverse_nil, List.nil_append, hfault] at hother
          cases hother
        | cons first ahead =>
          cases hsplit
          rw [firstFault?, hfault] at hnone
          rw [List.reverse_cons, List.append_assoc] at hother
          exact ih.mpr ⟨ahead, other, behind, rfl, hnone, hother⟩

/-- Tiers have one order in which their thresholds fall. -/
theorem sortTiers_eq_of_perm {tiers tiers' : List Tier}
    (h : (tiers.map Tier.offsetDays).Nodup) (hp : tiers'.Perm tiers) :
    sortTiers tiers' = sortTiers tiers := by
  have hfalling : (sortTiers tiers).Pairwise fun a b => b.offsetDays < a.offsetDays :=
    falling_sortTiers (List.pairwise_map.mp h)
  have hfalling' : (sortTiers tiers').Pairwise fun a b => b.offsetDays < a.offsetDays :=
    falling_sortTiers (List.pairwise_map.mp ((hp.map _).nodup_iff.mpr h))
  have hperm : (sortTiers tiers').Perm (sortTiers tiers) :=
    (perm_sortTiers tiers').trans (hp.trans (perm_sortTiers tiers).symm)
  exact hperm.eq_of_pairwise (fun a b _ _ hab hba => by omega) hfalling' hfalling

namespace Schedule

variable {tiers tiers' : List Tier} {schedule : Schedule} {fault : ScheduleFault}
  {now endsAt : Instant} {sent : NameSet} {tier : Tier}

theorem ofTiers_eq_error_iff (hsome : tiers ≠ []) :
    ofTiers tiers = .error fault ↔
      ∃ ahead tier behind, tiers = ahead ++ tier :: behind ∧
        Tier.Acceptable ahead ∧ tier.Offends ahead fault := by
  have hfirst : ofTiers tiers = .error fault ↔ firstFault? [] tiers = some fault := by
    rw [ofTiers, if_neg hsome]
    cases firstFault? [] tiers <;> simp
  rw [hfirst, firstFault?_eq_some_iff]
  refine exists_congr fun ahead => exists_congr fun tier => exists_congr fun behind =>
    and_congr_right fun _ => and_congr ?_ ?_
  · simp [firstFault?_eq_none_iff]
  · rw [List.append_nil, Tier.fault?_eq_some_iff]
    exact ⟨.of_mem_iff fun _ => List.mem_reverse, .of_mem_iff fun _ => List.mem_reverse.symm⟩

theorem ofTiers_perm (h : ofTiers tiers = .ok schedule) (hp : tiers'.Perm tiers) :
    ofTiers tiers' = .ok schedule := by
  obtain ⟨hsome, hacceptable, rfl⟩ := ofTiers_eq_ok_iff.mp h
  refine ofTiers_eq_ok_iff.mpr ⟨?_, hacceptable.perm hp.symm, ?_⟩
  · rintro rfl
    exact hsome hp.symm.eq_nil
  · rw [sortTiers_eq_of_perm hacceptable.offsets hp]

/-! ## Due, sent and taken back -/

/-- Nothing is due any more once all that was due is sent. -/
theorem due_insertAll_due :
    schedule.due now endsAt (sent.insertAll ((schedule.due now endsAt sent).map Tier.name))
      = [] := by
  refine List.eq_nil_iff_forall_not_mem.mpr fun tier ht => ?_
  obtain ⟨hin, hreached, hnew⟩ := mem_due.mp ht
  rw [NameSet.mem_insertAll, not_or] at hnew
  exact hnew.2 (List.mem_map_of_mem (mem_due.mpr ⟨hin, hreached, hnew.1⟩))

/-- Of all that was due and sent, just the tier taken back is due again. -/
theorem due_erase_insertAll_due (h : Tier.InOrder schedule.tiers)
    (ht : tier ∈ schedule.due now endsAt sent) :
    schedule.due now endsAt
      ((sent.insertAll ((schedule.due now endsAt sent).map Tier.name)).erase tier.name)
      = [tier] := by
  obtain ⟨hin, hreached, -⟩ := mem_due.mp ht
  have hmem : ∀ other, other ∈ schedule.due now endsAt
      ((sent.insertAll ((schedule.due now endsAt sent).map Tier.name)).erase tier.name) ↔
        other ∈ [tier] := by
    intro other
    rw [List.mem_singleton]
    constructor
    · intro hother
      obtain ⟨hin', hreached', hnew⟩ := mem_due.mp hother
      rw [NameSet.mem_erase, NameSet.mem_insertAll] at hnew
      -- a name other than the one taken back is sent, whether it was before or only now
      have hname : other.name = tier.name := by
        by_contra hne
        refine hnew ⟨?_, hne⟩
        by_cases hsent : other.name ∈ sent
        · exact .inl hsent
        · exact .inr (List.mem_map_of_mem (mem_due.mpr ⟨hin', hreached', hsent⟩))
      exact List.inj_on_of_nodup_map h.names hin' hin hname
    · rintro rfl
      exact mem_due.mpr ⟨hin, hreached, fun hm => (NameSet.mem_erase.mp hm).2 rfl⟩
  have hnodup := (inOrder_due h now endsAt
    ((sent.insertAll ((schedule.due now endsAt sent).map Tier.name)).erase tier.name)).names.of_map
  exact List.perm_singleton.mp
    ((List.perm_ext_iff_of_nodup hnodup (List.nodup_singleton tier)).mpr hmem)

/-! ## One form -/

/-- The schedule holds the tiers of a list with the thresholds strictly falling, it is the schedule
of these tiers in any order, and it is its own schedule. -/
structure Orders (schedule : Schedule) (tiers : List Tier) : Prop where
  perm : schedule.tiers.Perm tiers
  falling : schedule.tiers.Pairwise fun a b => b.offsetDays < a.offsetDays
  unique : ∀ tiers' : List Tier, tiers'.Perm tiers → ofTiers tiers' = .ok schedule
  fixed : ofTiers schedule.tiers = .ok schedule

/-- What is due at an instant: of the tiers those that are reached and were not sent, the largest
threshold first, so none after all of them are sent, and just the one that is taken back. -/
structure DueExactly (schedule : Schedule) (tiers : List Tier) (now endsAt : Instant)
    (sent : NameSet) : Prop where
  falling : (schedule.due now endsAt sent).Pairwise fun a b => b.offsetDays < a.offsetDays
  mem_iff : ∀ tier : Tier, tier ∈ schedule.due now endsAt sent ↔
    tier ∈ tiers ∧ daysLeft now endsAt ≤ tier.offsetDays ∧ tier.name ∉ sent
  none_left : schedule.due now endsAt
    (sent.insertAll ((schedule.due now endsAt sent).map Tier.name)) = []
  taken_back : ∀ tier ∈ schedule.due now endsAt sent, schedule.due now endsAt
    ((sent.insertAll ((schedule.due now endsAt sent).map Tier.name)).erase tier.name) = [tier]

theorem orders_of_ofTiers (h : ofTiers tiers = .ok schedule) : schedule.Orders tiers where
  perm := (inOrder_ofTiers h).1
  falling := (inOrder_ofTiers h).2.falling
  unique _ hp := ofTiers_perm h hp
  fixed := ofTiers_perm h (inOrder_ofTiers h).1

theorem dueExactly_of_ofTiers (h : ofTiers tiers = .ok schedule) (now endsAt : Instant)
    (sent : NameSet) : schedule.DueExactly tiers now endsAt sent where
  falling := (inOrder_due (inOrder_ofTiers h).2 now endsAt sent).falling
  mem_iff tier := by rw [mem_due, (inOrder_ofTiers h).1.mem_iff]
  none_left := due_insertAll_due
  taken_back _ ht := due_erase_insertAll_due (inOrder_ofTiers h).2 ht

/-- Tiers make a schedule when there are some and they get on with each other; otherwise the first
that does not get on with those ahead of it is what is wrong.  The schedule has one form, and at
every instant exactly what is reached and not sent is due. -/
theorem ofTiers_canonical (tiers : List Tier) :
    ((∃ schedule, ofTiers tiers = .ok schedule) ↔ tiers ≠ [] ∧ Tier.Acceptable tiers) ∧
    (tiers ≠ [] → ∀ fault, ofTiers tiers = .error fault ↔
      ∃ ahead tier behind, tiers = ahead ++ tier :: behind ∧
        Tier.Acceptable ahead ∧ tier.Offends ahead fault) ∧
    ∀ schedule, ofTiers tiers = .ok schedule →
      schedule.Orders tiers ∧
        ∀ now endsAt sent, schedule.DueExactly tiers now endsAt sent := by
  refine ⟨?_, fun hsome fault => ofTiers_eq_error_iff hsome, fun schedule h => ?_⟩
  · constructor
    · rintro ⟨schedule, h⟩
      obtain ⟨hsome, hacceptable, -⟩ := ofTiers_eq_ok_iff.mp h
      exact ⟨hsome, hacceptable⟩
    · rintro ⟨hsome, hacceptable⟩
      exact ⟨_, ofTiers_eq_ok_iff.mpr ⟨hsome, hacceptable, rfl⟩⟩
  · exact ⟨orders_of_ofTiers h, dueExactly_of_ofTiers h⟩

/-- The default tiers listed in another order: the schedule is the default one, at the deadline all
three are due, and `3d` alone when it is taken back.  Of two tiers, the second with the name of the
first and a threshold out of bounds, the name is what is wrong. -/
theorem ofTiers_canonical_sample :
    (ofTiers [⟨"overdue", 0, .reminder⟩, ⟨"14d", 14, .standard⟩, ⟨"3d", 3, .reminder⟩]
        = .ok default ∧
      default.due .epoch .epoch
        (NameSet.insertAll ["14d", "3d", "overdue"] .empty |>.erase "3d")
          = [⟨"3d", 3, .reminder⟩]) ∧
    ofTiers [⟨"14d", 14, .standard⟩, ⟨"14d", 99_999, .standard⟩]
      = .error (.repeatedName "14d") := by
  have hok : ofTiers [⟨"overdue", 0, .reminder⟩, ⟨"14d", 14, .standard⟩, ⟨"3d", 3, .reminder⟩]
      = .ok default := by decide
  have hdue := ((ofTiers_canonical _).2.2 default hok).2 .epoch .epoch .empty
  refine ⟨⟨hok, hdue.taken_back ⟨"3d", 3, .reminder⟩ ?_⟩, ?_⟩
  · exact (hdue.mem_iff _).mpr ⟨by decide, by decide, by decide⟩
  · refine ((ofTiers_canonical _).2.1 (by decide) _).mpr ⟨[⟨"14d", 14, .standard⟩],
      ⟨"14d", 99_999, .standard⟩, [], rfl, ?_, .repeatedName (by decide) (by decide)⟩
    exact ⟨by decide, by decide, by decide, by decide⟩

end Schedule

end AuditReminder
