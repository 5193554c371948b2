/-
What is announced.

The upcoming tier is the next change of what is due.  It is the first one, in schedule order, that
is neither reached nor sent, so those behind it have smaller thresholds and are reached no sooner
(`Schedule.due_eq_of_unreached`).  It is reached at its instant or, as parts of a millisecond are
cut off, less than a millisecond before it.  If no tier is announced, nothing more falls due: every
tier is reached or sent, or the instant of the next one lies past the last instant there is, so that
it is never reached (`Schedule.unreached_of_dueAt?_eq_none`).

None of it needs more than 64 bits.  `Bounded` works out the same with each step checked, and it
gives the same answers (`Bounded.daysLeft?_eq`, `Bounded.next?_eq`).

Main statement: `Schedule.next_is_next_change`.
-/
import AuditReminder.Number.Bounds
import AuditReminder.Proofs.Deadline
import AuditReminder.Proofs.Schedule

namespace AuditReminder

variable {now later endsAt : Instant} {tier : Tier} {schedule : Schedule} {sent : NameSet}

/-- A threshold within its bounds is a span. -/
theorem Span.days?_of_offset {n : Int} (h : -maxOffsetDays ≤ n ∧ n ≤ maxOffsetDays) :
    days? n = some ⟨n * secondsPerDay * nanosPerSecond⟩ := by
  refine if_pos ?_
  simp only [maxOffsetDays, secondsPerDay, maxSeconds] at *
  omega

/-! ## In 64 bits -/

namespace Bounded

/-- A number that has 64 bits. -/
def int64? (n : Int) : Option Int := if isInt64 n then some n else none

/-- The span from `b` to `a`, unless it has more milliseconds than 64 bits hold. -/
def since? (a b : Instant) : Option Span :=
  if (a.since b).nanos.natAbs ≤ greatestInt64.natAbs * 1_000_000 then some (a.since b) else none

/-- Whole days from `now` until `endsAt`, rounded up. -/
def daysLeft? (now endsAt : Instant) : Option Int := do
  let span ← since? endsAt now
  let milliseconds ← int64? span.milliseconds
  let whole ← int64? (milliseconds / millisecondsPerDay)
  let rest ← int64? (milliseconds % millisecondsPerDay)
  if rest > 0 then int64? (whole + 1) else return whole

/-- The tiers reached and not yet sent. -/
def due? (schedule : Schedule) (now endsAt : Instant) (sent : NameSet) : Option (List Tier) := do
  let left ← daysLeft? now endsAt
  return schedule.tiers.filter fun tier => tier.isReached left && !decide (tier.name ∈ sent)

/-- The first tier neither reached nor sent, if there is one and its instant can be written. -/
def next? (schedule : Schedule) (now endsAt : Instant) (sent : NameSet) :
    Option (Option Upcoming) := do
  let left ← daysLeft? now endsAt
  match schedule.tiers.find? fun tier => !tier.isReached left && !decide (tier.name ∈ sent) with
  | none => return none
  | some tier => do
      let offset ← Span.days? tier.offsetDays
      return (endsAt.shiftBack? offset).map (⟨tier, ·⟩)

theorem int64?_eq_some {n : Int} (h : leastInt64 ≤ n ∧ n ≤ greatestInt64) : int64? n = some n :=
  if_pos (isInt64_iff.mpr h)

/-- All instants lie within little more than half a million years. -/
theorem natAbs_since_le (a b : Instant) :
    (a.since b).nanos.natAbs ≤ 16_544_868_105_602 * nanosPerSecond := by
  have ha := a.inRange
  have hb := b.inRange
  have ha' := a.belowTwoSeconds
  have hb' := b.belowTwoSeconds
  have hleap : -1 ≤ a.leapBetween b ∧ a.leapBetween b ≤ 1 := by
    unfold Instant.leapBetween
    constructor <;> (repeat' split) <;> decide
  simp only [Instant.since, earliestSecond, latestSecond, nanosPerSecond] at *
  omega

theorem since?_eq (a b : Instant) : since? a b = some (a.since b) :=
  if_pos (Nat.le_trans (natAbs_since_le a b) (by decide))

theorem milliseconds_bounds (a b : Instant) :
    -16_544_868_105_602_000 ≤ (a.since b).milliseconds ∧
      (a.since b).milliseconds ≤ 16_544_868_105_602_000 := by
  have hnanos := natAbs_since_le a b
  simp only [nanosPerSecond] at hnanos
  constructor
  · refine Int.not_lt.mp fun hlt => ?_
    have hcut := Span.milliseconds_le_iff.mp (Int.le_sub_one_of_lt hlt)
    omega
  · rw [Span.milliseconds_le_iff]
    omega

/-- The days left are worked out within 64 bits. -/
theorem daysLeft?_eq (now endsAt : Instant) :
    daysLeft? now endsAt = some (daysLeft now endsAt) := by
  have hbounds := milliseconds_bounds endsAt now
  unfold daysLeft? daysLeft
  rw [since?_eq]
  simp only [Option.bind_eq_bind, Option.bind_some]
  generalize (endsAt.since now).milliseconds = milliseconds at hbounds
  have hbits {n : Int} (h : -16_544_868_105_602_000 ≤ n ∧ n ≤ 16_544_868_105_602_001) :
      int64? n = some n :=
    int64?_eq_some ⟨Int.le_trans (by decide) h.1, Int.le_trans h.2 (by decide)⟩
  have hwhole : int64? (milliseconds / millisecondsPerDay)
      = some (milliseconds / millisecondsPerDay) :=
    hbits (by simp only [millisecondsPerDay]; omega)
  have hnext : int64? (milliseconds / millisecondsPerDay + 1)
      = some (milliseconds / millisecondsPerDay + 1) :=
    hbits (by simp only [millisecondsPerDay]; omega)
  have hrest : int64? (milliseconds % millisecondsPerDay)
      = some (milliseconds % millisecondsPerDay) :=
    hbits (by simp only [millisecondsPerDay]; omega)
  rw [hbits ⟨hbounds.1, by omega⟩]
  simp only [Option.bind_some, hwhole, hrest, hnext]
  by_cases hpart : milliseconds % millisecondsPerDay > 0
  · rw [if_pos hpart, if_pos hpart]
  · rw [if_neg hpart, if_neg hpart]
    rfl

theorem due?_eq (schedule : Schedule) (now endsAt : Instant) (sent : NameSet) :
    due? schedule now endsAt sent = some (schedule.due now endsAt sent) := by
  rw [due?, daysLeft?_eq]
  rfl

/-- What is announced is worked out within 64 bits if the thresholds are within their bounds. -/
theorem next?_eq (now endsAt : Instant) (sent : NameSet)
    (h : ∀ tier ∈ schedule.tiers, -maxOffsetDays ≤ tier.offsetDays ∧ tier.offsetDays ≤ maxOffsetDays) :
    next? schedule now endsAt sent = some (schedule.next? now endsAt sent) := by
  rw [next?, daysLeft?_eq, Schedule.next?]
  simp only [Option.bind_eq_bind, Option.bind_some]
  split
  · next hnone =>
    rw [hnone]
    rfl
  · next tier hfind =>
    have hspan := Span.days?_of_offset (h tier (List.mem_of_find?_eq_some hfind))
    rw [hfind, hspan]
    simp only [Option.bind_some, Schedule.dueAt?, hspan]
    cases endsAt.shiftBack? _ <;> rfl

end Bounded

/-! ## What is due until the next tier -/

namespace Schedule

/-- A tier that is announced is the first one neither reached nor sent, and falls due at the
instant announced. -/
theorem next?_eq_some_iff {dueAt : Instant} :
    schedule.next? now endsAt sent = some ⟨tier, dueAt⟩ ↔
      schedule.tiers.find? (fun tier =>
        !tier.isReached (daysLeft now endsAt) && !decide (tier.name ∈ sent)) = some tier ∧
        dueAt? tier endsAt = some dueAt := by
  simp only [next?, Option.bind_eq_bind, Option.bind_eq_some_iff, pure, Option.some.injEq,
    Upcoming.mk.injEq]
  constructor
  · rintro ⟨tier', hfind, dueAt', hdue, rfl, rfl⟩
    exact ⟨hfind, hdue⟩
  · rintro ⟨hfind, hdue⟩
    exact ⟨tier, hfind, dueAt, hdue, rfl, rfl⟩

/-- As long as it is the same tiers that are reached, of those not sent, the same are due. -/
theorem due_congr (h : ∀ tier ∈ schedule.tiers, tier.name ∉ sent →
      (daysLeft later endsAt ≤ tier.offsetDays ↔ daysLeft now endsAt ≤ tier.offsetDays)) :
    schedule.due later endsAt sent = schedule.due now endsAt sent := by
  refine List.filter_congr fun tier htier => ?_
  by_cases hsent : tier.name ∈ sent
  · simp [hsent]
  · simp [Tier.isReached, h tier htier hsent]

/-- Of tiers in order, none that is neither reached nor sent has a larger threshold than the first
such tier. -/
theorem offset_le_of_find? (horder : Tier.InOrder schedule.tiers)
    (hfind : schedule.tiers.find? (fun tier =>
      !tier.isReached (daysLeft now endsAt) && !decide (tier.name ∈ sent)) = some tier)
    {other : Tier} (hother : other ∈ schedule.tiers) (hsent : other.name ∉ sent)
    (hunreached : ¬ daysLeft now endsAt ≤ other.offsetDays) :
    other.offsetDays ≤ tier.offsetDays := by
  obtain ⟨-, before, behind, htiers, hbefore⟩ := List.find?_eq_some_iff_append.mp hfind
  have hfalling := horder.falling
  rw [htiers] at hother hfalling
  rcases List.mem_append.mp hother with hother | hother
  · have hpassed := hbefore other hother
    simp [Tier.isReached, hsent] at hpassed
    exact (hunreached hpassed).elim
  · rcases List.mem_cons.mp hother with rfl | hother
    · exact Int.le_refl _
    · have hbehind := (List.pairwise_append.mp hfalling).2.1
      exact Int.le_of_lt (List.rel_of_pairwise_cons hbehind hother)

/-- As long as the first tier neither reached nor sent is not reached, nothing more falls due. -/
theorem due_eq_of_unreached (horder : Tier.InOrder schedule.tiers)
    (hfind : schedule.tiers.find? (fun tier =>
      !tier.isReached (daysLeft now endsAt) && !decide (tier.name ∈ sent)) = some tier)
    (hle : daysLeft later endsAt ≤ daysLeft now endsAt)
    (hunreached : tier.offsetDays < daysLeft later endsAt) :
    schedule.due later endsAt sent = schedule.due now endsAt sent := by
  refine due_congr fun other hother hsent => ⟨fun hlater => ?_, Int.le_trans hle⟩
  refine Decidable.byContradiction fun hnow => ?_
  have hoffset := offset_le_of_find? horder hfind hother hsent hnow
  omega

/-- When every tier is reached or sent, nothing more falls due. -/
theorem due_eq_of_find?_eq_none
    (hfind : schedule.tiers.find? (fun tier =>
      !tier.isReached (daysLeft now endsAt) && !decide (tier.name ∈ sent)) = none)
    (hle : daysLeft later endsAt ≤ daysLeft now endsAt) :
    schedule.due later endsAt sent = schedule.due now endsAt sent := by
  refine due_congr fun tier htier hsent => ?_
  have hreached := List.find?_eq_none.mp hfind tier htier
  simp [Tier.isReached, hsent] at hreached
  exact iff_of_true (Int.le_trans hle hreached) hreached

/-- A tier that is not reached, and whose instant cannot be written, is never reached: its instant
lies past the last one there is. -/
theorem unreached_of_dueAt?_eq_none
    (hoffset : -maxOffsetDays ≤ tier.offsetDays ∧ tier.offsetDays ≤ maxOffsetDays)
    (hends : ¬ endsAt.IsLeap) (hnow : ¬ now.IsLeap) (hlater : ¬ later.IsLeap)
    (hnone : dueAt? tier endsAt = none) (hunreached : tier.offsetDays < daysLeft now endsAt) :
    tier.offsetDays < daysLeft later endsAt := by
  refine Int.not_le.mp fun hreached => ?_
  have hnow' : now.nano < nanosPerSecond := Nat.lt_of_not_le hnow
  have hlater' : later.nano < nanosPerSecond := Nat.lt_of_not_le hlater
  have hends' : endsAt.nano < nanosPerSecond := Nat.lt_of_not_le hends
  rw [← Int.not_le, daysLeft_le_iff, Instant.since_nanos hends hnow] at hunreached
  rw [daysLeft_le_iff, Instant.since_nanos hends hlater] at hreached
  -- the instant lies after `now`, and not after `later` if it is past the deadline
  have hrange : earliestSecond ≤ endsAt.second + -tier.offsetDays * secondsPerDay ∧
      endsAt.second + -tier.offsetDays * secondsPerDay ≤ latestSecond := by
    have hfirst := now.inRange.1
    have hlast := later.inRange.2
    have hdeadline := endsAt.inRange.2
    simp only [nanosPerSecond, secondsPerDay, millisecondsPerDay] at *
    constructor
    · omega
    · split at hreached <;> omega
  have hspan : dueAt? tier endsAt
      = Instant.ofParts? (endsAt.second + -tier.offsetDays * secondsPerDay) endsAt.nano := by
    rw [dueAt?, Span.days?_of_offset hoffset, Option.bind_some, Instant.shiftBack?, Span.neg,
      ← Int.neg_mul, ← Int.neg_mul, Instant.shift?_days hends]
  rw [hspan, Instant.ofParts?, dif_pos ⟨hrange, endsAt.belowTwoSeconds⟩] at hnone
  cases hnone

/-! ## The next change -/

/-- For a tier that is announced: its instant is still to come and it was not sent; what is due
stays as it is until a millisecond before the instant; and from the instant on the tier is due. -/
theorem next?_some (horder : Tier.InOrder schedule.tiers) (hnow : ¬ now.IsLeap)
    (hends : ¬ endsAt.IsLeap) {upcoming : Upcoming}
    (h : schedule.next? now endsAt sent = some upcoming) :
    now < upcoming.dueAt ∧ upcoming.tier.name ∉ sent ∧
      (∀ later : Instant, ¬ later.IsLeap → now ≤ later →
        1 ≤ (upcoming.dueAt.since later).milliseconds →
          schedule.due later endsAt sent = schedule.due now endsAt sent) ∧
      ∀ later : Instant, ¬ later.IsLeap → upcoming.dueAt ≤ later →
        upcoming.tier ∈ schedule.due later endsAt sent := by
  obtain ⟨tier, dueAt⟩ := upcoming
  obtain ⟨hfind, hdue⟩ := next?_eq_some_iff.mp h
  have hdueLeap : ¬ dueAt.IsLeap := by rwa [Instant.IsLeap, (of_dueAt? hends hdue).2]
  have hfound := List.find?_some hfind
  simp only [Tier.isReached, Bool.and_eq_true, Bool.not_eq_true', decide_eq_false_iff_not]
    at hfound
  obtain ⟨hunreached, hsent⟩ := hfound
  refine ⟨?_, hsent, fun later hlater hle hleft => ?_, fun later hlater hle => ?_⟩
  · rw [reached_iff_of_dueAt? hends hnow hdue] at hunreached
    rw [← Instant.not_le_iff, Instant.le_iff_since_nonpos hdueLeap hnow]
    split at hunreached <;> omega
  · refine due_eq_of_unreached horder hfind (daysLeft_le_of_le hle hnow hlater hends) ?_
    rw [← Int.not_le, reached_iff_of_dueAt? hends hlater hdue]
    have hleft' : ¬ (dueAt.since later).milliseconds ≤ 0 := Int.not_le.mpr hleft
    rw [Span.milliseconds_le_iff] at hleft'
    split <;> omega
  · refine mem_due.mpr ⟨List.mem_of_find?_eq_some hfind, ?_, hsent⟩
    rw [reached_iff_of_dueAt? hends hlater hdue]
    have hpast := (Instant.le_iff_since_nonpos hdueLeap hlater).mp hle
    split <;> omega

/-- When no tier is announced, what is due stays as it is. -/
theorem next?_none (horder : Tier.InOrder schedule.tiers)
    (hoffsets : ∀ tier ∈ schedule.tiers,
      -maxOffsetDays ≤ tier.offsetDays ∧ tier.offsetDays ≤ maxOffsetDays)
    (hnow : ¬ now.IsLeap) (hends : ¬ endsAt.IsLeap)
    (h : schedule.next? now endsAt sent = none) (hlater : ¬ later.IsLeap) (hle : now ≤ later) :
    schedule.due later endsAt sent = schedule.due now endsAt sent := by
  have hdays := daysLeft_le_of_le hle hnow hlater hends
  rcases hfind : schedule.tiers.find? (fun tier =>
      !tier.isReached (daysLeft now endsAt) && !decide (tier.name ∈ sent)) with _ | tier
  · exact due_eq_of_find?_eq_none hfind hdays
  · have hfound := List.find?_some hfind
    simp only [Tier.isReached, Bool.and_eq_true, Bool.not_eq_true', decide_eq_false_iff_not]
      at hfound
    have hnone : dueAt? tier endsAt = none := by
      refine Option.eq_none_iff_forall_ne_some.mpr fun dueAt hdue => ?_
      cases h.symm.trans (next?_eq_some_iff.mpr ⟨hfind, hdue⟩)
    refine due_eq_of_unreached horder hfind hdays ?_
    exact unreached_of_dueAt?_eq_none (hoffsets tier (List.mem_of_find?_eq_some hfind)) hends hnow
      hlater hnone (Int.not_le.mp hfound.1)

/-- What is announced is the next change of what is due.  With every step checked for 64 bits the
same days are left, the same tiers are due and the same one is announced. -/
theorem next_is_next_change {tiers : List Tier} (h : ofTiers tiers = .ok schedule)
    (sent : NameSet) (hnow : ¬ now.IsLeap) (hends : ¬ endsAt.IsLeap) :
    (∀ upcoming, schedule.next? now endsAt sent = some upcoming →
      now < upcoming.dueAt ∧ upcoming.tier.name ∉ sent ∧
        (∀ later : Instant, ¬ later.IsLeap → now ≤ later →
          1 ≤ (upcoming.dueAt.since later).milliseconds →
            schedule.due later endsAt sent = schedule.due now endsAt sent) ∧
        ∀ later : Instant, ¬ later.IsLeap → upcoming.dueAt ≤ later →
          upcoming.tier ∈ schedule.due later endsAt sent) ∧
      (schedule.next? now endsAt sent = none → ∀ later : Instant, ¬ later.IsLeap → now ≤ later →
        schedule.due later endsAt sent = schedule.due now endsAt sent) ∧
      Bounded.daysLeft? now endsAt = some (daysLeft now endsAt) ∧
      Bounded.due? schedule now endsAt sent = some (schedule.due now endsAt sent) ∧
      Bounded.next? schedule now endsAt sent = some (schedule.next? now endsAt sent) := by
  obtain ⟨hperm, horder⟩ := inOrder_ofTiers h
  have hoffsets : ∀ tier ∈ schedule.tiers,
      -maxOffsetDays ≤ tier.offsetDays ∧ tier.offsetDays ≤ maxOffsetDays := fun tier htier =>
    (offsets_of_ofTiers h).2 tier (hperm.mem_iff.mp htier)
  refine ⟨fun upcoming => next?_some horder hnow hends, ?_, Bounded.daysLeft?_eq now endsAt,
    Bounded.due?_eq schedule now endsAt sent, Bounded.next?_eq now endsAt sent hoffsets⟩
  exact fun hnone later hlater hle => next?_none horder hoffsets hnow hends hnone hlater hle

/-- With the first notice sent, the second is announced for three days before a deadline that lies
half a millisecond past midnight.  Nothing more is due a millisecond before that, and the notice is
due then.  A tier five days past the last day of all is not announced, and not due at the last
instant. -/
theorem next_after_first_notice :
    let deadline : Instant := ⟨14 * secondsPerDay, 500_000, by decide, by decide⟩
    let dueAt : Instant := ⟨11 * secondsPerDay, 500_000, by decide, by decide⟩
    let last : Instant := ⟨11 * secondsPerDay - 1, 999_500_000, by decide, by decide⟩
    let sent := NameSet.ofList ["14d"]
    let late : Schedule := ⟨[⟨"late", -5, .reminder⟩]⟩
    (default.next? .epoch deadline sent = some ⟨⟨"3d", 3, .reminder⟩, dueAt⟩ ∧
      default.due last deadline sent = default.due .epoch deadline sent ∧
      ⟨"3d", 3, .reminder⟩ ∈ default.due dueAt deadline sent) ∧
    (late.next? .epoch .latest .empty = none ∧
      late.due .latest .latest .empty = late.due .epoch .latest .empty) := by
  intro deadline dueAt last sent late
  have hdefault : ofTiers defaultTiers = .ok default := rfl
  have hlate : ofTiers late.tiers = .ok late := rfl
  have hnext : default.next? .epoch deadline sent = some ⟨⟨"3d", 3, .reminder⟩, dueAt⟩ := by decide
  have hnone : late.next? .epoch .latest .empty = none := by decide
  obtain ⟨-, -, hsame, hdue⟩ :=
    (next_is_next_change hdefault sent (by decide) (by decide)).1 _ hnext
  have hquiet := (next_is_next_change hlate .empty (by decide) (by decide)).2.1 hnone
  exact ⟨⟨hnext, hsame last (by decide) (by decide) (by decide),
    hdue dueAt (by decide) (by decide)⟩, hnone, hquiet .latest (by decide) (by decide)⟩

end Schedule

end AuditReminder
