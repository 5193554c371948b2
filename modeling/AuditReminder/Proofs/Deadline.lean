/-
Deadlines as time goes by.

Outside leap seconds the distance to a deadline shrinks as time passes, and so do the days left,
which are rounded up (`daysLeft_le_of_le`): a tier that is reached stays reached.  An audit that is
long past stays so (`Plan.isExpired_of_le`), leap seconds or not.  Within a leap second the days
left may grow, as the distance of two instants counts leap seconds by their times of day.

A tier falls due whole days before the deadline, when just as many days are left as its threshold
says (`Schedule.daysLeft_of_dueAt?`).  If it lies past the deadline by more days than the horizon
has, the audit is long past by then (`Plan.isExpired_of_dueAt?`), and the tier is never reached for
an audit that is still looked at (`Plan.isExpired_of_reached`).
-/
import AuditReminder.Pass.Basic

namespace AuditReminder

variable {now later endsAt : Instant}

theorem Instant.lt_of_le_of_lt {a b c : Instant} (h₁ : b ≤ c) (h₂ : a < b) : a < c := by
  rw [Instant.le_iff] at h₁
  rw [Instant.lt_iff] at h₂ ⊢
  omega

/-- No second is counted in between when neither instant lies in a leap second. -/
theorem Instant.leapBetween_eq_zero {a b : Instant} (ha : ¬ a.IsLeap) (hb : ¬ b.IsLeap) :
    a.leapBetween b = 0 := by
  unfold Instant.leapBetween
  rw [if_neg ha, if_neg hb]
  split
  · rfl
  · split <;> rfl

/-- Outside leap seconds the distance is that of two numbers on one line. -/
theorem Instant.since_nanos {a b : Instant} (ha : ¬ a.IsLeap) (hb : ¬ b.IsLeap) :
    (a.since b).nanos = (a.second - b.second) * nanosPerSecond + (a.nano - b.nano : Int) := by
  simp only [since, leapBetween_eq_zero ha hb, Int.add_zero]

theorem Instant.le_iff_since_nonpos {a b : Instant} (ha : ¬ a.IsLeap) (hb : ¬ b.IsLeap) :
    a ≤ b ↔ (a.since b).nanos ≤ 0 := by
  have hbelow : a.nano < nanosPerSecond := Nat.lt_of_not_le ha
  have hbelow' : b.nano < nanosPerSecond := Nat.lt_of_not_le hb
  rw [le_iff, since_nanos ha hb]
  simp only [nanosPerSecond] at *
  omega

theorem Instant.since_le_of_le (hle : now ≤ later) (hnow : ¬ now.IsLeap) (hlater : ¬ later.IsLeap)
    (hends : ¬ endsAt.IsLeap) : (endsAt.since later).nanos ≤ (endsAt.since now).nanos := by
  have hn : now.nano < nanosPerSecond := Nat.lt_of_not_le hnow
  have hl : later.nano < nanosPerSecond := Nat.lt_of_not_le hlater
  rw [Instant.le_iff] at hle
  simp only [Instant.since, Instant.leapBetween_eq_zero hends hlater,
    Instant.leapBetween_eq_zero hends hnow, nanosPerSecond] at hn hl ⊢
  omega

/-! ## Days left -/

/-- Milliseconds are cut towards zero. -/
theorem Span.milliseconds_le_iff {span : Span} {n : Int} :
    span.milliseconds ≤ n ↔ span.nanos < n * 1_000_000 + if n < 0 then 1 else 1_000_000 := by
  rcases Int.le_total 0 span.nanos with hpos | hneg
  · rw [milliseconds, Int.tdiv_eq_ediv_of_nonneg hpos]
    split <;> omega
  · have hcut : span.milliseconds = -(-span.nanos / 1_000_000) := by
      rw [milliseconds, ← Int.tdiv_eq_ediv_of_nonneg (by omega), Int.neg_tdiv, Int.neg_neg]
    rw [hcut]
    split <;> omega

/-- No more than `n` days are left if that many hold the milliseconds left. -/
theorem daysLeft_le_iff_milliseconds {n : Int} :
    daysLeft now endsAt ≤ n ↔ (endsAt.since now).milliseconds ≤ n * millisecondsPerDay := by
  simp only [daysLeft, millisecondsPerDay]
  omega

/-- No more than `n` days are left if that many hold the distance to the deadline, up to a part of
a millisecond that does not count. -/
theorem daysLeft_le_iff {n : Int} :
    daysLeft now endsAt ≤ n ↔
      (endsAt.since now).nanos
        < n * millisecondsPerDay * 1_000_000 + if n < 0 then 1 else 1_000_000 := by
  rw [daysLeft_le_iff_milliseconds, Span.milliseconds_le_iff]
  simp only [millisecondsPerDay]
  omega

/-- The days left do not grow. -/
theorem daysLeft_le_of_le (hle : now ≤ later) (hnow : ¬ now.IsLeap) (hlater : ¬ later.IsLeap)
    (hends : ¬ endsAt.IsLeap) : daysLeft later endsAt ≤ daysLeft now endsAt := by
  have hnanos := Instant.since_le_of_le hle hnow hlater hends
  have hleft := daysLeft_le_iff.mp (Int.le_refl (daysLeft now endsAt))
  exact daysLeft_le_iff.mpr (Int.lt_of_le_of_lt hnanos hleft)

/-! ## Long past -/

theorem Plan.isExpired_iff {plan : Plan} {audit : Audit} :
    plan.isExpired now audit = true ↔
      ∃ horizon, audit.endsAt.shift? plan.horizon = some horizon ∧ horizon < now := by
  unfold Plan.isExpired
  cases audit.endsAt.shift? plan.horizon with
  | none => simp
  | some horizon => simp

/-- What is long past stays long past. -/
theorem Plan.isExpired_of_le {plan : Plan} {audit : Audit} (hle : now ≤ later)
    (h : plan.isExpired now audit = true) : plan.isExpired later audit = true := by
  obtain ⟨horizon, hshift, hlt⟩ := Plan.isExpired_iff.mp h
  exact Plan.isExpired_iff.mpr ⟨horizon, hshift, Instant.lt_of_le_of_lt hle hlt⟩

/-! ## The instant at which a tier falls due -/

namespace Instant

/-- Outside leap seconds a step of whole days keeps the time of day. -/
theorem shift?_days {t : Instant} (ht : ¬ t.IsLeap) (n : Int) :
    t.shift? ⟨n * secondsPerDay * nanosPerSecond⟩
      = ofParts? (t.second + n * secondsPerDay) t.nano := by
  have hnano : t.nano < nanosPerSecond := Nat.lt_of_not_le ht
  have hne : (nanosPerSecond : Int) ≠ 0 := by decide
  have hseconds : (⟨n * secondsPerDay * nanosPerSecond⟩ : Span).seconds = n * secondsPerDay :=
    Int.mul_tdiv_cancel _ hne
  have hrest : (n * secondsPerDay * nanosPerSecond).tmod nanosPerSecond = 0 :=
    Int.mul_tmod_left _ _
  have hdiv : (t.nano : Int) / nanosPerSecond = 0 :=
    Int.ediv_eq_zero_of_lt (by omega) (by omega)
  have hmod : (t.nano : Int) % nanosPerSecond = t.nano :=
    Int.emod_eq_of_lt (by omega) (by omega)
  simp only [shift?, if_neg ht, hseconds, hrest, carry?, Int.add_zero, hdiv, hmod,
    Int.toNat_natCast]

end Instant

namespace Schedule

/-- Outside leap seconds a tier falls due whole days before the deadline. -/
theorem of_dueAt? {tier : Tier} (hends : ¬ endsAt.IsLeap)
    (h : dueAt? tier endsAt = some now) :
    now.second = endsAt.second - tier.offsetDays * secondsPerDay ∧ now.nano = endsAt.nano := by
  obtain ⟨span, hspan, hshift⟩ := Option.bind_eq_some_iff.mp h
  unfold Span.days? at hspan
  split at hspan
  · obtain rfl := Option.some.inj hspan
    have hneg : (⟨tier.offsetDays * secondsPerDay * nanosPerSecond⟩ : Span).neg
        = ⟨-tier.offsetDays * secondsPerDay * nanosPerSecond⟩ := by
      simp only [Span.neg, Int.neg_mul]
    rw [Instant.shiftBack?, hneg, Instant.shift?_days hends] at hshift
    obtain ⟨hsecond, hnano⟩ := Instant.ofParts?_eq_some_iff.mp hshift
    exact ⟨by rw [hsecond, Int.neg_mul, Int.sub_eq_add_neg], hnano⟩
  · cases hspan

/-- A tier is reached when less than a millisecond is left until it falls due, and if that is past
the deadline, when nothing is left. -/
theorem reached_iff_of_dueAt? {tier : Tier} {dueAt : Instant} (hends : ¬ endsAt.IsLeap)
    (hnow : ¬ now.IsLeap) (h : dueAt? tier endsAt = some dueAt) :
    daysLeft now endsAt ≤ tier.offsetDays ↔
      (dueAt.since now).nanos < if tier.offsetDays < 0 then 1 else 1_000_000 := by
  obtain ⟨hsecond, hnano⟩ := of_dueAt? hends h
  have hdue : ¬ dueAt.IsLeap := by rwa [Instant.IsLeap, hnano]
  rw [daysLeft_le_iff]
  simp only [Instant.since, Instant.leapBetween_eq_zero hends hnow,
    Instant.leapBetween_eq_zero hdue hnow, hsecond, hnano, secondsPerDay, nanosPerSecond,
    millisecondsPerDay]
  omega

/-- When a tier falls due, its threshold is the number of days left. -/
theorem daysLeft_of_dueAt? {tier : Tier} (hends : ¬ endsAt.IsLeap)
    (h : dueAt? tier endsAt = some now) : daysLeft now endsAt = tier.offsetDays := by
  obtain ⟨hsecond, hnano⟩ := of_dueAt? hends h
  have hnow : ¬ now.IsLeap := by rwa [Instant.IsLeap, hnano]
  have hspan : (endsAt.since now).nanos = tier.offsetDays * millisecondsPerDay * 1_000_000 := by
    simp only [Instant.since, Instant.leapBetween_eq_zero hends hnow, hsecond, hnano, secondsPerDay,
      nanosPerSecond, millisecondsPerDay]
    omega
  refine Int.le_antisymm ?_ (Int.not_lt.mp fun hlt => ?_)
  · rw [daysLeft_le_iff, hspan]
    split <;> omega
  · have hfewer := daysLeft_le_iff.mp (Int.le_sub_one_of_lt hlt)
    rw [hspan] at hfewer
    simp only [millisecondsPerDay] at hfewer
    split at hfewer <;> omega

/-- A tier past the deadline is not reached before it falls due. -/
theorem dueAt?_le_of_reached {tier : Tier} (hends : ¬ endsAt.IsLeap) (hlater : ¬ later.IsLeap)
    (h : dueAt? tier endsAt = some now) (hpast : tier.offsetDays < 0)
    (hreached : daysLeft later endsAt ≤ tier.offsetDays) : now ≤ later := by
  rw [reached_iff_of_dueAt? hends hlater h, if_pos hpast] at hreached
  have hnow : ¬ now.IsLeap := by rwa [Instant.IsLeap, (of_dueAt? hends h).2]
  exact (Instant.le_iff_since_nonpos hnow hlater).mpr (Int.lt_add_one_iff.mp hreached)

end Schedule

/-- An audit is looked at when a tier falls due, unless that is further past the deadline than the
horizon. -/
theorem Plan.isExpired_of_dueAt? {plan : Plan} {audit : Audit} {tier : Tier} {days : Int}
    (hhorizon : plan.horizon = ⟨days * secondsPerDay * nanosPerSecond⟩) (hdays : 0 ≤ days)
    (hends : ¬ audit.endsAt.IsLeap) (h : Schedule.dueAt? tier audit.endsAt = some now) :
    plan.isExpired now audit = false ↔ -tier.offsetDays ≤ days := by
  obtain ⟨hsecond, hnano⟩ := Schedule.of_dueAt? hends h
  have hday : 0 < secondsPerDay := by decide
  rw [Bool.eq_false_iff, ne_eq, Plan.isExpired_iff, hhorizon, Instant.shift?_days hends]
  constructor
  · intro hlooked
    refine Int.not_lt.mp fun hlate => hlooked ?_
    -- the end of the horizon lies between the deadline and now, so it can be written
    have hbefore : audit.endsAt.second + days * secondsPerDay < now.second := by
      simp only [hsecond, secondsPerDay]
      omega
    have hrange : earliestSecond ≤ audit.endsAt.second + days * secondsPerDay ∧
        audit.endsAt.second + days * secondsPerDay ≤ latestSecond := by
      have hfirst := audit.endsAt.inRange.1
      have hlast := now.inRange.2
      have hspan := Int.mul_nonneg hdays (Int.le_of_lt hday)
      omega
    exact ⟨⟨_, audit.endsAt.nano, hrange, audit.endsAt.belowTwoSeconds⟩,
      Instant.ofParts?_eq_some_iff.mpr ⟨rfl, rfl⟩, Or.inl hbefore⟩
  · rintro hle ⟨horizon, hshift, hlt⟩
    obtain ⟨hsecond', hnano'⟩ := Instant.ofParts?_eq_some_iff.mp hshift
    rw [Instant.lt_iff, hsecond', hnano', hsecond, hnano] at hlt
    simp only [secondsPerDay] at hlt
    omega

/-- A tier further past the deadline than the horizon is never reached for an audit that is looked
at. -/
theorem Plan.isExpired_of_reached {plan : Plan} {audit : Audit} {tier : Tier} {days : Int}
    (hhorizon : plan.horizon = ⟨days * secondsPerDay * nanosPerSecond⟩) (hdays : 0 ≤ days)
    (hends : ¬ audit.endsAt.IsLeap) (hlater : ¬ later.IsLeap)
    (h : Schedule.dueAt? tier audit.endsAt = some now) (hlate : days < -tier.offsetDays)
    (hreached : daysLeft later audit.endsAt ≤ tier.offsetDays) :
    plan.isExpired later audit = true := by
  have hpast : plan.isExpired now audit = true := by
    refine Bool.of_not_eq_false fun hlooked => ?_
    have hle := (Plan.isExpired_of_dueAt? hhorizon hdays hends h).mp hlooked
    omega
  exact Plan.isExpired_of_le
    (Schedule.dueAt?_le_of_reached hends hlater h (by omega) hreached) hpast

end AuditReminder
