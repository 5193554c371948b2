/-
Reached tiers and leap seconds.

A tier that is reached stays reached, but for two kinds of steps from one instant to a later one
(`Instant.StepsOver`).  The distance to a deadline counts a leap second only as far as the times of
day show it:

    into a leap second      the leap second is not counted from the second before it, and is
                            counted from within it
    out of the last one     from within the leap second that ends a day it is not counted, and from
                            the first second of the next day the deadline is as far as without it

On either step the distance may grow, by less than two seconds, past a whole number of days, and
then one more day is left than before.  It may also grow elsewhere, out of any other leap second or
over midnight when the deadline lies in one, but then it stays away from whole days where leap
seconds end minutes, as they do in all instants that are read off a text
(`Time.leapEndsMinute_of_parseTime?`).

Main statement: `daysLeft_grows_by_step`.
-/
import AuditReminder.Proofs.Deadline
import AuditReminder.Proofs.Schedule
import AuditReminder.Proofs.Time.Parsed

namespace AuditReminder

variable {now later endsAt : Instant} {n : Int}

namespace Instant

/-- A step from a second into the leap second that follows it, or from the leap second that ends a
day into the first second of the next day. -/
def StepsOver (now later : Instant) : Prop :=
  (¬ now.IsLeap ∧ later.IsLeap ∧ later.second = now.second) ∨
    (now.IsLeap ∧ ¬ later.IsLeap ∧ later.second = now.second + 1 ∧ later.timeOfDay = 0)

instance (now later : Instant) : Decidable (now.StepsOver later) :=
  inferInstanceAs (Decidable (_ ∨ _))

/-! ## The distance to a deadline -/

/-- The distance grows by two seconds at most. -/
theorem since_le_add (hle : now ≤ later) (endsAt : Instant) :
    (endsAt.since later).nanos ≤ (endsAt.since now).nanos + 2 * nanosPerSecond := by
  have hnow := now.belowTwoSeconds
  have hlater := later.belowTwoSeconds
  simp only [since, leapBetween, IsLeap, timeOfDay, le_iff, secondsPerDay, nanosPerSecond] at *
  omega

/-- Within one leap second the distance shrinks. -/
theorem since_le_of_same_leap (hle : now ≤ later) (hsecond : later.second = now.second)
    (hnow : now.IsLeap) (hlater : later.IsLeap) :
    (endsAt.since later).nanos ≤ (endsAt.since now).nanos := by
  have hnano : now.nano ≤ later.nano := by
    rw [le_iff, hsecond] at hle
    omega
  have htime : later.timeOfDay = now.timeOfDay := by rw [timeOfDay, hsecond, timeOfDay]
  have hcounted : endsAt.leapBetween later = endsAt.leapBetween now := by
    rw [leapBetween, leapBetween, htime, if_pos hnow, if_pos hlater]
  simp only [since, hsecond, hcounted]
  omega

/-- Towards a leap second after another second the distance shrinks. -/
theorem since_le_of_leap (hle : now ≤ later) (hsecond : later.second ≠ now.second)
    (hlater : later.IsLeap) (hend : later.LeapEndsMinute) :
    (endsAt.since later).nanos ≤ (endsAt.since now).nanos := by
  have hminute := hend hlater
  have hnow := now.belowTwoSeconds
  have hlater' := later.belowTwoSeconds
  simp only [since, leapBetween, if_pos hlater]
  simp only [IsLeap, timeOfDay, le_iff, secondsPerDay, nanosPerSecond] at *
  omega

end Instant

/-! ## The days left -/

/-- Outside leap seconds the days left do not grow, be the deadline in a leap second or not. -/
theorem daysLeft_le_of_not_leap (hends : endsAt.LeapEndsMinute) (hle : now ≤ later)
    (hnow : ¬ now.IsLeap) (hlater : ¬ later.IsLeap) (h : daysLeft now endsAt ≤ n) :
    daysLeft later endsAt ≤ n := by
  have hbelow := endsAt.belowTwoSeconds
  unfold Instant.LeapEndsMinute at hends
  rw [daysLeft_le_iff] at h ⊢
  simp only [Instant.since, Instant.leapBetween, if_neg hnow, if_neg hlater] at h ⊢
  simp only [Instant.IsLeap, Instant.timeOfDay, Instant.le_iff, secondsPerDay, nanosPerSecond,
    millisecondsPerDay] at *
  omega

/-- On the way out of a leap second the days left do not grow, unless it ends a day and the day has
just ended. -/
theorem daysLeft_le_of_leap (hends : endsAt.LeapEndsMinute) (hend : now.LeapEndsMinute)
    (hle : now ≤ later) (hnow : now.IsLeap) (hlater : ¬ later.IsLeap)
    (hday : ¬ (later.second = now.second + 1 ∧ later.timeOfDay = 0))
    (h : daysLeft now endsAt ≤ n) : daysLeft later endsAt ≤ n := by
  have hminute := hend hnow
  have hnow' := now.belowTwoSeconds
  have hbelow := endsAt.belowTwoSeconds
  unfold Instant.LeapEndsMinute at hends
  rw [daysLeft_le_iff] at h ⊢
  simp only [Instant.since, Instant.leapBetween, if_pos hnow, if_neg hlater] at h ⊢
  simp only [Instant.IsLeap, Instant.timeOfDay, Instant.le_iff, secondsPerDay, nanosPerSecond,
    millisecondsPerDay] at *
  omega

theorem daysLeft_le_of_since (hsince : (endsAt.since later).nanos ≤ (endsAt.since now).nanos)
    (h : daysLeft now endsAt ≤ n) : daysLeft later endsAt ≤ n :=
  daysLeft_le_iff.mpr (Int.lt_of_le_of_lt hsince (daysLeft_le_iff.mp h))

/-- The days left do not grow but on a step of the two kinds, where leap seconds end minutes. -/
theorem daysLeft_le_of_not_stepsOver (hnow : now.LeapEndsMinute) (hlater : later.LeapEndsMinute)
    (hends : endsAt.LeapEndsMinute) (hle : now ≤ later) (hstep : ¬ now.StepsOver later) :
    daysLeft later endsAt ≤ daysLeft now endsAt := by
  have hrefl := Int.le_refl (daysLeft now endsAt)
  obtain ⟨hinto, hout⟩ := not_or.mp hstep
  by_cases hleap : later.IsLeap
  · by_cases hsecond : later.second = now.second
    · have hfrom : now.IsLeap :=
        Decidable.byContradiction fun hfrom => hinto ⟨hfrom, hleap, hsecond⟩
      exact daysLeft_le_of_since
        (Instant.since_le_of_same_leap hle hsecond hfrom hleap) hrefl
    · exact daysLeft_le_of_since (Instant.since_le_of_leap hle hsecond hleap hlater) hrefl
  · by_cases hfrom : now.IsLeap
    · exact daysLeft_le_of_leap hends hnow hle hfrom hleap
        (fun hday => hout ⟨hfrom, hleap, hday⟩) hrefl
    · exact daysLeft_le_of_not_leap hends hle hfrom hleap hrefl

/-- As time passes the days left grow by one at most.  Where leap seconds end minutes they do not
grow but on a step into a leap second or out of the last one of a day: until then a tier that is due
stays due. -/
theorem daysLeft_grows_by_step (hle : now ≤ later) (endsAt : Instant) :
    daysLeft later endsAt ≤ daysLeft now endsAt + 1 ∧
      (now.LeapEndsMinute → later.LeapEndsMinute → endsAt.LeapEndsMinute → ¬ now.StepsOver later →
        daysLeft later endsAt ≤ daysLeft now endsAt ∧
          ∀ (schedule : Schedule) (sent : NameSet), ∀ tier ∈ schedule.due now endsAt sent,
            tier ∈ schedule.due later endsAt sent) := by
  refine ⟨?_, fun hnow hlater hends hstep => ?_⟩
  · have hnanos := Instant.since_le_add hle endsAt
    have hleft := daysLeft_le_iff.mp (Int.le_refl (daysLeft now endsAt))
    rw [daysLeft_le_iff]
    simp only [nanosPerSecond, millisecondsPerDay] at *
    omega
  · have hdays := daysLeft_le_of_not_stepsOver hnow hlater hends hle hstep
    refine ⟨hdays, fun schedule sent tier htier => ?_⟩
    obtain ⟨hmem, hreached, hsent⟩ := Schedule.mem_due.mp htier
    exact Schedule.mem_due.mpr ⟨hmem, Int.le_trans hdays hreached, hsent⟩

/-- With three days left to a deadline in a leap second, and an hour later, the default tiers due
are still due; all three are times that the command line takes. -/
theorem due_an_hour_later :
    ∃ later deadline : Instant,
      (Time.parseTime? "1970-01-01" = some .epoch ∧
        Time.parseTime? "1970-01-01T01:00:00Z" = some later ∧
        Time.parseTime? "1970-01-03T23:59:60.500Z" = some deadline) ∧
      .epoch ≤ later ∧ ¬ Instant.epoch.StepsOver later ∧
      daysLeft later deadline ≤ daysLeft .epoch deadline ∧
      ∀ tier ∈ Schedule.default.due .epoch deadline .empty,
        tier ∈ Schedule.default.due later deadline .empty := by
  let later : Instant := ⟨3_600, 0, by decide, by decide⟩
  let deadline : Instant := ⟨3 * secondsPerDay - 1, 1_500_000_000, by decide, by decide⟩
  have hparsed : Time.parseTime? "1970-01-01" = some .epoch := by decide +kernel
  have hlater : Time.parseTime? "1970-01-01T01:00:00Z" = some later := by decide +kernel
  have hdeadline : Time.parseTime? "1970-01-03T23:59:60.500Z" = some deadline := by decide +kernel
  have hle : Instant.epoch ≤ later := by decide
  have hstep : ¬ Instant.epoch.StepsOver later := by decide
  obtain ⟨hdays, hdue⟩ := (daysLeft_grows_by_step hle deadline).2
    (Time.leapEndsMinute_of_parseTime? hparsed) (Time.leapEndsMinute_of_parseTime? hlater)
    (Time.leapEndsMinute_of_parseTime? hdeadline) hstep
  exact ⟨later, deadline, ⟨hparsed, hlater, hdeadline⟩, hle, hstep, hdays, hdue .default .empty⟩

/-- The command line takes an instant of the leap second that ends a day, and the midnight after
it.  Half a second past that midnight is a deadline: no day is left at the first instant, and the
last of the default tiers is due; at the second one day is left, and it is not due. -/
theorem unreached_after_leap_second :
    ∃ now later deadline : Instant,
      Time.parseTime? "1970-01-01T23:59:60.900Z" = some now ∧
      Time.parseTime? "1970-01-02T00:00:00Z" = some later ∧
      Time.parseTime? "1970-01-02T00:00:00.500Z" = some deadline ∧
      now < later ∧ later < deadline ∧
      daysLeft now deadline = 0 ∧ daysLeft later deadline = 1 ∧
      ⟨"overdue", 0, .reminder⟩ ∈ Schedule.default.due now deadline .empty ∧
      ⟨"overdue", 0, .reminder⟩ ∉ Schedule.default.due later deadline .empty :=
  ⟨⟨86_399, 1_900_000_000, by decide, by decide⟩,
    ⟨86_400, 0, by decide, by decide⟩,
    ⟨86_400, 500_000_000, by decide, by decide⟩,
    by decide +kernel, by decide +kernel, by decide +kernel, by decide, by decide, by decide,
    by decide, by decide, by decide⟩

end AuditReminder
