import Eligibility.Proofs.OpenMinutes
import Eligibility.Proofs.Rounding

/-!
Coverage against activity. The coverage of a valid days-and-times schedule is the nearest whole percentage
of its durations in a week, so it never understates the minutes at which the schedule is on beyond rounding,
and states them where no minute is counted twice.
-/

set_option autoImplicit false

namespace Eligibility

namespace Schedule

theorem coverage_eq_percentOfDay {s : Schedule} (hk : s.kind = some .daysAndTimes)
    (hv : s.isValid = true) : scheduleCoverage (some s) = percentOfDay (weeklyMinutes s.days) := by
  have hne := (isProper_of_isValid hk hv).1
  cases hd : s.daysOfWeek with
  | none => simp [days, hd] at hne
  | some ds => simp [scheduleCoverage, coverage, hk, hd, days]

end Schedule

/-- The set holds a weekday and a minute where the days are on at every instant with them. Coverage is not
below its share of a week by more than a half percent, nor above it where no two entries are for one weekday
and no two periods of an enabled entry hold one minute. -/
theorem coverage_measures_openMinutes (s : Schedule) (hk : s.kind = some .daysAndTimes)
    (hv : s.isValid = true) :
    (∀ t : Instant, (t.date.weekday, t.minute) ∈ openMinutes s.days ↔ onWeekday s.days t = true) ∧
    100 * (openMinutes s.days).card ≤ 10080 * scheduleCoverage (some s) + 5040 ∧
    (s.days.Pairwise (fun e f => e.weekday? ≠ f.weekday?) →
      (∀ e ∈ s.days, e.enabled = true →
        e.periods.Pairwise fun p q => Disjoint p.range.minutes q.range.minutes) →
      10080 * scheduleCoverage (some s) ≤ 100 * (openMinutes s.days).card + 5040) := by
  have hproper := (Schedule.isProper_of_isValid hk hv).2
  have hnear := Schedule.percentOfDay_nearest (Schedule.weeklyMinutes s.days)
  rw [Schedule.coverage_eq_percentOfDay hk hv]
  refine ⟨fun t => mem_openMinutes, ?_, ?_⟩
  · have hle := card_openMinutes_le hproper
    have hweek := card_openMinutes_le_week s.days
    have hmin : (openMinutes s.days).card ≤ min (Schedule.weeklyMinutes s.days) 10080 :=
      Nat.le_min.mpr ⟨hle, hweek⟩
    omega
  · intro hone hdisjoint
    rw [card_openMinutes hproper hone hdisjoint]
    exact hnear.2

/-- Two periods on Fridays, one of them overnight, and all Saturday. -/
def weekendSchedule : Schedule :=
  .onDays [⟨"Friday", true, [⟨"09:00", "12:30"⟩, ⟨"22:00", "06:00"⟩]⟩, ⟨" sat ", true, [.fullDay]⟩,
    ⟨"SUN", false, []⟩]

theorem coverage_measures_openMinutes_weekend :
    weekendSchedule.isValid = true ∧ scheduleCoverage (some weekendSchedule) = 21 ∧
      100 * (openMinutes weekendSchedule.days).card ≤ 10080 * 21 + 5040 ∧
      10080 * 21 ≤ 100 * (openMinutes weekendSchedule.days).card + 5040 := by
  have hv : weekendSchedule.isValid = true := by decide +kernel
  have hc : scheduleCoverage (some weekendSchedule) = 21 := by decide +kernel
  have hone : weekendSchedule.days.Pairwise fun e f => e.weekday? ≠ f.weekday? := by decide +kernel
  have hmorning : TimePeriod.range ⟨"09:00", "12:30"⟩ = ⟨540, 750⟩ := by decide +kernel
  have hnight : TimePeriod.range ⟨"22:00", "06:00"⟩ = ⟨1320, 360⟩ := by decide +kernel
  have hranges : Disjoint (TimeRange.minutes ⟨540, 750⟩) (TimeRange.minutes ⟨1320, 360⟩) := by
    rw [Finset.disjoint_left]
    intro m hm hn
    rw [TimeRange.mem_minutes] at hm hn
    simp [TimeRange.contains, TimeRange.isFullDay, TimeRange.isOvernight] at hm hn
    omega
  have hdisjoint : ∀ e ∈ weekendSchedule.days, e.enabled = true →
      e.periods.Pairwise fun p q => Disjoint p.range.minutes q.range.minutes := by
    simp [weekendSchedule, Schedule.onDays, Schedule.days, hmorning, hnight, hranges]
  obtain ⟨-, hlow, hhigh⟩ := coverage_measures_openMinutes weekendSchedule rfl hv
  rw [hc] at hlow hhigh
  exact ⟨hv, hc, hlow, hhigh hone hdisjoint⟩

end Eligibility
