import Eligibility.Binary64.Basic
import Eligibility.Schedule.Basic

/-!
Coverage: the percentage of an average day that a days-and-times schedule is on. It is computed in
doubles, so a share that is a half percent exactly goes where the rounded product lies.
-/

set_option autoImplicit false

namespace Eligibility

namespace Binary64

/-- The nearest whole number from 0 to 100; a half goes up. No number gives zero. -/
def wholePercent : Binary64 → Nat
  | .finite false u => min ((2 * u + one) / (2 * one)) 100
  | .infinite false => 100
  | .finite true _ | .infinite true | .nan => 0

end Binary64

namespace Schedule

def weeklyMinutes (days : List DayEntry) : Nat :=
  ((days.filter DayEntry.enabled).flatMap fun e => e.periods.map fun p => p.range.duration).foldl
    (· + ·) 0

def percentOfDay (minutes : Nat) : Nat :=
  let average := (Binary64.ofNat minutes).dividedBy (.ofNat 7)
  let share := average.dividedBy (.ofNat minutesPerDay)
  (share.times (.ofNat 100)).wholePercent

/-- A schedule of another kind, or without a list of days, covers everything. -/
def coverage (s : Schedule) : Nat :=
  if s.kind = some .daysAndTimes then
    match s.daysOfWeek with
    | none => 100
    | some days => percentOfDay (weeklyMinutes days)
  else 100

end Schedule

def scheduleCoverage (s : Option Schedule) : Nat :=
  match s with
  | none => 100
  | some s => s.coverage

end Eligibility
