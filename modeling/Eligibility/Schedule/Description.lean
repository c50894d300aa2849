import Eligibility.Schedule.Basic
import Eligibility.Catalog.Context

/-!
One-line descriptions of schedules.
-/

set_option autoImplicit false

namespace Eligibility

def counted (n : Nat) (singular plural : String) : String :=
  if n = 1 then s!"{n} {singular}" else s!"{n} {plural}"

/-- The short name of the entry's weekday; a name that means no weekday is cut to three characters. -/
def DayEntry.shortName (e : DayEntry) : String :=
  match e.weekday? with
  | some w => w.abbreviation
  | none => String.ofList (e.day.toList.take 3)

def describeDays (days : List DayEntry) : String :=
  let enabled := days.filter DayEntry.enabled
  if enabled.isEmpty then "No days selected"
  else
    let names := ", ".intercalate (enabled.map DayEntry.shortName)
    let times := Context.firstSeen (enabled.flatMap fun e => e.periods.map TimePeriod.label)
    if times.isEmpty then names else names ++ ": " ++ ", ".intercalate times

def Schedule.description (s : Schedule) : String :=
  match s.kind with
  | some .alwaysOn => "Always available"
  | some .daysAndTimes => if s.days.isEmpty then "Always available" else describeDays s.days
  | some .specificDates => counted s.dates.length "specific date" "specific dates"
  | some .blackoutDates => counted s.blackouts.length "blackout date" "blackout dates"
  | _ => "Custom schedule"

def scheduleDescription (s : Option Schedule) : String :=
  match s with
  | none => "Always available"
  | some s => s.description

end Eligibility
