import Eligibility.Schedule.Basic

/-!
Structural validation of schedules. Every fault is collected; the causes are data and
`ScheduleFault.message` words them.
-/

set_option autoImplicit false

namespace Eligibility

inductive PeriodFault where
  /-- The start or the end is blank. -/
  | incomplete
  | time (fault : Clock.TimeFault)
  /-- Start and end are the same time and it is not a whole day. -/
  | empty (both : String)
  deriving DecidableEq, Repr

inductive ScheduleFault where
  | kindMissing
  | kindUnknown
  | noDays
  | noDates
  | notWeekday (day : String)
  | noPeriods (day : String)
  /-- `owner` is the day or date of the period and `place` its place there, counted from zero. -/
  | period (owner : String) (place : Nat) (fault : PeriodFault)
  | notDate (date : String)
  | blackoutNotDate (date : String)
  deriving DecidableEq, Repr

def PeriodFault.message (owner : String) (number : Nat) : PeriodFault → String
  | .incomplete => s!"{owner}: time period {number} needs both a start and an end time"
  | .time fault => s!"{owner}: time period {number}: {fault.message}"
  | .empty both => s!"{owner}: time period {number} starts and ends at {both}"

def ScheduleFault.message : ScheduleFault → String
  | .kindMissing => "Schedule type is required"
  | .kindUnknown => "Schedule type is not recognised"
  | .noDays => "At least one day must be configured"
  | .noDates => "At least one date must be configured"
  | .notWeekday day => s!"'{day}' is not a day of the week"
  | .noPeriods day => s!"{day} has no time periods"
  | .period owner place fault => fault.message owner (place + 1)
  | .notDate date => s!"'{date}' is not a valid date (YYYY-MM-DD)"
  | .blackoutNotDate date => s!"blackout date '{date}' is not a valid date (YYYY-MM-DD)"

def timeFaults (s : String) : List PeriodFault :=
  match Clock.strictMinutes s with
  | .ok _ => []
  | .error fault => [.time fault]

namespace TimePeriod

def faults (p : TimePeriod) : List PeriodFault :=
  if Text.allBlank p.start || Text.allBlank p.finish then [.incomplete]
  else
    let wrong := timeFaults p.start ++ timeFaults p.finish
    if wrong.isEmpty && p.start == p.finish && !p.range.isFullDay then [.empty p.start] else wrong

end TimePeriod

def periodFaults (owner : String) (periods : List TimePeriod) : List ScheduleFault :=
  (periods.mapIdx fun i p => p.faults.map (.period owner i)).flatten

/-- The periods of a day that is not enabled are not looked at. -/
def DayEntry.faults (e : DayEntry) : List ScheduleFault :=
  (if e.weekday?.isNone then [.notWeekday e.day] else []) ++
    if e.enabled then
      (if e.periods.isEmpty then [.noPeriods e.day] else []) ++ periodFaults e.day e.periods
    else []

def DateEntry.faults (e : DateEntry) : List ScheduleFault :=
  (if (Date.read? e.date).isNone then [.notDate e.date] else []) ++ periodFaults e.date e.periods

namespace Schedule

def kindFaults (s : Schedule) : List ScheduleFault :=
  match s.kind with
  | none => [.kindMissing]
  | some .unknown => [.kindUnknown]
  | some .alwaysOn | some .blackoutDates => []
  | some .daysAndTimes =>
    (if s.days.isEmpty then [.noDays] else []) ++ s.days.flatMap DayEntry.faults
  | some .specificDates =>
    (if s.dates.isEmpty then [.noDates] else []) ++ s.dates.flatMap DateEntry.faults

def blackoutFaults (s : Schedule) : List ScheduleFault :=
  (s.blackouts.filter fun d => (Date.read? d).isNone).map .blackoutNotDate

def faults (s : Schedule) : List ScheduleFault := s.kindFaults ++ s.blackoutFaults

def isValid (s : Schedule) : Bool := s.faults.isEmpty

end Schedule

end Eligibility
