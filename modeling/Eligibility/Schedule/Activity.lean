import Eligibility.Schedule.Basic

/-!
Whether a schedule is on at an instant.
-/

set_option autoImplicit false

namespace Eligibility

def anyPeriodHolds (periods : List TimePeriod) (minute : MinuteOfDay) : Bool :=
  periods.any fun p => p.range.contains minute.val

def listsDate (dates : List String) (d : Date) : Bool :=
  dates.any fun s => Text.trim s == d.text

/-- The first entry for the weekday of a date. -/
def dayEntry? (days : List DayEntry) (d : Date) : Option DayEntry :=
  days.find? fun e => e.weekday? == some d.weekday

def dateEntry? (dates : List DateEntry) (d : Date) : Option DateEntry :=
  dates.find? fun e => Text.trim e.date == d.text

def onWeekday (days : List DayEntry) (now : Instant) : Bool :=
  match dayEntry? days now.date with
  | some e => e.enabled && anyPeriodHolds e.periods now.minute
  | none => false

def onListedDate (dates : List DateEntry) (now : Instant) : Bool :=
  match dateEntry? dates now.date with
  | some e => anyPeriodHolds e.periods now.minute
  | none => false

namespace Schedule

def isBlackedOut (s : Schedule) (d : Date) : Bool := listsDate s.blackouts d

/-- Whether the kind of schedule is on. A list of days that is empty restricts nothing, and neither does a
kind that is absent or not known. The kind that has blackouts alone looks at them itself. -/
def isOpen (s : Schedule) (now : Instant) : Bool :=
  match s.kind with
  | some .daysAndTimes => s.days.isEmpty || onWeekday s.days now
  | some .specificDates => onListedDate s.dates now
  | some .blackoutDates => !s.isBlackedOut now.date
  | _ => true

/-- A blackout date comes before every other rule. -/
def isActive (s : Schedule) (now : Instant) : Bool :=
  !s.isBlackedOut now.date && s.isOpen now

end Schedule

/-- No schedule at all is always on. -/
def isActive (s : Option Schedule) (now : Instant) : Bool :=
  match s with
  | none => true
  | some s => s.isActive now

end Eligibility
