import Eligibility.Schedule.Clock

/-!
Promotion schedules as they are stored. Blackout dates apply to every kind of schedule. The time zone is
carried along for display; instants are already in it.
-/

set_option autoImplicit false

namespace Eligibility

inductive ScheduleKind where
  | alwaysOn
  | daysAndTimes
  | specificDates
  | blackoutDates
  /-- A kind that is not known. -/
  | unknown
  deriving DecidableEq, Repr

namespace ScheduleKind

def name : ScheduleKind → String
  | .alwaysOn => "always-on"
  | .daysAndTimes => "specific-days-and-times"
  | .specificDates => "specific-dates"
  | .blackoutDates => "blackout-dates"
  | .unknown => "unknown"

def ofName (s : String) : ScheduleKind :=
  match s with
  | "always-on" => .alwaysOn
  | "specific-days-and-times" => .daysAndTimes
  | "specific-dates" => .specificDates
  | "blackout-dates" => .blackoutDates
  | _ => .unknown

theorem ofName_name (k : ScheduleKind) : ofName k.name = k := by cases k <;> rfl

end ScheduleKind

structure TimePeriod where
  start : String
  finish : String
  deriving DecidableEq, Repr

namespace TimePeriod

def fullDay : TimePeriod := ⟨"00:00", "00:00"⟩

def range (p : TimePeriod) : TimeRange := .ofTexts p.start p.finish

def label (p : TimePeriod) : String := p.start ++ "-" ++ p.finish

end TimePeriod

structure DayEntry where
  day : String
  enabled : Bool
  periods : List TimePeriod
  deriving DecidableEq, Repr

def DayEntry.weekday? (e : DayEntry) : Option Weekday := Weekday.read? e.day

structure DateEntry where
  date : String
  periods : List TimePeriod
  deriving DecidableEq, Repr

structure Schedule where
  kind : Option ScheduleKind
  daysOfWeek : Option (List DayEntry)
  specificDates : Option (List DateEntry)
  blackoutDates : Option (List String)
  timezone : Option String
  deriving DecidableEq, Repr

namespace Schedule

def empty : Schedule := ⟨none, none, none, none, none⟩

def alwaysOn : Schedule := { empty with kind := some .alwaysOn }

def onDays (days : List DayEntry) : Schedule :=
  { empty with kind := some .daysAndTimes, daysOfWeek := some days }

def onDates (dates : List DateEntry) : Schedule :=
  { empty with kind := some .specificDates, specificDates := some dates }

def blackout (dates : List String) : Schedule :=
  { empty with kind := some .blackoutDates, blackoutDates := some dates }

def days (s : Schedule) : List DayEntry := s.daysOfWeek.getD []

def dates (s : Schedule) : List DateEntry := s.specificDates.getD []

def blackouts (s : Schedule) : List String := s.blackoutDates.getD []

def addDay (s : Schedule) (e : DayEntry) : Schedule :=
  { s with daysOfWeek := some (s.days ++ [e]) }

def addDate (s : Schedule) (e : DateEntry) : Schedule :=
  { s with specificDates := some (s.dates ++ [e]) }

end Schedule

end Eligibility
