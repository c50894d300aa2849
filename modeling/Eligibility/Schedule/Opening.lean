import Eligibility.Schedule.Activity

/-!
The next opening of a days-and-times schedule: the instant at which it turns on next. Today counts the
periods that start later than now, in their listed order; a later day counts its first period alone.
-/

set_option autoImplicit false

namespace Eligibility

/-- The days that are searched, today among them. -/
def searchDays : Nat := 7

/-- The search came to a day after the last date. -/
structure PastLastDate where
  deriving DecidableEq, Repr

namespace TimePeriod

def startMinutes (p : TimePeriod) : Nat := Clock.lenientMinutes p.start

def opening? (p : TimePeriod) : Option MinuteOfDay := Clock.minuteOfDay? p.startMinutes

end TimePeriod

/-- The first listed start that comes after the minute of `now`. -/
def laterToday? (periods : List TimePeriod) (now : MinuteOfDay) : Option MinuteOfDay :=
  (periods.filter fun p => now.val < p.startMinutes).findSome? TimePeriod.opening?

def DayEntry.opening? (e : DayEntry) (daysAhead : Nat) (now : MinuteOfDay) : Option MinuteOfDay :=
  if !e.enabled then none
  else if daysAhead = 0 then laterToday? e.periods now
  else e.periods.head?.bind TimePeriod.opening?

def openingOn (days : List DayEntry) (now : Instant) (daysAhead : Nat) :
    Except PastLastDate (Option Instant) :=
  match now.date.addDays? daysAhead with
  | none => .error ⟨⟩
  | some d => .ok do
    let e ← dayEntry? days d
    let minute ← e.opening? daysAhead now.minute
    return .atMinute d minute

/-- The first opening on the days of a list; days after it are not looked at. -/
def firstOpening (days : List DayEntry) (now : Instant) :
    List Nat → Except PastLastDate (Option Instant)
  | [] => .ok none
  | k :: ks =>
    match openingOn days now k with
    | .error e => .error e
    | .ok (some t) => .ok (some t)
    | .ok none => firstOpening days now ks

/-- None for other kinds of schedules, for a schedule without days, and when nothing opens in a week. -/
def Schedule.nextOpening (s : Schedule) (now : Instant) : Except PastLastDate (Option Instant) :=
  if s.kind = some .daysAndTimes ∧ s.days ≠ [] then
    firstOpening s.days now (List.range searchDays)
  else .ok none

def nextOpening (s : Option Schedule) (now : Instant) : Except PastLastDate (Option Instant) :=
  match s with
  | none => .ok none
  | some s => s.nextOpening now

end Eligibility
