import Eligibility.Calendar.Date

/-!
Instants of wall-clock time: a date, a minute of the day and a second. The second 60 is a leap second.
-/

set_option autoImplicit false

namespace Eligibility

def minutesPerDay : Nat := 1440

abbrev MinuteOfDay := Fin minutesPerDay

structure Instant where
  date : Date
  minute : MinuteOfDay
  second : Fin 61
  deriving DecidableEq, Repr

namespace Instant

def hour (t : Instant) : Nat := t.minute.val / 60

def minuteOfHour (t : Instant) : Nat := t.minute.val % 60

def atMinute (d : Date) (m : MinuteOfDay) : Instant := ⟨d, m, 0⟩

def ofParts? (c : CivilDate) (hour minute second : Nat) : Option Instant := do
  let d ← Date.ofCivil? c
  if hour < 24 ∧ minute < 60 then
    if h : 60 * hour + minute < minutesPerDay ∧ second < 61 then
      return ⟨d, ⟨60 * hour + minute, h.1⟩, ⟨second, h.2⟩⟩
    else none
  else none

end Instant

end Eligibility
