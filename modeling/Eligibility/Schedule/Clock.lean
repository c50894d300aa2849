import Eligibility.Binary64.Reading
import Eligibility.Calendar.Text
import Eligibility.Text.LowerCase

/-!
Times of day. A window of time is written as two times; it runs overnight when its end comes before its
start, and lasts the whole day when both are midnight. Evaluation reads times leniently, validation
strictly. Lenient numbers are at most `largest`, and a sum that passes it stays there.
-/

set_option autoImplicit false

namespace Eligibility

namespace Clock

def largest : Nat := 4294967295

def capped (n : Nat) : Nat := min n largest

/-- Digits after an optional plus, up to `largest`; zero for anything else. -/
def lenientNumber (cs : List Char) : Nat :=
  let cs := Text.trimmed cs
  let ds := match cs with
    | '+' :: rest => rest
    | cs => cs
  let n := Binary64.digitsValue 0 ds
  if ds.isEmpty || !ds.all Char.isDigit || largest < n then 0 else n

/-- Minutes from midnight, without any check of the hour or the minute. -/
def lenientMinutes (s : String) : Nat :=
  let cs := Text.trimmed s.toList
  let hours := cs.takeWhile fun c => c ≠ ':'
  let minutes := (cs.dropWhile fun c => c ≠ ':').drop 1
  capped (capped (lenientNumber hours * 60) + lenientNumber minutes)

inductive TimeFault where
  | format (input : String)
  | hour (input : String) (hour : Nat)
  | minute (input : String) (minute : Nat)
  deriving DecidableEq, Repr

namespace TimeFault

def message : TimeFault → String
  | .format input => s!"'{input}' is not in HH:mm format"
  | .hour input h => s!"hour {h} in '{input}' is out of range (00-23)"
  | .minute input m => s!"minute {m} in '{input}' is out of range (00-59)"

end TimeFault

def twoDigits (a b : Char) : Nat := 10 * Binary64.digitValue a + Binary64.digitValue b

/-- Minutes from midnight of exactly two digits, a colon and two digits. -/
def strictMinutes (s : String) : Except TimeFault Nat :=
  match s.toList with
  | [a, b, ':', c, d] =>
    if a.isDigit && b.isDigit && c.isDigit && d.isDigit then
      if 24 ≤ twoDigits a b then .error (.hour s (twoDigits a b))
      else if 60 ≤ twoDigits c d then .error (.minute s (twoDigits c d))
      else .ok (twoDigits a b * 60 + twoDigits c d)
    else .error (.format s)
  | _ => .error (.format s)

/-- The minute of the day, none from the next midnight on. -/
def minuteOfDay? (minutes : Nat) : Option MinuteOfDay :=
  if h : minutes < minutesPerDay then some ⟨minutes, h⟩ else none

def text (m : MinuteOfDay) : String :=
  String.ofList (Calendar.padded 2 (m.val / 60) ++ ':' :: Calendar.padded 2 (m.val % 60))

end Clock

structure TimeRange where
  start : Nat
  finish : Nat
  deriving DecidableEq, Repr

namespace TimeRange

def ofTexts (start finish : String) : TimeRange :=
  ⟨Clock.lenientMinutes start, Clock.lenientMinutes finish⟩

def isFullDay (r : TimeRange) : Bool := r.start = 0 && r.finish = 0

def isOvernight (r : TimeRange) : Bool := r.finish < r.start

/-- The start belongs to the range and the end does not. -/
def contains (r : TimeRange) (minute : Nat) : Bool :=
  if r.isFullDay then true
  else if r.isOvernight then r.start ≤ minute || minute < r.finish
  else r.start ≤ minute && minute < r.finish

def duration (r : TimeRange) : Nat :=
  if r.isFullDay then minutesPerDay
  else if r.isOvernight then Clock.capped (minutesPerDay + r.finish) - r.start
  else r.finish - r.start

end TimeRange

namespace Weekday

/-- The day that a name or its first three letters mean, in any letter case. -/
def read? (s : String) : Option Weekday :=
  match Text.lowerCase (Text.trim s) with
  | "mon" | "monday" => some .monday
  | "tue" | "tuesday" => some .tuesday
  | "wed" | "wednesday" => some .wednesday
  | "thu" | "thursday" => some .thursday
  | "fri" | "friday" => some .friday
  | "sat" | "saturday" => some .saturday
  | "sun" | "sunday" => some .sunday
  | _ => none

def abbreviation : Weekday → String
  | .monday => "Mon"
  | .tuesday => "Tue"
  | .wednesday => "Wed"
  | .thursday => "Thu"
  | .friday => "Fri"
  | .saturday => "Sat"
  | .sunday => "Sun"

end Weekday

end Eligibility
