import Eligibility.Binary64.Reading
import Eligibility.Calendar.Instant
import Eligibility.Text.Blank

/-!
Dates and instants as text. Writing is strict: a year has four digits at least, and a sign outside 0 to
9999. Reading is lenient: blanks may stand before each number, months, days and times may have one
digit, and a year has up to four digits, or any number of digits after a sign.
-/

set_option autoImplicit false

namespace Eligibility

namespace Calendar

def padded (width n : Nat) : List Char :=
  let ds := Nat.toDigits 10 n
  List.replicate (width - ds.length) '0' ++ ds

def writeYear (y : Int) : List Char :=
  if y < 0 then '-' :: padded 4 y.natAbs
  else if 9999 < y then '+' :: padded 4 y.natAbs
  else padded 4 y.natAbs

def writeCivil (c : CivilDate) : List Char :=
  writeYear c.year ++ '-' :: padded 2 c.month ++ '-' :: padded 2 c.day

/-- A step of a lenient reading: what was read and the characters after it. -/
abbrev Step (α : Type) := List Char → Option (α × List Char)

def readNumber (most : Nat) : Step Nat := fun cs =>
  let ds := (cs.take most).takeWhile Char.isDigit
  if ds.isEmpty then none else some (Binary64.digitsValue 0 ds, cs.drop ds.length)

/-- Blanks, then one or two digits. -/
def readField : Step Nat := fun cs => readNumber 2 (cs.dropWhile Text.isBlank)

/-- Blanks, then a year. -/
def readYear : Step Int := fun cs =>
  match cs.dropWhile Text.isBlank with
  | '-' :: rest => (readNumber rest.length rest).map fun (n, after) => (-(n : Int), after)
  | '+' :: rest => (readNumber rest.length rest).map fun (n, after) => ((n : Int), after)
  | rest => (readNumber 4 rest).map fun (n, after) => ((n : Int), after)

def readMark (mark : Char) : Step Unit
  | c :: cs => if c = mark then some ((), cs) else none
  | [] => none

def readCivil : Step CivilDate := fun cs => do
  let (year, cs) ← readYear cs
  let (_, cs) ← readMark '-' cs
  let (month, cs) ← readField cs
  let (_, cs) ← readMark '-' cs
  let (day, cs) ← readField cs
  return (⟨year, month, day⟩, cs)

inductive Separator where
  | letterT
  /-- Any blanks, also none. -/
  | blanks
  deriving DecidableEq, Repr

def readSeparator : Separator → Step Unit
  | .letterT, cs => readMark 'T' cs
  | .blanks, cs => some ((), cs.dropWhile Text.isBlank)

def readLayout? (separator : Separator) (seconds : Bool) (cs : List Char) : Option Instant := do
  let (civil, cs) ← readCivil cs
  let (_, cs) ← readSeparator separator cs
  let (hour, cs) ← readField cs
  let (_, cs) ← readMark ':' cs
  let (minute, cs) ← readField cs
  if seconds then do
    let (_, cs) ← readMark ':' cs
    let (second, cs) ← readField cs
    if cs.isEmpty then Instant.ofParts? civil hour minute second else none
  else if cs.isEmpty then Instant.ofParts? civil hour minute 0
  else none

def layouts : List (Separator × Bool) :=
  [(.letterT, true), (.letterT, false), (.blanks, true), (.blanks, false)]

end Calendar

namespace Date

def text (d : Date) : String := String.ofList (Calendar.writeCivil d.civil)

def read? (s : String) : Option Date := do
  let (civil, rest) ← Calendar.readCivil (Text.trimmed s.toList)
  if rest.isEmpty then ofCivil? civil else none

end Date

namespace Instant

def text (t : Instant) : String :=
  String.ofList (Calendar.writeCivil t.date.civil ++ 'T' :: Calendar.padded 2 t.hour ++
    ':' :: Calendar.padded 2 t.minuteOfHour ++ ':' :: Calendar.padded 2 t.second.val)

/-- The instant that a text writes in the first layout that fits, blanks around it aside. -/
def read? (s : String) : Option Instant :=
  Calendar.layouts.findSome? fun (separator, seconds) =>
    Calendar.readLayout? separator seconds (Text.trimmed s.toList)

end Instant

end Eligibility
