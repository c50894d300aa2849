/-!
Dates of the proleptic Gregorian calendar, kept as day numbers: 1 January 1970 is day 0. The year, month
and day of a date are computed from its number, with years that start in March so that the leap day is
the last day of its year.
-/

set_option autoImplicit false

namespace Eligibility

inductive Weekday where
  | monday
  | tuesday
  | wednesday
  | thursday
  | friday
  | saturday
  | sunday
  deriving DecidableEq, Repr

structure CivilDate where
  year : Int
  month : Nat
  day : Nat
  deriving DecidableEq, Repr

namespace CivilDate

/-- Days from 1 March of year 0 to 1 March of year `y`. -/
def daysBefore (y : Int) : Int := 365 * y + y / 4 - y / 100 + y / 400

/-- Days from 1 March to the first day of the month that is `m` months later. -/
def monthStart (m : Int) : Int := (153 * m + 2) / 5

def marchZero : Int := -719468

/-- The year, counted from March, that holds the day `z` after 1 March of year 0. -/
def marchYear (z : Int) : Int :=
  let y := 400 * z / 146097
  if z < daysBefore y then y - 1 else if daysBefore (y + 1) ≤ z then y + 1 else y

/-- The day that comes `days` days after 1 March of year `y`. -/
def ofMarch (y days : Int) : CivilDate :=
  let m := (5 * days + 2) / 153
  { year := if 10 ≤ m then y + 1 else y
    month := (if 10 ≤ m then m - 9 else m + 3).toNat
    day := (days - monthStart m + 1).toNat }

def ofDayNumber (n : Int) : CivilDate :=
  let z := n - marchZero
  ofMarch (marchYear z) (z - daysBefore (marchYear z))

def dayNumber (d : CivilDate) : Int :=
  let y := if d.month ≤ 2 then d.year - 1 else d.year
  let m : Int := if d.month ≤ 2 then d.month + 9 else d.month - 3
  daysBefore y + monthStart m + d.day - 1 + marchZero

def isLeap (year : Int) : Bool := year % 4 = 0 && (year % 100 ≠ 0 || year % 400 = 0)

def monthLength (year : Int) (month : Nat) : Nat :=
  if month = 2 then if isLeap year then 29 else 28
  else if month = 4 ∨ month = 6 ∨ month = 9 ∨ month = 11 then 30
  else 31

def IsDay (d : CivilDate) : Prop :=
  1 ≤ d.month ∧ d.month ≤ 12 ∧ 1 ≤ d.day ∧ d.day ≤ monthLength d.year d.month

instance (d : CivilDate) : Decidable d.IsDay := by unfold IsDay; infer_instance

theorem daysBefore_marchYear (z : Int) :
    daysBefore (marchYear z) ≤ z ∧ z < daysBefore (marchYear z + 1) := by
  simp only [marchYear]
  split
  · simp only [daysBefore] at *; omega
  · split
    · simp only [daysBefore] at *; omega
    · simp only [daysBefore] at *; omega

theorem dayNumber_ofMarch (y days : Int) (h : 0 ≤ days) (h' : days ≤ 365) :
    (ofMarch y days).dayNumber = daysBefore y + days + marchZero := by
  simp only [ofMarch, dayNumber, monthStart]
  by_cases hm : 10 ≤ (5 * days + 2) / 153
  · simp only [hm, ↓reduceIte]
    rw [if_pos (by omega), if_pos (by omega)]
    rw [show y + 1 - 1 = y by omega]
    omega
  · simp only [hm, ↓reduceIte]
    rw [if_neg (by omega), if_neg (by omega)]
    omega

theorem isDay_ofMarch (y days : Int) (h : 0 ≤ days)
    (h' : days < daysBefore (y + 1) - daysBefore y) : (ofMarch y days).IsDay := by
  simp only [daysBefore] at h'
  simp only [IsDay, ofMarch, monthStart, monthLength, isLeap]
  by_cases hm : 10 ≤ (5 * days + 2) / 153
  · simp only [hm, ↓reduceIte, Bool.and_eq_true, Bool.or_eq_true, decide_eq_true_eq]
    refine ⟨by omega, by omega, by omega, ?_⟩
    split
    · split <;> omega
    · split <;> omega
  · simp only [hm, ↓reduceIte, Bool.and_eq_true, Bool.or_eq_true, decide_eq_true_eq]
    refine ⟨by omega, by omega, by omega, ?_⟩
    split
    · omega
    · split <;> omega

theorem dayNumber_ofDayNumber (n : Int) : (ofDayNumber n).dayNumber = n := by
  have h := daysBefore_marchYear (n - marchZero)
  have h' : daysBefore (marchYear (n - marchZero) + 1) - daysBefore (marchYear (n - marchZero)) ≤
      366 := by simp only [daysBefore]; omega
  rw [ofDayNumber, dayNumber_ofMarch _ _ (by omega) (by omega)]
  omega

theorem isDay_ofDayNumber (n : Int) : (ofDayNumber n).IsDay := by
  have h := daysBefore_marchYear (n - marchZero)
  exact isDay_ofMarch _ _ (by omega) (by omega)

end CivilDate

def firstDay : Int := CivilDate.dayNumber ⟨-262143, 1, 1⟩

def lastDay : Int := CivilDate.dayNumber ⟨262142, 12, 31⟩

structure Date where
  number : Int
  inRange : firstDay ≤ number ∧ number ≤ lastDay
  deriving DecidableEq, Repr

namespace Date

def ofNumber? (n : Int) : Option Date :=
  if h : firstDay ≤ n ∧ n ≤ lastDay then some ⟨n, h⟩ else none

def civil (d : Date) : CivilDate := .ofDayNumber d.number

def ofCivil? (c : CivilDate) : Option Date := if c.IsDay then ofNumber? c.dayNumber else none

def weekday (d : Date) : Weekday :=
  match d.number % 7 with
  | 0 => .thursday
  | 1 => .friday
  | 2 => .saturday
  | 3 => .sunday
  | 4 => .monday
  | 5 => .tuesday
  | _ => .wednesday

def addDays? (d : Date) (days : Int) : Option Date := ofNumber? (d.number + days)

theorem ofCivil?_civil (d : Date) : ofCivil? d.civil = some d := by
  have h := d.inRange
  unfold ofCivil? civil
  rw [if_pos (CivilDate.isDay_ofDayNumber _), CivilDate.dayNumber_ofDayNumber, ofNumber?, dif_pos h]

end Date

end Eligibility
