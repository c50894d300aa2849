import Eligibility.Proofs.FirstMatch
import Eligibility.Proofs.NextOpening

/-!
Which entries of a schedule count. Of several entries for one day the first decides alone: an entry that
stands behind another for the same day is accepted and never looked at. A day that has one entry at most is
on when an entry is open.
-/

set_option autoImplicit false

namespace Eligibility

namespace DayEntry

def isFor (d : Date) (e : DayEntry) : Bool := e.weekday? == some d.weekday

/-- The entry is enabled, names the weekday of the instant, and has a period that holds its minute. -/
def IsOpen (now : Instant) (e : DayEntry) : Prop :=
  e.enabled = true ∧ e.weekday? = some now.date.weekday ∧
    ∃ p ∈ e.periods, p.range.contains now.minute.val = true

instance (now : Instant) (e : DayEntry) : Decidable (e.IsOpen now) :=
  inferInstanceAs (Decidable (_ ∧ _ ∧ _))

theorem isFor_of_isOpen {now : Instant} {e : DayEntry} (h : e.IsOpen now) :
    e.isFor now.date = true := by
  simp [isFor, h.2.1]

end DayEntry

namespace DateEntry

def isFor (d : Date) (e : DateEntry) : Bool := Text.trim e.date == d.text

def IsOpen (now : Instant) (e : DateEntry) : Prop :=
  Text.trim e.date = now.date.text ∧ ∃ p ∈ e.periods, p.range.contains now.minute.val = true

instance (now : Instant) (e : DateEntry) : Decidable (e.IsOpen now) :=
  inferInstanceAs (Decidable (_ ∧ _))

theorem isFor_of_isOpen {now : Instant} {e : DateEntry} (h : e.IsOpen now) :
    e.isFor now.date = true := by
  simp [isFor, h.1]

end DateEntry

theorem onWeekday_iff_isFirst {days : List DayEntry} {now : Instant} :
    onWeekday days now = true ↔ ∃ e, IsFirst (DayEntry.isFor now.date) days e ∧ e.IsOpen now := by
  rw [onWeekday_eq_true_iff]
  refine exists_congr fun e => ?_
  have hd : dayEntry? days now.date = some e ↔ IsFirst (DayEntry.isFor now.date) days e :=
    find?_eq_some_iff_isFirst
  rw [hd]
  refine and_congr_right fun hf => ?_
  have hw : e.weekday? = some now.date.weekday := by simpa [DayEntry.isFor] using hf.1
  simp [DayEntry.IsOpen, hw]

theorem onListedDate_iff_isFirst {dates : List DateEntry} {now : Instant} :
    onListedDate dates now = true ↔
      ∃ e, IsFirst (DateEntry.isFor now.date) dates e ∧ e.IsOpen now := by
  have hd : ∀ e, dateEntry? dates now.date = some e ↔ IsFirst (DateEntry.isFor now.date) dates e :=
    fun e => find?_eq_some_iff_isFirst
  constructor
  · intro h
    unfold onListedDate at h
    split at h
    next e he =>
      have hf := (hd e).mp he
      have ht : Text.trim e.date = now.date.text := by simpa [DateEntry.isFor] using hf.1
      exact ⟨e, hf, ht, by simpa [anyPeriodHolds] using h⟩
    next => cases h
  · rintro ⟨e, hf, -, hp⟩
    unfold onListedDate
    rw [(hd e).mpr hf]
    simpa [anyPeriodHolds] using hp

namespace Schedule

variable {s : Schedule} {now : Instant}

theorem isActive_iff_isOpen (hb : s.isBlackedOut now.date = false) :
    s.isActive now = true ↔ s.isOpen now = true := by
  simp [isActive, hb]

theorem isOpen_iff_onWeekday (hk : s.kind = some .daysAndTimes) (hv : s.isValid = true) :
    s.isOpen now = true ↔ onWeekday s.days now = true := by
  have hne := (isProper_of_isValid hk hv).1
  simp [isOpen, hk, hne]

theorem isOpen_iff_onListedDate (hk : s.kind = some .specificDates) :
    s.isOpen now = true ↔ onListedDate s.dates now = true := by
  simp [isOpen, hk]

end Schedule

/-- Outside its blackouts a valid schedule is on when the first entry for the day is open. Where no second
entry is for the day, that is when any entry is open. -/
theorem isActive_iff_entry_isOpen (s : Schedule) (now : Instant) (hv : s.isValid = true)
    (hb : s.isBlackedOut now.date = false) :
    (s.kind = some .daysAndTimes →
      (isActive (some s) now = true ↔
        ∃ e, IsFirst (DayEntry.isFor now.date) s.days e ∧ e.IsOpen now) ∧
      (AtMostOne (DayEntry.isFor now.date) s.days →
        (isActive (some s) now = true ↔ ∃ e ∈ s.days, e.IsOpen now))) ∧
    (s.kind = some .specificDates →
      (isActive (some s) now = true ↔
        ∃ e, IsFirst (DateEntry.isFor now.date) s.dates e ∧ e.IsOpen now) ∧
      (AtMostOne (DateEntry.isFor now.date) s.dates →
        (isActive (some s) now = true ↔ ∃ e ∈ s.dates, e.IsOpen now))) := by
  rw [isActive, Schedule.isActive_iff_isOpen hb]
  constructor
  · intro hk
    rw [Schedule.isOpen_iff_onWeekday hk hv, onWeekday_iff_isFirst]
    exact ⟨Iff.rfl, fun hone => hone.exists_isFirst_iff fun _ => DayEntry.isFor_of_isOpen⟩
  · intro hk
    rw [Schedule.isOpen_iff_onListedDate hk, onListedDate_iff_isFirst]
    exact ⟨Iff.rfl, fun hone => hone.exists_isFirst_iff fun _ => DateEntry.isFor_of_isOpen⟩

def mayDays : Schedule :=
  .onDates [⟨" 2026-05-01 ", [⟨"09:00", "12:00"⟩, ⟨"22:00", "02:00"⟩]⟩,
    ⟨"2026-05-02", [.fullDay]⟩]

/-- Friday, 1 May 2026, at one in the morning. -/
def mayDayNight : Instant := .atMinute ⟨20574, by decide⟩ ⟨60, by decide⟩

theorem isActive_iff_entry_isOpen_may :
    isActive (some fridaySchedule) mayDayNight = true ∧ isActive (some mayDays) mayDayNight = true := by
  have hf : ∃ e ∈ fridaySchedule.days, e.IsOpen mayDayNight := by decide +kernel
  have hd : ∃ e ∈ mayDays.dates, e.IsOpen mayDayNight := by decide +kernel
  have hday := isActive_iff_entry_isOpen fridaySchedule mayDayNight (by decide +kernel)
    (by decide +kernel)
  have hdate := isActive_iff_entry_isOpen mayDays mayDayNight (by decide +kernel) (by decide +kernel)
  exact ⟨((hday.1 rfl).2 (by decide +kernel)).mpr hf, ((hdate.2 rfl).2 (by decide +kernel)).mpr hd⟩

def mondayTwice : Schedule :=
  .onDays [⟨"Monday", false, []⟩, ⟨"mon", true, [⟨"09:00", "17:00"⟩]⟩]

/-- Monday, 2 March 2026, at ten. -/
def mondayTen : Instant := .atMinute ⟨20514, by decide⟩ ⟨600, by decide⟩

def mayDayTwice : Schedule :=
  .onDates [⟨"2026-05-01", [⟨"09:00", "12:00"⟩]⟩, ⟨"2026-05-01", [⟨"13:00", "17:00"⟩]⟩]

def mayDayAfternoon : Instant := .atMinute ⟨20574, by decide⟩ ⟨840, by decide⟩

/-- An open entry that is not the first for its day leaves the schedule off. -/
theorem not_isActive_of_entry_isOpen :
    (¬ ∀ (s : Schedule) (now : Instant), s.isValid = true → s.isBlackedOut now.date = false →
      s.kind = some .daysAndTimes →
        (isActive (some s) now = true ↔ ∃ e ∈ s.days, e.IsOpen now)) ∧
    (¬ ∀ (s : Schedule) (now : Instant), s.isValid = true → s.isBlackedOut now.date = false →
      s.kind = some .specificDates →
        (isActive (some s) now = true ↔ ∃ e ∈ s.dates, e.IsOpen now)) := by
  constructor
  · intro h
    have hopen : ∃ e ∈ mondayTwice.days, e.IsOpen mondayTen := by decide +kernel
    have hoff : isActive (some mondayTwice) mondayTen = false := by decide +kernel
    have hon := (h mondayTwice mondayTen (by decide +kernel) (by decide +kernel) rfl).mpr hopen
    rw [hoff] at hon
    cases hon
  · intro h
    have hopen : ∃ e ∈ mayDayTwice.dates, e.IsOpen mayDayAfternoon := by decide +kernel
    have hoff : isActive (some mayDayTwice) mayDayAfternoon = false := by decide +kernel
    have hon := (h mayDayTwice mayDayAfternoon (by decide +kernel) (by decide +kernel) rfl).mpr hopen
    rw [hoff] at hon
    cases hon

end Eligibility
