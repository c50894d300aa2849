import Mathlib.Data.Option.Basic
import Eligibility.Proofs.NextOpening
import Eligibility.Proofs.OpenMinutes

/-!
Days and times repeat every week. Moving an instant by whole weeks keeps its weekday and its time of day,
and these are all that activity and the search look at. So the search that starts whole weeks later, or
earlier, finds the same opening, moved as far; only the ends of the calendar tell the two apart.
-/

set_option autoImplicit false

namespace Eligibility

namespace Instant

def addDays? (t : Instant) (days : Int) : Option Instant :=
  (t.date.addDays? days).map fun d => ⟨d, t.minute, t.second⟩

theorem addDays?_eq_some_iff {t u : Instant} {k : Int} :
    t.addDays? k = some u ↔
      u.date.number = t.date.number + k ∧ u.minute = t.minute ∧ u.second = t.second := by
  unfold addDays?
  rw [Option.map_eq_some_iff]
  constructor
  · rintro ⟨d, hd, rfl⟩
    exact ⟨Date.addDays?_eq_some_iff.mp hd, rfl, rfl⟩
  · rintro ⟨hd, hm, hs⟩
    refine ⟨u.date, Date.addDays?_eq_some_iff.mpr hd, ?_⟩
    rw [← hm, ← hs]

end Instant

theorem Date.weekday_addWeeks {d d' : Date} {k : Int} (h : d'.number = d.number + 7 * k) :
    d'.weekday = d.weekday := by
  unfold Date.weekday
  rw [h, Int.add_mul_emod_self_left]

theorem dayEntry?_congr {d d' : Date} (days : List DayEntry) (h : d'.weekday = d.weekday) :
    dayEntry? days d' = dayEntry? days d := by
  unfold dayEntry?
  rw [h]

theorem ne_nil_of_openingOn {days : List DayEntry} {now t : Instant} {j : Nat}
    (h : openingOn days now j = .ok (some t)) : days ≠ [] := by
  obtain ⟨d, e, m, -, he, -, -⟩ := openingOn_eq_some_iff.mp h
  exact List.ne_nil_of_mem (mem_of_dayEntry_eq_some he)

theorem firstOpening_append {days : List DayEntry} {now : Instant} {before : List Nat}
    (h : ∀ j ∈ before, openingOn days now j = .ok none) (rest : List Nat) :
    firstOpening days now (before ++ rest) = firstOpening days now rest := by
  induction before with
  | nil => rfl
  | cons j before ih =>
    simp only [List.forall_mem_cons] at h
    simp [firstOpening, h.1, ih h.2]

namespace Schedule

variable {s : Schedule} {now t : Instant}

theorem nextOpening_of_openingOn {k : Nat} (hs : s.kind = some .daysAndTimes) (hk : k < searchDays)
    (ht : openingOn s.days now k = .ok (some t))
    (hb : ∀ j < k, openingOn s.days now j = .ok none) : s.nextOpening now = .ok (some t) := by
  obtain ⟨n, hn⟩ := Nat.exists_eq_add_of_lt hk
  have hrange : List.range searchDays = List.range k ++ k :: List.range' (k + 1) n := by
    have happend := @List.range'_append_1 0 k (n + 1)
    rw [Nat.zero_add, ← Nat.add_assoc, ← hn, List.range'_succ] at happend
    rw [List.range_eq_range', List.range_eq_range', happend]
  have hnone : ∀ j ∈ List.range k, openingOn s.days now j = .ok none := by simpa using hb
  rw [nextOpening, if_pos ⟨hs, ne_nil_of_openingOn ht⟩, hrange, firstOpening_append hnone]
  simp [firstOpening, ht]

theorem nextOpening_of_none (h : ∀ j < searchDays, openingOn s.days now j = .ok none) :
    s.nextOpening now = .ok none := by
  have hnone : ∀ j ∈ List.range searchDays, openingOn s.days now j = .ok none := by simpa using h
  have hskip := firstOpening_append hnone []
  rw [List.append_nil] at hskip
  unfold nextOpening
  split
  · exact hskip
  · rfl

end Schedule

section Weeks

variable {days : List DayEntry} {now later : Instant} {k : Int}
  (h : now.addDays? (7 * k) = some later)

include h

theorem onWeekday_addWeeks : onWeekday days later = onWeekday days now := by
  obtain ⟨hd, hm, -⟩ := Instant.addDays?_eq_some_iff.mp h
  exact onWeekday_congr (Date.weekday_addWeeks hd) hm

theorem weekday_ahead {j : Nat} {d d' : Date} (hd : now.date.addDays? j = some d)
    (hd' : later.date.addDays? j = some d') : d'.weekday = d.weekday := by
  obtain ⟨hnumber, -, -⟩ := Instant.addDays?_eq_some_iff.mp h
  have hn := Date.addDays?_eq_some_iff.mp hd
  have hn' := Date.addDays?_eq_some_iff.mp hd'
  have hweeks : d'.number = d.number + 7 * k := by omega
  exact Date.weekday_addWeeks hweeks

theorem openingOn_addWeeks_none {j : Nat} (hj : (later.date.addDays? j).isSome = true)
    (hn : openingOn days now j = .ok none) : openingOn days later j = .ok none := by
  obtain ⟨d, hd, hnone⟩ := openingOn_eq_none_iff.mp hn
  obtain ⟨d', hd'⟩ := Option.isSome_iff_exists.mp hj
  obtain ⟨-, hm, -⟩ := Instant.addDays?_eq_some_iff.mp h
  refine openingOn_eq_none_iff.mpr ⟨d', hd', ?_⟩
  rw [dayEntry?_congr days (weekday_ahead h hd hd'), hm]
  exact hnone

theorem openingOn_addWeeks_some {j : Nat} {t u : Instant} (hu : t.addDays? (7 * k) = some u)
    (ht : openingOn days now j = .ok (some t)) : openingOn days later j = .ok (some u) := by
  obtain ⟨d, e, m, hd, he, ho, rfl⟩ := openingOn_eq_some_iff.mp ht
  obtain ⟨hnumber, hm, -⟩ := Instant.addDays?_eq_some_iff.mp h
  obtain ⟨hudate, hum, hus⟩ := Instant.addDays?_eq_some_iff.mp hu
  have hd' : later.date.addDays? j = some u.date := by
    have hn := Date.addDays?_eq_some_iff.mp hd
    simp only [Instant.atMinute] at hudate
    exact Date.addDays?_eq_some_iff.mpr (by omega)
  have hentry := dayEntry?_congr days (weekday_ahead h hd hd')
  refine openingOn_eq_some_iff.mpr ⟨u.date, e, m, hd', hentry.trans he, ?_, ?_⟩
  · rw [hm]
    exact ho
  · obtain ⟨date, minute, second⟩ := u
    obtain rfl : minute = m := hum
    obtain rfl : second = 0 := hus
    rfl

/-- The search stops on the same day, and looks at no later one. -/
theorem nextOpening_addWeeks_some {s : Schedule} {t u : Instant} (hu : t.addDays? (7 * k) = some u)
    (ht : s.nextOpening now = .ok (some t)) : s.nextOpening later = .ok (some u) := by
  obtain ⟨hs, j, hj, hopen, hbefore⟩ := Schedule.nextOpening_eq_some ht
  have hopen' := openingOn_addWeeks_some h hu hopen
  refine Schedule.nextOpening_of_openingOn hs hj hopen' fun i hi => ?_
  have hlast : (later.date.addDays? j).isSome = true := by
    obtain ⟨d, -, -, hd, -⟩ := openingOn_eq_some_iff.mp hopen'
    exact Option.isSome_of_eq_some hd
  exact openingOn_addWeeks_none h (Date.addDays?_isSome_of_le (Nat.le_of_lt hi) hlast) (hbefore i hi)

theorem nextOpening_addWeeks_none {s : Schedule} (hlast : (later.date.addDays? 6).isSome = true)
    (hn : s.nextOpening now = .ok none) : s.nextOpening later = .ok none := by
  by_cases hs : s.kind = some .daysAndTimes ∧ s.days ≠ []
  · refine Schedule.nextOpening_of_none fun j hj => ?_
    have hle : j ≤ 6 := Nat.le_of_lt_succ hj
    exact openingOn_addWeeks_none h (Date.addDays?_isSome_of_le hle hlast)
      (Schedule.nextOpening_eq_none hs.1 hs.2 hn j hj)
  · simp [Schedule.nextOpening, hs]

/-- Where the search stays in the calendar, so does what it finds. -/
theorem exists_addWeeks_of_nextOpening {s : Schedule} {t : Instant}
    (hlast : (later.date.addDays? 6).isSome = true) (ht : s.nextOpening now = .ok (some t)) :
    ∃ u, t.addDays? (7 * k) = some u := by
  obtain ⟨hnumber, -, -⟩ := Instant.addDays?_eq_some_iff.mp h
  obtain ⟨-, j, hj, hopen, -⟩ := Schedule.nextOpening_eq_some ht
  have hdate := date_of_openingOn hopen
  have hle : j ≤ 6 := Nat.le_of_lt_succ hj
  obtain ⟨d, hd⟩ := Option.isSome_iff_exists.mp (Date.addDays?_isSome_of_le hle hlast)
  have hn := Date.addDays?_eq_some_iff.mp hd
  exact ⟨⟨d, t.minute, t.second⟩, Instant.addDays?_eq_some_iff.mpr ⟨by dsimp only; omega, rfl, rfl⟩⟩

end Weeks

/-- Whole weeks later or earlier days and times are on as before, and the search finds what it found, moved
by as many weeks. It looks at no day after the one it stops at, so it is enough that this day is in the
calendar; a search that comes to nothing looks at seven days. -/
theorem nextOpening_addWeeks (s : Schedule) {now later : Instant} {k : Int}
    (h : now.addDays? (7 * k) = some later) :
    (∀ days, onWeekday days later = onWeekday days now) ∧
    (∀ t u, nextOpening (some s) now = .ok (some t) → t.addDays? (7 * k) = some u →
      nextOpening (some s) later = .ok (some u)) ∧
    ((now.date.addDays? 6).isSome = true → (later.date.addDays? 6).isSome = true →
      ∃ r r', nextOpening (some s) now = .ok r ∧ nextOpening (some s) later = .ok r' ∧
        Option.Rel (fun t u => t.addDays? (7 * k) = some u) r r') := by
  refine ⟨fun days => onWeekday_addWeeks h, fun t u ht hu => nextOpening_addWeeks_some h hu ht, ?_⟩
  intro hnow hlater
  obtain ⟨r, hr⟩ := s.nextOpening_isOk hnow
  cases r with
  | none => exact ⟨none, none, hr, nextOpening_addWeeks_none h hlater hr, .none⟩
  | some t =>
    obtain ⟨u, hu⟩ := exists_addWeeks_of_nextOpening h hlater hr
    exact ⟨some t, some u, hr, nextOpening_addWeeks_some h hu hr, .some hu⟩

/-- Nine o'clock on a Wednesday again, 5218 weeks later, in the year 2126. -/
def farWednesdayNine : Instant := { wednesdayNine with date := ⟨57042, by decide⟩ }

def farFridayMidnight : Instant := { fridayMidnight with date := ⟨57044, by decide⟩ }

theorem nextOpening_addWeeks_far :
    onWeekday fridaySchedule.days farWednesdayNine = onWeekday fridaySchedule.days wednesdayNine ∧
      nextOpening (some fridaySchedule) farWednesdayNine = .ok (some farFridayMidnight) := by
  have hfar : wednesdayNine.addDays? (7 * 5218) = some farWednesdayNine := by decide
  have hfriday : fridayMidnight.addDays? (7 * 5218) = some farFridayMidnight := by decide
  have hn : nextOpening (some fridaySchedule) wednesdayNine = .ok (some fridayMidnight) := by rfl
  obtain ⟨hon, hsome, hall⟩ := nextOpening_addWeeks fridaySchedule hfar
  obtain ⟨r, r', hr, hr', hrel⟩ := hall (by decide) (by decide)
  obtain rfl : some fridayMidnight = r := Except.ok.inj (hn.symm.trans hr)
  refine ⟨hon fridaySchedule.days, ?_⟩
  cases hrel with
  | some hu =>
    obtain rfl := Option.some.inj (hfriday.symm.trans hu)
    exact hr'

end Eligibility
