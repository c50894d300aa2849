import Eligibility.Proofs.AcceptedSchedules
import Eligibility.Proofs.OpeningSearch
import Mathlib.Data.Int.Order.Basic
import Mathlib.Order.Lattice

/-!
The next opening against activity. Without overnight periods, and with periods in the order of their
starts, a schedule that is off stays off until the opening that is found and is on there. The search
does not look at blackouts, so the opening that is found may lie on a day that is blacked out.
-/

set_option autoImplicit false

namespace Eligibility

theorem Date.eq_of_number {d d' : Date} (h : d.number = d'.number) : d = d' := by
  cases d
  cases d'
  simp_all

namespace Instant

/-- The place on the line of time. Each minute has room for a leap second. -/
def place (t : Instant) : Int := (t.date.number * minutesPerDay + t.minute.val) * 61 + t.second.val

theorem place_injective : Function.Injective place := by
  rintro ⟨d, m, s⟩ ⟨d', m', s'⟩ h
  simp only [place, minutesPerDay] at h
  have hd : d.number = d'.number := by omega
  have hm : m.val = m'.val := by omega
  have hs : s.val = s'.val := by omega
  obtain rfl := Date.eq_of_number hd
  obtain rfl := Fin.ext hm
  obtain rfl := Fin.ext hs
  rfl

instance : LinearOrder Instant := .lift' place place_injective

theorem le_iff {t u : Instant} : t ≤ u ↔ t.place ≤ u.place := Iff.rfl

theorem lt_iff {t u : Instant} : t < u ↔ t.place < u.place := Iff.rfl

theorem date_le_of_le {t u : Instant} (h : t ≤ u) : t.date.number ≤ u.date.number := by
  have ht := t.minute.isLt
  have hu := u.minute.isLt
  rw [le_iff] at h
  unfold place minutesPerDay at *
  omega

theorem minute_le_of_le {t u : Instant} (h : t ≤ u) (hd : u.date.number = t.date.number) :
    t.minute.val ≤ u.minute.val := by
  rw [le_iff] at h
  unfold place minutesPerDay at h
  omega

theorem lt_atMinute {u : Instant} {d : Date} {m : MinuteOfDay} (h : u < atMinute d m) :
    u.date.number < d.number ∨ u.date.number = d.number ∧ u.minute.val < m.val := by
  have hm := m.isLt
  have hu := u.minute.isLt
  rw [lt_iff] at h
  simp only [place, atMinute, minutesPerDay] at *
  omega

end Instant

section Activity

variable {days : List DayEntry} {u : Instant}

theorem onWeekday_eq_true_iff :
    onWeekday days u = true ↔ ∃ e, dayEntry? days u.date = some e ∧ e.enabled = true ∧
      ∃ p ∈ e.periods, p.range.contains u.minute.val = true := by
  unfold onWeekday
  cases he : dayEntry? days u.date <;> simp [anyPeriodHolds]

theorem onWeekday_eq_false_iff :
    onWeekday days u = false ↔ ∀ e, dayEntry? days u.date = some e → e.enabled = true →
      ∀ p ∈ e.periods, p.range.contains u.minute.val = false := by
  unfold onWeekday
  cases he : dayEntry? days u.date <;> simp [anyPeriodHolds]

end Activity

namespace TimeRange

variable {r : TimeRange} (hday : r.isOvernight = false)

include hday

theorem contains_eq_false_of_lt {m : Nat} (h : m < r.start) : r.contains m = false := by
  have hfull : r.isFullDay = false := by simp [isFullDay]; omega
  simp [contains, hfull, hday]
  omega

theorem contains_eq_false_of_le {m n : Nat} (h : r.contains m = false) (hs : r.start ≤ m)
    (hmn : m ≤ n) : r.contains n = false := by
  unfold contains at h
  split at h
  next => cases h
  next hfull =>
    rw [if_neg (by simp [hday])] at h
    have hend : r.finish ≤ m := by simpa [hs] using h
    rw [contains, if_neg hfull, if_neg (by simp [hday])]
    simp
    omega

end TimeRange

namespace DayEntry

def Ascending (e : DayEntry) : Prop :=
  e.periods.Pairwise fun p q => p.startMinutes ≤ q.startMinutes

def WithinDay (e : DayEntry) : Prop := ∀ p ∈ e.periods, p.range.isOvernight = false

instance (e : DayEntry) : Decidable e.Ascending := inferInstanceAs (Decidable (List.Pairwise _ _))

instance (e : DayEntry) : Decidable e.WithinDay := inferInstanceAs (Decidable (∀ p ∈ e.periods, _))

variable {e : DayEntry} {k : Nat} {now m : MinuteOfDay}

theorem opening?_le (hw : ∀ p ∈ e.periods, p.IsWindow) (ha : e.Ascending)
    (h : e.opening? k now = some m) :
    ∀ p ∈ e.periods, (k = 0 → now.val < p.startMinutes) → m.val ≤ p.startMinutes := by
  intro p hp hlater
  unfold opening? at h
  split at h
  next => cases h
  next =>
    unfold Ascending at ha
    split at h
    next hk =>
      obtain ⟨before, q, after, hps, hq, -, hb⟩ := laterToday?_eq_some h
      rw [hps] at hp ha
      -- `q` is the first start after now, so a period before it cannot count
      rcases List.mem_append.mp hp with hp | hp
      · have hn := hb p hp (hlater hk)
        exact absurd hn (hw p (by simp [hps, hp])).opening?_ne_none
      · rcases List.mem_cons.mp hp with rfl | hp
        · exact Nat.le_of_eq hq.symm
        · have hord := (List.pairwise_cons.mp (List.pairwise_append.mp ha).2.1).1 p hp
          omega
    next =>
      obtain ⟨q, hq, ho⟩ := Option.bind_eq_some_iff.mp h
      obtain ⟨rest, hps⟩ := List.head?_eq_some_iff.mp hq
      have hm := Clock.minuteOfDay?_eq_some_iff.mp ho
      rw [hps] at hp ha
      rcases List.mem_cons.mp hp with rfl | hp
      · exact Nat.le_of_eq hm.symm
      · have hord := (List.pairwise_cons.mp ha).1 p hp
        omega

/-- A proper entry that is enabled fails to open only today, when all its starts are past. -/
theorem opening?_eq_none (hp : e.IsProper) (he : e.enabled = true) (h : e.opening? k now = none) :
    k = 0 ∧ ∀ p ∈ e.periods, p.startMinutes ≤ now.val := by
  have hw := hp.windows he
  unfold opening? at h
  rw [if_neg (by simp [he])] at h
  split at h
  next hk =>
    refine ⟨hk, fun p hmem => ?_⟩
    by_cases hlt : now.val < p.startMinutes
    · exact absurd (laterToday?_eq_none_iff.mp h p hmem hlt) (hw p hmem).opening?_ne_none
    · omega
  next =>
    obtain ⟨p, rest, hps⟩ := List.exists_cons_of_ne_nil (hp.nonempty he)
    have ho := (hw p (by simp [hps])).opening?_ne_none
    simp [hps, ho] at h

end DayEntry

theorem mem_of_dayEntry_eq_some {days : List DayEntry} {d : Date} {e : DayEntry}
    (h : dayEntry? days d = some e) : e ∈ days := List.mem_of_find?_eq_some h

section Openings

variable {days : List DayEntry} {now t u : Instant} {k : Nat}

theorem date_of_openingOn (h : openingOn days now k = .ok (some t)) :
    t.date.number = now.date.number + k := by
  obtain ⟨d, e, m, hd, -, -, rfl⟩ := openingOn_eq_some_iff.mp h
  exact Date.addDays?_eq_some_iff.mp hd

theorem lt_of_openingOn (h : openingOn days now k = .ok (some t)) : now < t := by
  obtain ⟨d, e, m, hd, -, hm, rfl⟩ := openingOn_eq_some_iff.mp h
  obtain ⟨-, p, -, -, hlater⟩ := DayEntry.opening?_eq_some hm
  have hn := Date.addDays?_eq_some_iff.mp hd
  have hnow := now.minute.isLt
  have hs := now.second.isLt
  rw [Instant.lt_iff]
  simp only [Instant.place, Instant.atMinute, minutesPerDay] at *
  by_cases hk : k = 0
  · have hlt := hlater hk
    omega
  · omega

/-- A period that has started today, and does not hold now, is over for the day. -/
theorem contains_eq_false_of_started {e : DayEntry} {p : TimePeriod}
    (hday : ∀ e ∈ days, e.enabled = true → e.WithinDay) (hoff : onWeekday days now = false)
    (hle : now ≤ u) (hu : u.date = now.date) (he : dayEntry? days u.date = some e)
    (hon : e.enabled = true) (hmem : p ∈ e.periods)
    (hs : p.startMinutes ≤ now.minute.val) : p.range.contains u.minute.val = false := by
  have hnow := onWeekday_eq_false_iff.mp hoff e (hu ▸ he) hon p hmem
  have hnight := hday e (mem_of_dayEntry_eq_some he) hon p hmem
  exact TimeRange.contains_eq_false_of_le hnight hnow hs
    (Instant.minute_le_of_le hle (congrArg Date.number hu))

variable (hp : ∀ e ∈ days, e.IsProper)

include hp

theorem onWeekday_of_openingOn (h : openingOn days now k = .ok (some t)) :
    onWeekday days t = true := by
  obtain ⟨d, e, m, -, he, hm, rfl⟩ := openingOn_eq_some_iff.mp h
  obtain ⟨hon, p, hmem, hs, -⟩ := DayEntry.opening?_eq_some hm
  have hc := ((hp e (mem_of_dayEntry_eq_some he)).windows hon p hmem).contains_start
  rw [← TimePeriod.startMinutes_eq, hs] at hc
  exact onWeekday_eq_true_iff.mpr ⟨e, he, hon, p, hmem, hc⟩

variable (hday : ∀ e ∈ days, e.enabled = true → e.WithinDay) (hoff : onWeekday days now = false)
  (hle : now ≤ u)

include hday hoff hle

theorem onWeekday_eq_false_of_none (h : openingOn days now k = .ok none)
    (hu : u.date.number = now.date.number + k) : onWeekday days u = false := by
  obtain ⟨d, hd, hnone⟩ := openingOn_eq_none_iff.mp h
  obtain rfl : u.date = d := Date.eq_of_number (hu.trans (Date.addDays?_eq_some_iff.mp hd).symm)
  refine onWeekday_eq_false_iff.mpr fun e he hon p hmem => ?_
  obtain ⟨rfl, hs⟩ := DayEntry.opening?_eq_none (hp e (mem_of_dayEntry_eq_some he)) hon (hnone e he)
  have hdate : u.date = now.date := Date.eq_of_number (by simpa using hu)
  exact contains_eq_false_of_started hday hoff hle hdate he hon hmem (hs p hmem)

theorem onWeekday_eq_false_of_some (hasc : ∀ e ∈ days, e.enabled = true → e.Ascending)
    (h : openingOn days now k = .ok (some t)) (hu : u.date = t.date)
    (hm : u.minute.val < t.minute.val) : onWeekday days u = false := by
  obtain ⟨d, e, m, hd, he, ho, rfl⟩ := openingOn_eq_some_iff.mp h
  refine onWeekday_eq_false_iff.mpr fun e' he' hon p hmem => ?_
  have hud : u.date = d := hu
  obtain rfl : e = e' := Option.some.inj (he.symm.trans (hud ▸ he'))
  have hmem' := mem_of_dayEntry_eq_some he
  -- a period that counts starts at the opening or later; any other has started today before now
  by_cases hlater : k = 0 → now.minute.val < p.startMinutes
  · have hwin := (hp e hmem').windows hon
    have hmin := DayEntry.opening?_le hwin (hasc e hmem' hon) ho p hmem hlater
    refine TimeRange.contains_eq_false_of_lt (hday e hmem' hon p hmem) ?_
    exact Nat.lt_of_lt_of_le hm hmin
  · obtain ⟨rfl, hs⟩ := Classical.not_imp.mp hlater
    have hn := Date.addDays?_eq_some_iff.mp hd
    have hdate : u.date = now.date := Date.eq_of_number (by rw [hud]; simpa using hn)
    exact contains_eq_false_of_started hday hoff hle hdate he' hon hmem (by omega)

end Openings

/-- A valid days-and-times schedule, with its periods within the day and in the order of their starts,
that is off now: the search finds the instant at which it is on next, or nothing when it stays off for
the six days after today. -/
theorem nextOpening_spec (s : Schedule) (now : Instant) (hk : s.kind = some .daysAndTimes)
    (hv : s.isValid = true) (hday : ∀ e ∈ s.days, e.enabled = true → e.WithinDay)
    (hasc : ∀ e ∈ s.days, e.enabled = true → e.Ascending) (hoff : onWeekday s.days now = false)
    (hlast : (now.date.addDays? 6).isSome = true) :
    ∃ r, nextOpening (some s) now = .ok r ∧
      match r with
      | some t => now < t ∧ (∀ u, now ≤ u → u < t → onWeekday s.days u = false) ∧
          onWeekday s.days t = true
      | none => ∀ u, now ≤ u → u.date.number ≤ now.date.number + 6 → onWeekday s.days u = false := by
  obtain ⟨hne, hp⟩ := Schedule.isProper_of_isValid hk hv
  obtain ⟨r, hr⟩ := s.nextOpening_isOk hlast
  refine ⟨r, hr, ?_⟩
  have quiet : ∀ u, now ≤ u → ∀ j : Nat, u.date.number = now.date.number + j →
      openingOn s.days now j = .ok none → onWeekday s.days u = false :=
    fun u hle j hu hj => onWeekday_eq_false_of_none hp hday hoff hle hj hu
  cases r with
  | none =>
    intro u hle hu
    have hge := Instant.date_le_of_le hle
    obtain ⟨j, hj⟩ := Int.le.dest hge
    have hlt : j < searchDays := by unfold searchDays; omega
    exact quiet u hle j hj.symm (Schedule.nextOpening_eq_none hk hne hr j hlt)
  | some t =>
    obtain ⟨-, k, -, ht, hbefore⟩ := Schedule.nextOpening_eq_some hr
    have hdate := date_of_openingOn ht
    refine ⟨lt_of_openingOn ht, fun u hle hlt => ?_, onWeekday_of_openingOn hp ht⟩
    obtain ⟨d, e, m, hd, he, hm, rfl⟩ := openingOn_eq_some_iff.mp ht
    rcases Instant.lt_atMinute hlt with hu | ⟨hu, hmin⟩
    · obtain ⟨j, hj⟩ := Int.le.dest (Instant.date_le_of_le hle)
      have hjk : j < k := by
        have hn := Date.addDays?_eq_some_iff.mp hd
        omega
      exact quiet u hle j hj.symm (hbefore j hjk)
    · exact onWeekday_eq_false_of_some hp hday hoff hle hasc ht (Date.eq_of_number hu) hmin

def fridaySchedule : Schedule :=
  .onDays [⟨"wed", true, [⟨"08:00", "09:00"⟩]⟩, ⟨"Thursday", false, []⟩,
    ⟨"FRI", true, [.fullDay, ⟨"18:00", "23:00"⟩]⟩]

/-- Wednesday, 4 March 2026, at nine. -/
def wednesdayNine : Instant := ⟨⟨20516, by decide⟩, ⟨540, by decide⟩, ⟨30, by decide⟩⟩

def fridayMidnight : Instant := .atMinute ⟨20518, by decide⟩ ⟨0, by decide⟩

theorem nextOpening_spec_friday :
    fridaySchedule.isValid = true ∧ onWeekday fridaySchedule.days wednesdayNine = false ∧
      nextOpening (some fridaySchedule) wednesdayNine = .ok (some fridayMidnight) ∧
      (∀ u, wednesdayNine ≤ u → u < fridayMidnight → onWeekday fridaySchedule.days u = false) ∧
      onWeekday fridaySchedule.days fridayMidnight = true := by
  have hv : fridaySchedule.isValid = true := by decide +kernel
  have hoff : onWeekday fridaySchedule.days wednesdayNine = false := by decide +kernel
  have hn : nextOpening (some fridaySchedule) wednesdayNine = .ok (some fridayMidnight) := by
    rfl
  have hday : ∀ e ∈ fridaySchedule.days, e.enabled = true → e.WithinDay := by
    decide +kernel
  have hasc : ∀ e ∈ fridaySchedule.days, e.enabled = true → e.Ascending := by
    decide +kernel
  obtain ⟨r, hr, h⟩ := nextOpening_spec fridaySchedule wednesdayNine rfl hv hday hasc hoff (by decide)
  obtain rfl : some fridayMidnight = r := Except.ok.inj (hn.symm.trans hr)
  exact ⟨hv, hoff, hn, h.2⟩

/-- A valid schedule is on by its days at the opening that is found; its blackouts alone decide there. -/
theorem isActive_nextOpening_iff (s : Schedule) (now t : Instant) (hv : s.isValid = true)
    (h : nextOpening (some s) now = .ok (some t)) :
    isActive (some s) t = true ↔ s.isBlackedOut t.date = false := by
  obtain ⟨hk, k, -, ht, -⟩ := Schedule.nextOpening_eq_some h
  obtain ⟨-, hp⟩ := Schedule.isProper_of_isValid hk hv
  have hon := onWeekday_of_openingOn hp ht
  have hopen : s.isOpen t = true := by simp [Schedule.isOpen, hk, hon]
  simp [isActive, Schedule.isActive, hopen]

def fridaysWithout (dates : List String) : Schedule :=
  { fridaySchedule with blackoutDates := some dates }

theorem isActive_nextOpening_iff_friday :
    nextOpening (some (fridaysWithout ["2026-03-13"])) wednesdayNine = .ok (some fridayMidnight) ∧
      isActive (some (fridaysWithout ["2026-03-13"])) fridayMidnight = true := by
  have hv : (fridaysWithout ["2026-03-13"]).isValid = true := by decide +kernel
  have hn : nextOpening (some (fridaysWithout ["2026-03-13"])) wednesdayNine =
      .ok (some fridayMidnight) := by
    rfl
  have hb : (fridaysWithout ["2026-03-13"]).isBlackedOut fridayMidnight.date = false := by
    decide +kernel
  exact ⟨hn, (isActive_nextOpening_iff _ _ _ hv hn).mpr hb⟩

/-- The opening that is found may be refused. -/
theorem not_isActive_nextOpening :
    ¬ ∀ (s : Schedule) (now t : Instant), s.isValid = true → (now.date.addDays? 6).isSome = true →
      nextOpening (some s) now = .ok (some t) → isActive (some s) t = true := by
  intro h
  have hv : (fridaysWithout ["2026-03-06"]).isValid = true := by decide +kernel
  have hn : nextOpening (some (fridaysWithout ["2026-03-06"])) wednesdayNine =
      .ok (some fridayMidnight) := by
    rfl
  have hoff : isActive (some (fridaysWithout ["2026-03-06"])) fridayMidnight = false := by
    decide +kernel
  have hon := h _ _ _ hv (by decide) hn
  rw [hoff] at hon
  cases hon

end Eligibility
