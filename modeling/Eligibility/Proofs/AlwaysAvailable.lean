import Mathlib.Data.Nat.Basic
import Eligibility.Schedule.Activity
import Eligibility.Schedule.Coverage
import Eligibility.Schedule.Description

/-!
Schedules that are described as always available: no schedule, an always-on one, and a days-and-times one
without a day. They are on outside their blackouts. Coverage tells a list of days that is absent from one
that is empty, which activity and the description do not.
-/

set_option autoImplicit false

namespace Eligibility

theorem mem_intercalate_of_mem_separator {c : Char} {sep p q : String} {ps : List String}
    (h : c ∈ sep.toList) : c ∈ (sep.intercalate (p :: q :: ps)).toList := by
  rw [String.intercalate_cons_of_ne_nil (List.cons_ne_nil q ps)]
  simp only [String.toList_append, List.mem_append]
  exact .inl (.inr h)

theorem ne_of_mem {c : Char} {s t : String} (hs : c ∈ s.toList) (ht : c ∉ t.toList) : s ≠ t := by
  rintro rfl
  exact ht hs

theorem counted_ne {n : Nat} {singular plural t : String} (ht : ∀ c ∈ t.toList, c.isDigit = false) :
    counted n singular plural ≠ t := by
  obtain ⟨d, ds, hds⟩ := List.exists_cons_of_ne_nil (Nat.toDigits_ne_nil (n := n) (b := 10))
  have hd : d.isDigit = true :=
    Nat.isDigit_of_mem_toDigits (b := 10) (n := n) (by decide) (by decide) (by simp [hds])
  have hmem : d ∈ (counted n singular plural).toList := by
    unfold counted
    split <;> simp [hds]
  refine ne_of_mem hmem fun h => ?_
  rw [ht d h] at hd
  cases hd

namespace DayEntry

theorem length_shortName_le (e : DayEntry) : e.shortName.toList.length ≤ 3 := by
  unfold shortName
  split
  next w _ => cases w <;> decide
  next =>
    rw [String.toList_ofList]
    exact List.length_take_le 3 _

end DayEntry

/-- The names of days are too short for the words, and a second name or a period brings a mark along that
they do not have. -/
theorem describeDays_ne (days : List DayEntry) : describeDays days ≠ "Always available" := by
  unfold describeDays
  dsimp only
  split
  next => decide
  next hne =>
    split
    next =>
      cases hon : days.filter DayEntry.enabled with
      | nil => simp [hon] at hne
      | cons e es =>
        cases es with
        | nil =>
          intro h
          have hlen := e.length_shortName_le
          have hlong : ("Always available" : String).toList.length = 16 := by decide
          simp only [List.map_cons, List.map_nil, String.intercalate_singleton] at h
          rw [h, hlong] at hlen
          omega
        | cons f fs =>
          exact ne_of_mem (c := ',') (mem_intercalate_of_mem_separator (by decide)) (by decide)
    next => exact ne_of_mem (c := ':') (by simp) (by decide)

namespace Schedule

def HasEmptyDays (s : Schedule) : Prop := s.kind = some .daysAndTimes ∧ s.daysOfWeek = some []

instance (s : Schedule) : Decidable s.HasEmptyDays := inferInstanceAs (Decidable (_ ∧ _))

theorem description_eq_iff {s : Schedule} :
    s.description = "Always available" ↔
      s.kind = some .alwaysOn ∨ s.kind = some .daysAndTimes ∧ s.days = [] := by
  unfold description
  split
  next hk => simp [hk]
  next hk =>
    by_cases hd : s.days = []
    · simp [hk, hd]
    · simp [hk, hd, describeDays_ne]
  next hk => simpa [hk] using counted_ne (by simp)
  next hk => simpa [hk] using counted_ne (by simp)
  next halways hdays _ _ =>
    refine iff_of_false (by decide) ?_
    rintro (hk | ⟨hk, -⟩)
    · exact halways hk
    · exact hdays hk

variable {s : Schedule}

theorem isOpen_of_description (h : s.description = "Always available") (t : Instant) :
    s.isOpen t = true := by
  rcases description_eq_iff.mp h with hk | ⟨hk, hd⟩
  · simp [isOpen, hk]
  · simp [isOpen, hk, hd]

theorem coverage_of_description (h : s.description = "Always available") :
    s.coverage = if s.HasEmptyDays then 0 else 100 := by
  rcases description_eq_iff.mp h with hk | ⟨hk, hd⟩
  · simp [coverage, HasEmptyDays, hk]
  · cases hw : s.daysOfWeek with
    | none => simp [coverage, HasEmptyDays, hk, hw]
    | some ds =>
      obtain rfl : ds = [] := by simpa [days, hw] using hd
      have hz : percentOfDay (weeklyMinutes []) = 0 := by decide +kernel
      simp [coverage, HasEmptyDays, hk, hw, hz]

end Schedule

/-- A schedule that is described as always available is on at every instant whose date it does not black
out. Its coverage is 100 unless its list of days is there and empty, and 0 then. -/
theorem alwaysAvailable_views (s : Option Schedule) (h : scheduleDescription s = "Always available") :
    (∀ t : Instant, (∀ r ∈ s, ∀ b ∈ r.blackouts, Text.trim b ≠ t.date.text) → isActive s t = true) ∧
    ((∀ r ∈ s, ¬ r.HasEmptyDays) → scheduleCoverage s = 100) ∧
    ((∃ r ∈ s, r.HasEmptyDays) → scheduleCoverage s = 0) := by
  cases s with
  | none => simp [isActive, scheduleCoverage]
  | some r =>
    have hcoverage := Schedule.coverage_of_description h
    refine ⟨fun t ht => ?_, fun hr => ?_, ?_⟩
    · have hopen := Schedule.isOpen_of_description h t
      have hlist : r.isBlackedOut t.date = false := by
        simpa [Schedule.isBlackedOut, listsDate] using ht
      simp [isActive, Schedule.isActive, hlist, hopen]
    · rw [scheduleCoverage, hcoverage, if_neg (hr r rfl)]
    · rintro ⟨r', hmem, hr⟩
      obtain rfl : r = r' := Option.some.inj hmem
      rw [scheduleCoverage, hcoverage, if_pos hr]

/-- By days, with no list of days, and not on the first of May. -/
def dayListMissing : Schedule :=
  { Schedule.empty with kind := some .daysAndTimes, blackoutDates := some ["2026-05-01"] }

/-- Sunday, 3 May 2026, at a quarter past nine. -/
def sundayMorning : Instant := .atMinute ⟨20576, by decide⟩ ⟨555, by decide⟩

theorem alwaysAvailable_views_may :
    scheduleDescription (some dayListMissing) = "Always available" ∧
      scheduleCoverage (some dayListMissing) = 100 ∧
      isActive (some dayListMissing) sundayMorning = true := by
  obtain ⟨hon, hcoverage, -⟩ := alwaysAvailable_views (some dayListMissing) rfl
  refine ⟨rfl, hcoverage (by decide), hon sundayMorning ?_⟩
  decide +kernel

/-- The schedule that turns no day on is described as always available, is on, and covers nothing. -/
theorem not_alwaysAvailable_coverage :
    ¬ ∀ s : Option Schedule, scheduleDescription s = "Always available" →
      scheduleCoverage s = 100 ∧
        ∀ t : Instant, (∀ r ∈ s, ∀ b ∈ r.blackouts, Text.trim b ≠ t.date.text) →
          isActive s t = true := by
  intro h
  have hzero : scheduleCoverage (some (.onDays [])) = 0 := by decide +kernel
  have hfull := (h (some (.onDays [])) rfl).1
  rw [hzero] at hfull
  cases hfull

end Eligibility
