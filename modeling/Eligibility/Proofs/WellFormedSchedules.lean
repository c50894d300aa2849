import Eligibility.Proofs.AcceptedSchedules

/-!
What validation accepts. The well-formed schedules are described by the texts that stand in them, and these
are the schedules without faults. Their periods are written strictly and read leniently when the schedule is
asked whether it is on, and no window gets lost between the two readings.
-/

set_option autoImplicit false

namespace Eligibility

namespace Clock

variable {s : String}

/-- Two digits, a colon and two digits: an hour below 24 and a minute below 60. -/
def IsTime (s : String) : Prop :=
  ∃ a b c d, s.toList = [a, b, ':', c, d] ∧
    (a.isDigit = true ∧ b.isDigit = true ∧ c.isDigit = true ∧ d.isDigit = true) ∧
    twoDigits a b < 24 ∧ twoDigits c d < 60

/-- The two readings agree on a time of day, and the strict one takes nothing else. -/
theorem strictMinutes_eq_lenientMinutes_iff : strictMinutes s = .ok (lenientMinutes s) ↔ IsTime s := by
  constructor
  · intro h
    obtain ⟨a, b, c, d, hs, hdigits, hh, hm, -⟩ := strictMinutes_eq_ok_iff.mp h
    exact ⟨a, b, c, d, hs, hdigits, hh, hm⟩
  · intro h
    obtain ⟨a, b, c, d, hs, hdigits, hh, hm⟩ := h
    have hstrict := strictMinutes_eq_ok_iff.mpr ⟨a, b, c, d, hs, hdigits, hh, hm, rfl⟩
    rw [lenientMinutes_of_strictMinutes hstrict, hstrict]

theorem eq_midnight_iff (h : strictMinutes s = .ok (lenientMinutes s)) :
    s = "00:00" ↔ lenientMinutes s = 0 := by
  have hzero : strictMinutes "00:00" = .ok 0 := rfl
  constructor
  · intro hs
    rw [hs, lenientMinutes_of_strictMinutes hzero]
  · intro hm
    rw [hm] at h
    exact strictMinutes_injective h hzero

end Clock

namespace TimePeriod

variable {p : TimePeriod}

/-- Two times of day that differ, unless both are midnight. -/
structure IsWellFormed (p : TimePeriod) : Prop where
  start : Clock.IsTime p.start
  finish : Clock.IsTime p.finish
  differ : p.start ≠ p.finish ∨ p.start = "00:00" ∧ p.finish = "00:00"

theorem isFullDay_iff : p.range.isFullDay = true ↔ p.range.start = 0 ∧ p.range.finish = 0 := by
  simp [TimeRange.isFullDay]

theorem isWindow_iff_isWellFormed : p.IsWindow ↔ p.IsWellFormed := by
  constructor
  · intro ⟨hs, hf, hp⟩
    refine ⟨Clock.strictMinutes_eq_lenientMinutes_iff.mp hs,
      Clock.strictMinutes_eq_lenientMinutes_iff.mp hf, ?_⟩
    by_cases heq : p.start = p.finish
    · obtain ⟨hs0, hf0⟩ := isFullDay_iff.mp (hp ((start_eq_finish_iff hs hf).mp heq))
      exact .inr ⟨(Clock.eq_midnight_iff hs).mpr hs0, (Clock.eq_midnight_iff hf).mpr hf0⟩
    · exact .inl heq
  · intro ⟨hs, hf, hp⟩
    have hs := Clock.strictMinutes_eq_lenientMinutes_iff.mpr hs
    have hf := Clock.strictMinutes_eq_lenientMinutes_iff.mpr hf
    refine ⟨hs, hf, fun heq => ?_⟩
    rcases hp with hne | ⟨hs0, hf0⟩
    · exact absurd ((start_eq_finish_iff hs hf).mpr heq) hne
    · exact isFullDay_iff.mpr ⟨(Clock.eq_midnight_iff hs).mp hs0, (Clock.eq_midnight_iff hf).mp hf0⟩

theorem forall_isWindow_iff {ps : List TimePeriod} :
    (∀ p ∈ ps, p.IsWindow) ↔ ∀ p ∈ ps, p.IsWellFormed :=
  forall₂_congr fun _ _ => isWindow_iff_isWellFormed

theorem IsWindow.finish_lt (h : p.IsWindow) : p.range.finish < minutesPerDay :=
  Clock.lt_of_strictMinutes h.finish

/-- A window lasts a minute at least, also when it runs overnight, and a day at most. -/
theorem IsWindow.duration_bounds (h : p.IsWindow) :
    1 ≤ p.range.duration ∧ p.range.duration ≤ minutesPerDay := by
  have hs := h.start_lt
  have hf := h.finish_lt
  have hp := h.proper
  unfold TimeRange.duration
  split
  next => decide
  next hfull =>
    have hne : p.range.start ≠ p.range.finish := fun he => hfull (hp he)
    simp only [TimeRange.isOvernight, Clock.capped, Clock.largest, minutesPerDay, decide_eq_true_eq] at *
    split <;> omega

end TimePeriod

def Weekday.names : List String :=
  ["mon", "monday", "tue", "tuesday", "wed", "wednesday", "thu", "thursday", "fri", "friday", "sat",
    "saturday", "sun", "sunday"]

theorem Weekday.read?_isSome_iff {s : String} :
    (read? s).isSome = true ↔ Text.lowerCase (Text.trim s) ∈ names := by
  unfold read?
  split <;> simp_all [names]

structure DayEntry.IsWellFormed (e : DayEntry) : Prop where
  weekday : Text.lowerCase (Text.trim e.day) ∈ Weekday.names
  nonempty : e.enabled = true → e.periods ≠ []
  periods : e.enabled = true → ∀ p ∈ e.periods, p.IsWellFormed

theorem DayEntry.faults_eq_nil_iff_isWellFormed {e : DayEntry} : e.faults = [] ↔ e.IsWellFormed := by
  rw [faults_eq_nil_iff]
  constructor
  · intro h
    exact ⟨Weekday.read?_isSome_iff.mp h.weekday, h.nonempty,
      fun he => TimePeriod.forall_isWindow_iff.mp (h.windows he)⟩
  · intro h
    exact ⟨Weekday.read?_isSome_iff.mpr h.weekday, h.nonempty,
      fun he => TimePeriod.forall_isWindow_iff.mpr (h.periods he)⟩

structure DateEntry.IsWellFormed (e : DateEntry) : Prop where
  date : ∃ d, Date.read? e.date = some d
  periods : ∀ p ∈ e.periods, p.IsWellFormed

theorem DateEntry.faults_eq_nil_iff_isWellFormed {e : DateEntry} : e.faults = [] ↔ e.IsWellFormed := by
  have hfaults : e.faults = [] ↔
      (∃ d, Date.read? e.date = some d) ∧ periodFaults e.date e.periods = [] := by
    cases hd : Date.read? e.date <;> simp [faults, hd]
  rw [hfaults, periodFaults_eq_nil_iff, TimePeriod.forall_isWindow_iff]
  exact ⟨fun h => ⟨h.1, h.2⟩, fun h => ⟨h.date, h.periods⟩⟩

namespace Schedule

variable {s : Schedule}

/-- The kind is known, every date can be read, and a schedule of days or dates has some, all of them well
formed. -/
structure IsWellFormed (s : Schedule) : Prop where
  kind : ∃ k, s.kind = some k ∧ k ≠ .unknown
  blackouts : ∀ b ∈ s.blackouts, ∃ d, Date.read? b = some d
  days : s.kind = some .daysAndTimes → s.days ≠ [] ∧ ∀ e ∈ s.days, e.IsWellFormed
  dates : s.kind = some .specificDates → s.dates ≠ [] ∧ ∀ e ∈ s.dates, e.IsWellFormed

/-- The periods that the schedule can be on in: those of its enabled days, or those of its dates. -/
def periodsInUse (s : Schedule) : List TimePeriod :=
  match s.kind with
  | some .daysAndTimes => (s.days.filter DayEntry.enabled).flatMap DayEntry.periods
  | some .specificDates => s.dates.flatMap DateEntry.periods
  | _ => []

theorem kindFaults_eq_nil_iff :
    s.kindFaults = [] ↔ (∃ k, s.kind = some k ∧ k ≠ .unknown) ∧
      (s.kind = some .daysAndTimes → s.days ≠ [] ∧ ∀ e ∈ s.days, e.IsWellFormed) ∧
      (s.kind = some .specificDates → s.dates ≠ [] ∧ ∀ e ∈ s.dates, e.IsWellFormed) := by
  unfold kindFaults
  cases s.kind with
  | none => simp
  | some k =>
    cases k <;> simp [List.flatMap_eq_nil_iff, DayEntry.faults_eq_nil_iff_isWellFormed,
      DateEntry.faults_eq_nil_iff_isWellFormed]

theorem blackoutFaults_eq_nil_iff :
    s.blackoutFaults = [] ↔ ∀ b ∈ s.blackouts, ∃ d, Date.read? b = some d := by
  simp [blackoutFaults, Option.ne_none_iff_exists']

theorem isValid_iff_isWellFormed : s.isValid = true ↔ s.IsWellFormed := by
  rw [isValid, List.isEmpty_iff, faults, List.append_eq_nil_iff, kindFaults_eq_nil_iff,
    blackoutFaults_eq_nil_iff]
  constructor
  · intro ⟨⟨hkind, hdays, hdates⟩, hblackouts⟩
    exact ⟨hkind, hblackouts, hdays, hdates⟩
  · intro h
    exact ⟨⟨h.kind, h.days, h.dates⟩, h.blackouts⟩

theorem IsWellFormed.of_mem_periodsInUse (h : s.IsWellFormed) {p : TimePeriod}
    (hp : p ∈ s.periodsInUse) : p.IsWellFormed := by
  unfold periodsInUse at hp
  split at hp
  next hk =>
    obtain ⟨e, he, hp⟩ := List.mem_flatMap.mp hp
    obtain ⟨hmem, henabled⟩ := List.mem_filter.mp he
    exact ((h.days hk).2 e hmem).periods henabled p hp
  next hk =>
    obtain ⟨e, he, hp⟩ := List.mem_flatMap.mp hp
    exact ((h.dates hk).2 e he).periods p hp
  next => cases hp

/-- A schedule is valid when it is well formed, and then each period that it can be on in lasts between a
minute and a day and has its own start in it. -/
theorem isValid_iff (s : Schedule) :
    (s.isValid = true ↔ s.IsWellFormed) ∧
    (s.isValid = true → ∀ p ∈ s.periodsInUse, 1 ≤ p.range.duration ∧ p.range.duration ≤ minutesPerDay ∧
      p.range.contains p.range.start = true) := by
  refine ⟨isValid_iff_isWellFormed, fun hvalid p hp => ?_⟩
  have hformed := (isValid_iff_isWellFormed.mp hvalid).of_mem_periodsInUse hp
  have hwindow := TimePeriod.isWindow_iff_isWellFormed.mpr hformed
  exact ⟨hwindow.duration_bounds.1, hwindow.duration_bounds.2, hwindow.contains_start⟩

def nights : Schedule :=
  .onDays [⟨" FRI ", true, [⟨"22:00", "02:00"⟩, .fullDay]⟩, ⟨"Monday", false, [⟨"soon", ""⟩]⟩]

theorem isValid_iff_nights :
    nights.isValid = true ∧ 1 ≤ (TimePeriod.mk "22:00" "02:00").range.duration ∧
      TimePeriod.fullDay.range.duration ≤ minutesPerDay := by
  have hvalid : nights.isValid = true := by decide +kernel
  obtain ⟨-, hperiods⟩ := isValid_iff nights
  have hnight := hperiods hvalid ⟨"22:00", "02:00"⟩ (by decide)
  have hday := hperiods hvalid .fullDay (by decide)
  exact ⟨hvalid, hnight.1, hday.2.1⟩

end Schedule

end Eligibility
