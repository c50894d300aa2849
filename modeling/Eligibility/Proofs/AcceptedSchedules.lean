import Eligibility.Proofs.ClockTimes
import Eligibility.Schedule.Opening
import Eligibility.Schedule.Validation

/-!
What a schedule without faults looks like: its periods are windows of strict times, and its entries name
weekdays and have periods where they are enabled.
-/

set_option autoImplicit false

namespace Eligibility

theorem timeFaults_eq_nil_iff {s : String} :
    timeFaults s = [] ↔ Clock.strictMinutes s = .ok (Clock.lenientMinutes s) := by
  unfold timeFaults
  split
  next m h => simp [h, Clock.lenientMinutes_of_strictMinutes h]
  next fault h => simp [h]

namespace TimePeriod

theorem startMinutes_eq (p : TimePeriod) : p.startMinutes = p.range.start := rfl

/-- The texts of the period are strict times, and they differ unless the period is a whole day. -/
structure IsWindow (p : TimePeriod) : Prop where
  start : Clock.strictMinutes p.start = .ok p.range.start
  finish : Clock.strictMinutes p.finish = .ok p.range.finish
  proper : p.range.start = p.range.finish → p.range.isFullDay = true

theorem allBlank_of_strictMinutes {s : String} {m : Nat} (h : Clock.strictMinutes s = .ok m) :
    Text.allBlank s = false := by
  obtain ⟨a, b, c, d, hs, ⟨ha, -⟩, -⟩ := Clock.strictMinutes_eq_ok_iff.mp h
  simp [Text.allBlank, hs, Clock.isBlank_of_isDigit ha]

theorem start_eq_finish_iff {p : TimePeriod} (hs : Clock.strictMinutes p.start = .ok p.range.start)
    (hf : Clock.strictMinutes p.finish = .ok p.range.finish) :
    p.start = p.finish ↔ p.range.start = p.range.finish := by
  constructor
  · intro h
    simp [range, TimeRange.ofTexts, h]
  · intro h
    exact Clock.strictMinutes_injective hs (h ▸ hf)

theorem faults_eq_nil_iff {p : TimePeriod} : p.faults = [] ↔ p.IsWindow := by
  constructor
  · intro h
    unfold faults at h
    split at h
    next => cases h
    next =>
      dsimp only at h
      split at h
      next => cases h
      next hne =>
        obtain ⟨hstart, hfinish⟩ := List.append_eq_nil_iff.mp h
        have hs := timeFaults_eq_nil_iff.mp hstart
        have hf := timeFaults_eq_nil_iff.mp hfinish
        refine ⟨hs, hf, fun he => ?_⟩
        have heq := (start_eq_finish_iff hs hf).mpr he
        rw [heq] at hstart
        simpa [hstart, hfinish, heq] using hne
  · rintro ⟨hs, hf, hp⟩
    have heq := start_eq_finish_iff hs hf
    unfold faults
    rw [allBlank_of_strictMinutes hs, allBlank_of_strictMinutes hf,
      timeFaults_eq_nil_iff.mpr hs, timeFaults_eq_nil_iff.mpr hf]
    by_cases he : p.start = p.finish
    · simp [hp (heq.mp he)]
    · simp [he]

namespace IsWindow

variable {p : TimePeriod} (h : p.IsWindow)

include h

theorem start_lt : p.range.start < minutesPerDay := Clock.lt_of_strictMinutes h.start

theorem opening?_ne_none : p.opening? ≠ none := by
  have hlt : p.startMinutes < minutesPerDay := h.start_lt
  simp [opening?, Clock.minuteOfDay?, hlt]

theorem contains_start : p.range.contains p.range.start = true := by
  have hp := h.proper
  unfold TimeRange.contains
  split
  next => rfl
  next hfull =>
    split
    next => simp
    next hnight =>
      simp only [TimeRange.isOvernight, decide_eq_true_eq] at hnight
      have hne : p.range.start ≠ p.range.finish := fun he => hfull (hp he)
      simp
      omega

end IsWindow

end TimePeriod

theorem periodFaults_eq_nil_iff {owner : String} {periods : List TimePeriod} :
    periodFaults owner periods = [] ↔ ∀ p ∈ periods, p.IsWindow := by
  unfold periodFaults
  rw [List.flatten_eq_nil_iff]
  constructor
  · intro h p hp
    obtain ⟨i, hi, rfl⟩ := List.getElem_of_mem hp
    have hf := h _ (List.mem_mapIdx.mpr ⟨i, hi, rfl⟩)
    exact TimePeriod.faults_eq_nil_iff.mp (List.map_eq_nil_iff.mp hf)
  · intro h fs hfs
    obtain ⟨i, hi, rfl⟩ := List.mem_mapIdx.mp hfs
    rw [TimePeriod.faults_eq_nil_iff.mpr (h _ (List.getElem_mem hi)), List.map_nil]

/-- The day is a weekday, and an enabled entry has periods, all of them windows. -/
structure DayEntry.IsProper (e : DayEntry) : Prop where
  weekday : e.weekday?.isSome = true
  nonempty : e.enabled = true → e.periods ≠ []
  windows : e.enabled = true → ∀ p ∈ e.periods, p.IsWindow

theorem DayEntry.faults_eq_nil_iff {e : DayEntry} : e.faults = [] ↔ e.IsProper := by
  have hd : e.faults = [] ↔ e.weekday?.isSome = true ∧
      (e.enabled = true → e.periods ≠ [] ∧ periodFaults e.day e.periods = []) := by
    cases hw : e.weekday? <;> cases he : e.enabled <;> simp [faults, hw, he]
  rw [hd, periodFaults_eq_nil_iff]
  constructor
  · rintro ⟨hw, he⟩
    exact ⟨hw, fun h => (he h).1, fun h => (he h).2⟩
  · rintro ⟨hw, hn, hp⟩
    exact ⟨hw, fun h => ⟨hn h, hp h⟩⟩

namespace Schedule

theorem isProper_of_isValid {s : Schedule} (hk : s.kind = some .daysAndTimes) (hv : s.isValid = true) :
    s.days ≠ [] ∧ ∀ e ∈ s.days, e.IsProper := by
  have hf : s.kindFaults = [] := (List.append_eq_nil_iff.mp (List.isEmpty_iff.mp hv)).1
  simp only [kindFaults, hk, List.append_eq_nil_iff, List.flatMap_eq_nil_iff] at hf
  refine ⟨?_, fun e he => DayEntry.faults_eq_nil_iff.mp (hf.2 e he)⟩
  intro hd
  simp [hd] at hf

end Schedule

end Eligibility
