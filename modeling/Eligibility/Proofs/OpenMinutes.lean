import Eligibility.Proofs.AcceptedSchedules
import Eligibility.Schedule.Coverage
import Mathlib.Algebra.GroupWithZero.Nat
import Mathlib.Data.Fintype.Fin
import Mathlib.Data.Fintype.Prod

/-!
Counting the minutes of a week at which days and times are on. A range of strict times holds as many minutes
of the day as its duration says. Durations count a minute once for every period that holds it, and the
minutes of an entry even where an earlier entry for the weekday hides it, so their sum is never less than
the count, and more only through overlaps and hidden entries.
-/

set_option autoImplicit false

namespace Eligibility

open Finset

/-! ### One range -/

namespace TimeRange

variable {r : TimeRange}

def minutes (r : TimeRange) : Finset MinuteOfDay := univ.filter fun m => r.contains m.val = true

theorem mem_minutes {m : MinuteOfDay} : m ∈ r.minutes ↔ r.contains m.val = true := by
  simp [minutes]

theorem card_minutes_eq :
    r.minutes.card = ((range minutesPerDay).filter fun m => r.contains m = true).card := by
  have hmap : r.minutes.map Fin.valEmbedding = (range minutesPerDay).filter fun m => r.contains m = true := by
    ext m
    simp only [mem_map, mem_minutes, Fin.valEmbedding_apply, mem_filter, mem_range]
    constructor
    · rintro ⟨k, hk, rfl⟩
      exact ⟨k.isLt, hk⟩
    · rintro ⟨hm, hc⟩
      exact ⟨⟨m, hm⟩, hc, rfl⟩
  rw [← hmap, card_map]

theorem card_minutes (hs : r.start < minutesPerDay) (hf : r.finish < minutesPerDay) :
    r.minutes.card = r.duration := by
  rw [card_minutes_eq]
  unfold duration
  split
  next hfull => simp [contains, hfull]
  next hfull =>
    split
    next hnight =>
      have hlt : r.finish < r.start := by simpa [isOvernight] using hnight
      have hset : (range minutesPerDay).filter (fun m => r.contains m = true) =
          range minutesPerDay \ Ico r.finish r.start := by
        ext m
        simp only [contains, hfull, Bool.false_eq_true, ↓reduceIte, hnight, Bool.or_eq_true,
          decide_eq_true_eq, mem_filter, mem_range, mem_sdiff, mem_Ico]
        omega
      have hsub : Ico r.finish r.start ⊆ range minutesPerDay := by
        intro m hm
        rw [mem_Ico] at hm
        exact mem_range.mpr (hm.2.trans hs)
      rw [hset, card_sdiff_of_subset hsub, card_range, Nat.card_Ico]
      unfold Clock.capped Clock.largest minutesPerDay at *
      omega
    next hnight =>
      have hset : (range minutesPerDay).filter (fun m => r.contains m = true) =
          Ico r.start r.finish := by
        ext m
        simp only [contains, hfull, Bool.false_eq_true, ↓reduceIte, hnight, Bool.and_eq_true,
          decide_eq_true_eq, mem_filter, mem_range, mem_Ico]
        omega
      rw [hset, Nat.card_Ico]

end TimeRange

theorem TimePeriod.IsWindow.card_minutes {p : TimePeriod} (h : p.IsWindow) :
    p.range.minutes.card = p.range.duration :=
  TimeRange.card_minutes h.start_lt (Clock.lt_of_strictMinutes h.finish)

/-! ### The periods of an entry -/

section Periods

variable {periods : List TimePeriod}

def heldMinutes (periods : List TimePeriod) : Finset MinuteOfDay :=
  univ.filter fun m => anyPeriodHolds periods m = true

theorem heldMinutes_nil : heldMinutes [] = ∅ := by
  simp [heldMinutes, anyPeriodHolds]

theorem heldMinutes_cons (p : TimePeriod) (periods : List TimePeriod) :
    heldMinutes (p :: periods) = p.range.minutes ∪ heldMinutes periods := by
  ext m
  simp [heldMinutes, anyPeriodHolds, TimeRange.minutes]

def periodMinutes : List TimePeriod → Nat
  | [] => 0
  | p :: periods => p.range.duration + periodMinutes periods

theorem sum_durations (periods : List TimePeriod) :
    (periods.map fun p => p.range.duration).sum = periodMinutes periods := by
  induction periods with
  | nil => rfl
  | cons p periods ih => rw [List.map_cons, List.sum_cons, ih, periodMinutes]

theorem card_heldMinutes_le (h : ∀ p ∈ periods, p.IsWindow) :
    (heldMinutes periods).card ≤ periodMinutes periods := by
  induction periods with
  | nil => simp [heldMinutes_nil, periodMinutes]
  | cons p periods ih =>
    obtain ⟨hp, hps⟩ := List.forall_mem_cons.mp h
    have hunion := card_union_le p.range.minutes (heldMinutes periods)
    have hrest := ih hps
    rw [hp.card_minutes] at hunion
    rw [heldMinutes_cons, periodMinutes]
    exact hunion.trans (Nat.add_le_add_left hrest _)

theorem card_heldMinutes (h : ∀ p ∈ periods, p.IsWindow)
    (hd : periods.Pairwise fun p q => Disjoint p.range.minutes q.range.minutes) :
    (heldMinutes periods).card = periodMinutes periods := by
  induction periods with
  | nil => simp [heldMinutes_nil, periodMinutes]
  | cons p periods ih =>
    obtain ⟨hp, hps⟩ := List.forall_mem_cons.mp h
    obtain ⟨hpd, hpsd⟩ := List.pairwise_cons.mp hd
    have hdisjoint : Disjoint p.range.minutes (heldMinutes periods) := by
      rw [disjoint_left]
      intro m hm hheld
      obtain ⟨q, hq, hc⟩ : ∃ q ∈ periods, q.range.contains m.val = true := by
        simpa [heldMinutes, anyPeriodHolds] using hheld
      exact disjoint_left.mp (hpd q hq) hm (TimeRange.mem_minutes.mpr hc)
    rw [heldMinutes_cons, card_union_of_disjoint hdisjoint, hp.card_minutes, ih hps hpsd,
      periodMinutes]

end Periods

namespace DayEntry

variable {e : DayEntry}

def minutes (e : DayEntry) : Finset MinuteOfDay := if e.enabled then heldMinutes e.periods else ∅

def duration (e : DayEntry) : Nat := if e.enabled then periodMinutes e.periods else 0

theorem mem_minutes {m : MinuteOfDay} :
    m ∈ e.minutes ↔ e.enabled = true ∧ anyPeriodHolds e.periods m = true := by
  cases he : e.enabled <;> simp [minutes, heldMinutes, he]

theorem IsProper.card_minutes_le (h : e.IsProper) : e.minutes.card ≤ e.duration := by
  cases he : e.enabled with
  | false => simp [minutes, he]
  | true => simpa [minutes, duration, he] using card_heldMinutes_le (h.windows he)

theorem IsProper.card_minutes (h : e.IsProper) (hd : e.enabled = true →
    e.periods.Pairwise fun p q => Disjoint p.range.minutes q.range.minutes) :
    e.minutes.card = e.duration := by
  cases he : e.enabled with
  | false => simp [minutes, duration, he]
  | true => simpa [minutes, duration, he] using card_heldMinutes (h.windows he) (hd he)

end DayEntry

/-! ### The days of a week -/

instance : Fintype Weekday where
  elems := {.monday, .tuesday, .wednesday, .thursday, .friday, .saturday, .sunday}
  complete := by
    intro w
    cases w <;> decide

/-- A date of each weekday, in the second week of 1970. -/
def Weekday.sample : Weekday → Date
  | .monday => ⟨4, by decide⟩
  | .tuesday => ⟨5, by decide⟩
  | .wednesday => ⟨6, by decide⟩
  | .thursday => ⟨7, by decide⟩
  | .friday => ⟨8, by decide⟩
  | .saturday => ⟨9, by decide⟩
  | .sunday => ⟨10, by decide⟩

theorem Weekday.weekday_sample (w : Weekday) : w.sample.weekday = w := by
  cases w <;> rfl

section Days

variable {days : List DayEntry} {e : DayEntry} {now : Instant}

theorem onWeekday_nil : onWeekday [] now = false := rfl

theorem onWeekday_cons : onWeekday (e :: days) now =
    if e.weekday? = some now.date.weekday then e.enabled && anyPeriodHolds e.periods now.minute
    else onWeekday days now := by
  by_cases h : e.weekday? = some now.date.weekday
  · simp [onWeekday, dayEntry?, h]
  · simp [onWeekday, dayEntry?, h]

/-- Of an instant only the weekday and the minute of the day count. -/
theorem onWeekday_congr {u : Instant} (hd : now.date.weekday = u.date.weekday)
    (hm : now.minute = u.minute) : onWeekday days now = onWeekday days u := by
  induction days with
  | nil => rfl
  | cons e days ih => rw [onWeekday_cons, onWeekday_cons, ih, hd, hm]

/-- The weekdays and minutes of the day at which the days are on. -/
def openMinutes (days : List DayEntry) : Finset (Weekday × MinuteOfDay) :=
  univ.filter fun o => onWeekday days (.atMinute o.1.sample o.2) = true

theorem mem_openMinutes :
    (now.date.weekday, now.minute) ∈ openMinutes days ↔ onWeekday days now = true := by
  have hd : (Instant.atMinute now.date.weekday.sample now.minute).date.weekday = now.date.weekday :=
    Weekday.weekday_sample _
  rw [openMinutes, mem_filter, onWeekday_congr hd rfl]
  simp

theorem openMinutes_nil : openMinutes [] = ∅ := by
  simp [openMinutes, onWeekday_nil]

theorem mem_openMinutes_cons {w v : Weekday} {m : MinuteOfDay} (hw : e.weekday? = some w) :
    (v, m) ∈ openMinutes (e :: days) ↔
      if v = w then m ∈ e.minutes else (v, m) ∈ openMinutes days := by
  have hd : (Instant.atMinute v.sample m).date.weekday = v := Weekday.weekday_sample v
  simp only [openMinutes, mem_filter, mem_univ, true_and, onWeekday_cons, hd, hw, Option.some.injEq,
    DayEntry.mem_minutes]
  by_cases hv : v = w
  · simp [hv, Instant.atMinute]
  · simp [hv, Ne.symm hv]

/-- An entry decides for its own weekday and leaves the other weekdays to the rest. -/
theorem openMinutes_cons {w : Weekday} (hw : e.weekday? = some w) :
    openMinutes (e :: days) =
      {w} ×ˢ e.minutes ∪ (openMinutes days).filter fun o => o.1 ≠ w := by
  ext ⟨v, m⟩
  rw [mem_openMinutes_cons hw, mem_union, mem_product, mem_singleton, mem_filter]
  by_cases hv : v = w
  · simp [hv]
  · simp [hv]

theorem card_openMinutes_cons {w : Weekday} (hw : e.weekday? = some w) :
    (openMinutes (e :: days)).card =
      e.minutes.card + ((openMinutes days).filter fun o => o.1 ≠ w).card := by
  have hdisjoint : Disjoint ({w} ×ˢ e.minutes) ((openMinutes days).filter fun o => o.1 ≠ w) := by
    rw [disjoint_left]
    intro o ho hr
    exact (mem_filter.mp hr).2 (mem_singleton.mp (mem_product.mp ho).1)
  rw [openMinutes_cons hw, card_union_of_disjoint hdisjoint, card_product, card_singleton, Nat.one_mul]

theorem exists_weekday_of_mem {o : Weekday × MinuteOfDay} (h : o ∈ openMinutes days) :
    ∃ e ∈ days, e.weekday? = some o.1 := by
  have hon : onWeekday days (.atMinute o.1.sample o.2) = true := (mem_filter.mp h).2
  unfold onWeekday at hon
  split at hon
  next e he =>
    have hw := List.find?_some he
    simp only [Instant.atMinute, Weekday.weekday_sample, beq_iff_eq] at hw
    exact ⟨e, List.mem_of_find?_eq_some he, hw⟩
  next => cases hon

theorem weeklyMinutes_cons :
    Schedule.weeklyMinutes (e :: days) = e.duration + Schedule.weeklyMinutes days := by
  have hsum : ∀ ds : List DayEntry, Schedule.weeklyMinutes ds =
      ((ds.filter DayEntry.enabled).flatMap fun e => e.periods.map fun p => p.range.duration).sum :=
    fun ds => List.sum_eq_foldl.symm
  rw [hsum, hsum]
  cases he : e.enabled with
  | false => simp [he, DayEntry.duration]
  | true => simp [he, DayEntry.duration, sum_durations]

theorem card_openMinutes_le (h : ∀ e ∈ days, e.IsProper) :
    (openMinutes days).card ≤ Schedule.weeklyMinutes days := by
  induction days with
  | nil => simp [openMinutes_nil]
  | cons e days ih =>
    obtain ⟨he, hdays⟩ := List.forall_mem_cons.mp h
    obtain ⟨w, hw⟩ := Option.isSome_iff_exists.mp he.weekday
    have hrest : ((openMinutes days).filter fun o => o.1 ≠ w).card ≤ Schedule.weeklyMinutes days :=
      (card_filter_le _ _).trans (ih hdays)
    rw [card_openMinutes_cons hw, weeklyMinutes_cons]
    exact Nat.add_le_add he.card_minutes_le hrest

/-- Every minute is counted once where no entry hides another and no period overlaps another. -/
theorem card_openMinutes (h : ∀ e ∈ days, e.IsProper)
    (hone : days.Pairwise fun e f => e.weekday? ≠ f.weekday?)
    (hd : ∀ e ∈ days, e.enabled = true →
      e.periods.Pairwise fun p q => Disjoint p.range.minutes q.range.minutes) :
    (openMinutes days).card = Schedule.weeklyMinutes days := by
  induction days with
  | nil => simp [openMinutes_nil, Schedule.weeklyMinutes]
  | cons e days ih =>
    obtain ⟨he, hdays⟩ := List.forall_mem_cons.mp h
    obtain ⟨hed, hdaysd⟩ := List.forall_mem_cons.mp hd
    obtain ⟨hfirst, hrest⟩ := List.pairwise_cons.mp hone
    obtain ⟨w, hw⟩ := Option.isSome_iff_exists.mp he.weekday
    have hall : ((openMinutes days).filter fun o => o.1 ≠ w) = openMinutes days := by
      rw [filter_eq_self]
      rintro o ho rfl
      obtain ⟨f, hf, hfw⟩ := exists_weekday_of_mem ho
      exact hfirst f hf (hw.trans hfw.symm)
    rw [card_openMinutes_cons hw, weeklyMinutes_cons, hall, he.card_minutes hed,
      ih hdays hrest hdaysd]

theorem card_openMinutes_le_week (days : List DayEntry) : (openMinutes days).card ≤ 10080 := by
  have hall : Fintype.card (Weekday × MinuteOfDay) = 10080 := by
    rw [Fintype.card_prod, Fintype.card_fin]
    rfl
  rw [← hall]
  exact card_le_univ _

end Days

end Eligibility
