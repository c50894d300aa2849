import Eligibility.Proofs.DayLookup
import Eligibility.Proofs.OpenMinutes
import Eligibility.Proofs.WellFormedSchedules

/-!
Where the order of a schedule's entries and periods does not count. Entries that are for different days can
change places: the look-up of a day finds the same one, and the minutes and the verdict go through all of
them. Periods can change places within their entry, whichever the entry is; only the search for the next
opening reads them in their order.
-/

set_option autoImplicit false

namespace Eligibility

theorem ne_nil_congr {α : Type} {xs ys : List α} (h : ys.isEmpty = xs.isEmpty) :
    ys ≠ [] ↔ xs ≠ [] := by
  rw [ne_eq, ne_eq, ← List.isEmpty_iff, ← List.isEmpty_iff, h]

namespace Schedule

def withDays (s : Schedule) (days : List DayEntry) : Schedule := { s with daysOfWeek := some days }

def withDates (s : Schedule) (dates : List DateEntry) : Schedule :=
  { s with specificDates := some dates }

/-- Activity, coverage and the verdict do not tell the two apart. -/
structure Alike (s t : Schedule) : Prop where
  active : ∀ now, Eligibility.isActive (some t) now = Eligibility.isActive (some s) now
  coverage : scheduleCoverage (some t) = scheduleCoverage (some s)
  valid : t.isValid = s.isValid

section Parts

variable {s : Schedule}

theorem days_of_some {ds : List DayEntry} (hs : s.daysOfWeek = some ds) : s.days = ds := by
  rw [days, hs, Option.getD_some]

theorem isValid_eq_of_kindFaults {t : Schedule} (hb : t.blackouts = s.blackouts)
    (hk : t.kindFaults = [] ↔ s.kindFaults = []) : t.isValid = s.isValid := by
  rw [Bool.eq_iff_iff]
  simp only [isValid, List.isEmpty_iff, faults, List.append_eq_nil_iff, hk, blackoutFaults, hb]

theorem alike_withDays {ds es : List DayEntry} (hs : s.daysOfWeek = some ds)
    (hne : es.isEmpty = ds.isEmpty) (hon : ∀ now, onWeekday es now = onWeekday ds now)
    (hm : weeklyMinutes es = weeklyMinutes ds)
    (hw : (∀ e ∈ es, e.IsWellFormed) ↔ ∀ e ∈ ds, e.IsWellFormed) : s.Alike (s.withDays es) := by
  have hds : s.days = ds := days_of_some hs
  have hes : (s.withDays es).days = es := rfl
  refine ⟨fun now => ?_, ?_, isValid_eq_of_kindFaults rfl ?_⟩
  · simp only [Eligibility.isActive, isActive, isOpen, hds, hes, hne, hon]
    rfl
  · simp only [scheduleCoverage, coverage, hs, withDays, hm]
  · rw [kindFaults_eq_nil_iff, kindFaults_eq_nil_iff, hds, hes, ne_nil_congr hne, hw]
    rfl

theorem alike_withDates {ds es : List DateEntry} (hs : s.specificDates = some ds)
    (hne : es.isEmpty = ds.isEmpty) (hon : ∀ now, onListedDate es now = onListedDate ds now)
    (hw : (∀ e ∈ es, e.IsWellFormed) ↔ ∀ e ∈ ds, e.IsWellFormed) : s.Alike (s.withDates es) := by
  have hds : s.dates = ds := by rw [dates, hs, Option.getD_some]
  have hes : (s.withDates es).dates = es := rfl
  refine ⟨fun now => ?_, rfl, isValid_eq_of_kindFaults rfl ?_⟩
  · simp only [Eligibility.isActive, isActive, isOpen, hds, hes, hon]
    rfl
  · rw [kindFaults_eq_nil_iff, kindFaults_eq_nil_iff, hds, hes, ne_nil_congr hne, hw]
    rfl

end Parts

end Schedule

/-! ### Entries -/

section Entries

variable {ds es : List DayEntry}

/-- Names that are no weekday's may repeat. -/
theorem atMostOne_isFor (h : (ds.filterMap DayEntry.weekday?).Nodup) (d : Date) :
    AtMostOne (DayEntry.isFor d) ds := by
  refine (List.pairwise_filterMap.mp h).imp fun {e f} hef => ?_
  simp only [DayEntry.isFor, beq_iff_eq]
  rintro ⟨he, hf⟩
  exact hef d.weekday he d.weekday hf rfl

theorem dayEntry?_perm (h : (ds.filterMap DayEntry.weekday?).Nodup) (hp : ds.Perm es) (d : Date) :
    dayEntry? es d = dayEntry? ds d :=
  (atMostOne_isFor h d).find?_perm hp

theorem firstOpening_congr {now : Instant} (h : ∀ d, dayEntry? es d = dayEntry? ds d)
    (ks : List Nat) : firstOpening es now ks = firstOpening ds now ks := by
  have hon : ∀ k, openingOn es now k = openingOn ds now k := by
    intro k
    simp only [openingOn, h]
  induction ks with
  | nil => rfl
  | cons k ks ih => simp only [firstOpening, hon, ih]

theorem weeklyMinutes_perm (hp : ds.Perm es) :
    Schedule.weeklyMinutes es = Schedule.weeklyMinutes ds := by
  induction hp with
  | nil => rfl
  | cons e _ ih => rw [weeklyMinutes_cons, weeklyMinutes_cons, ih]
  | swap e f ds => simp only [weeklyMinutes_cons]; omega
  | trans _ _ ih ih' => exact ih'.trans ih

theorem dateEntry?_perm {ds es : List DateEntry} (h : (ds.map fun e => Text.trim e.date).Nodup)
    (hp : ds.Perm es) (d : Date) : dateEntry? es d = dateEntry? ds d :=
  (AtMostOne.of_nodup (fun e : DateEntry => Text.trim e.date) h d.text).find?_perm hp

end Entries

namespace Schedule

variable {s : Schedule}

theorem alike_of_perm_days {ds es : List DayEntry} (hs : s.daysOfWeek = some ds)
    (h : (ds.filterMap DayEntry.weekday?).Nodup) (hp : ds.Perm es) : s.Alike (s.withDays es) := by
  refine alike_withDays hs hp.symm.isEmpty_eq (fun now => ?_) (weeklyMinutes_perm hp) ?_
  · rw [onWeekday, onWeekday, dayEntry?_perm h hp]
  · simp only [hp.mem_iff]

theorem nextOpening_of_perm_days {ds es : List DayEntry} (hs : s.daysOfWeek = some ds)
    (h : (ds.filterMap DayEntry.weekday?).Nodup) (hp : ds.Perm es) (now : Instant) :
    (s.withDays es).nextOpening now = s.nextOpening now := by
  have hds : s.days = ds := days_of_some hs
  have hes : (s.withDays es).days = es := rfl
  have hne := ne_nil_congr hp.symm.isEmpty_eq
  have hopen : firstOpening es now (List.range searchDays) =
      firstOpening ds now (List.range searchDays) := firstOpening_congr (dayEntry?_perm h hp) _
  simp only [nextOpening, hds, hes, hne, hopen]
  rfl

theorem alike_of_perm_dates {ds es : List DateEntry} (hs : s.specificDates = some ds)
    (h : (ds.map fun e => Text.trim e.date).Nodup) (hp : ds.Perm es) : s.Alike (s.withDates es) := by
  refine alike_withDates hs hp.symm.isEmpty_eq (fun now => ?_) ?_
  · rw [onListedDate, onListedDate, dateEntry?_perm h hp]
  · simp only [hp.mem_iff]

end Schedule

/-! ### Periods -/

theorem anyPeriodHolds_perm {ps qs : List TimePeriod} (h : ps.Perm qs) (m : MinuteOfDay) :
    anyPeriodHolds qs m = anyPeriodHolds ps m := h.symm.any_eq

theorem periodMinutes_perm {ps qs : List TimePeriod} (h : ps.Perm qs) :
    periodMinutes qs = periodMinutes ps := by
  rw [← sum_durations, ← sum_durations]
  exact (h.map _).symm.sum_nat

theorem forall_of_forall₂ {α : Type} {r : α → α → Prop} {P : α → Prop} {xs ys : List α}
    (h : List.Forall₂ r xs ys) (hr : ∀ x y, r x y → (P y ↔ P x)) :
    (∀ y ∈ ys, P y) ↔ ∀ x ∈ xs, P x := by
  induction h with
  | nil => simp
  | cons hxy _ ih => simp only [List.forall_mem_cons, hr _ _ hxy, ih]

theorem isEmpty_of_forall₂ {α : Type} {r : α → α → Prop} {xs ys : List α}
    (h : List.Forall₂ r xs ys) : ys.isEmpty = xs.isEmpty := by
  cases h <;> rfl

structure DayEntry.Reordered (e f : DayEntry) : Prop where
  day : f.day = e.day
  enabled : f.enabled = e.enabled
  periods : e.periods.Perm f.periods

namespace DayEntry.Reordered

variable {e f : DayEntry} (h : e.Reordered f)

include h

theorem weekday?_eq : f.weekday? = e.weekday? := by
  unfold weekday?
  rw [h.day]

theorem duration_eq : f.duration = e.duration := by
  unfold duration
  rw [h.enabled, periodMinutes_perm h.periods]

theorem isWellFormed_iff : f.IsWellFormed ↔ e.IsWellFormed := by
  have hne := ne_nil_congr h.periods.symm.isEmpty_eq
  constructor
  · intro hf
    refine ⟨h.day ▸ hf.weekday, fun he => hne.mp (hf.nonempty (h.enabled.trans he)), fun he p hp => ?_⟩
    exact hf.periods (h.enabled.trans he) p (h.periods.mem_iff.mp hp)
  · intro he
    refine ⟨h.day ▸ he.weekday, fun hf => hne.mpr (he.nonempty (h.enabled ▸ hf)), fun hf p hp => ?_⟩
    exact he.periods (h.enabled ▸ hf) p (h.periods.mem_iff.mpr hp)

end DayEntry.Reordered

structure DateEntry.Reordered (e f : DateEntry) : Prop where
  date : f.date = e.date
  periods : e.periods.Perm f.periods

theorem DateEntry.Reordered.isWellFormed_iff {e f : DateEntry} (h : e.Reordered f) :
    f.IsWellFormed ↔ e.IsWellFormed := by
  constructor
  · intro hf
    exact ⟨h.date ▸ hf.date, fun p hp => hf.periods p (h.periods.mem_iff.mp hp)⟩
  · intro he
    exact ⟨h.date ▸ he.date, fun p hp => he.periods p (h.periods.mem_iff.mpr hp)⟩

theorem onWeekday_of_reordered {ds es : List DayEntry} (h : List.Forall₂ DayEntry.Reordered ds es)
    (now : Instant) : onWeekday es now = onWeekday ds now := by
  induction h with
  | nil => rfl
  | cons he _ ih =>
    rw [onWeekday_cons, onWeekday_cons, he.weekday?_eq, he.enabled, anyPeriodHolds_perm he.periods, ih]

theorem weeklyMinutes_of_reordered {ds es : List DayEntry}
    (h : List.Forall₂ DayEntry.Reordered ds es) :
    Schedule.weeklyMinutes es = Schedule.weeklyMinutes ds := by
  induction h with
  | nil => rfl
  | cons he _ ih => rw [weeklyMinutes_cons, weeklyMinutes_cons, he.duration_eq, ih]

theorem onListedDate_cons {dates : List DateEntry} {e : DateEntry} {now : Instant} :
    onListedDate (e :: dates) now =
      if Text.trim e.date = now.date.text then anyPeriodHolds e.periods now.minute
      else onListedDate dates now := by
  by_cases h : Text.trim e.date = now.date.text <;> simp [onListedDate, dateEntry?, h]

theorem onListedDate_of_reordered {ds es : List DateEntry}
    (h : List.Forall₂ DateEntry.Reordered ds es) (now : Instant) :
    onListedDate es now = onListedDate ds now := by
  induction h with
  | nil => rfl
  | cons he _ ih => rw [onListedDate_cons, onListedDate_cons, he.date, anyPeriodHolds_perm he.periods, ih]

/-- Entries for different weekdays, and entries for different dates, can be listed in any order, and so can
the periods of each entry. The order of the periods is left to the search alone. -/
theorem alike_of_reordered (s : Schedule) :
    (∀ ds es, s.daysOfWeek = some ds → (ds.filterMap DayEntry.weekday?).Nodup → ds.Perm es →
      s.Alike (s.withDays es) ∧
        ∀ now, nextOpening (some (s.withDays es)) now = nextOpening (some s) now) ∧
    (∀ ds es, s.specificDates = some ds → (ds.map fun e => Text.trim e.date).Nodup → ds.Perm es →
      s.Alike (s.withDates es) ∧
        ∀ now, nextOpening (some (s.withDates es)) now = nextOpening (some s) now) ∧
    (∀ ds es, s.daysOfWeek = some ds → List.Forall₂ DayEntry.Reordered ds es →
      s.Alike (s.withDays es)) ∧
    (∀ ds es, s.specificDates = some ds → List.Forall₂ DateEntry.Reordered ds es →
      s.Alike (s.withDates es)) := by
  refine ⟨fun ds es hs h hp => ?_, fun ds es hs h hp => ?_, fun ds es hs h => ?_,
    fun ds es hs h => ?_⟩
  · exact ⟨Schedule.alike_of_perm_days hs h hp, Schedule.nextOpening_of_perm_days hs h hp⟩
  · exact ⟨Schedule.alike_of_perm_dates hs h hp, fun now => rfl⟩
  · exact Schedule.alike_withDays hs (isEmpty_of_forall₂ h) (onWeekday_of_reordered h)
      (weeklyMinutes_of_reordered h) (forall_of_forall₂ h fun _ _ he => he.isWellFormed_iff)
  · exact Schedule.alike_withDates hs (isEmpty_of_forall₂ h) (onListedDate_of_reordered h)
      (forall_of_forall₂ h fun _ _ he => he.isWellFormed_iff)

def oddWeek : Schedule :=
  .onDays [⟨"someday", true, [.fullDay]⟩, ⟨"FRI", true, [⟨"18:00", "23:00"⟩, ⟨"22:00", "02:00"⟩]⟩,
    ⟨"someday", false, []⟩, ⟨"monday", false, []⟩]

def fridayEvening : Instant := { fridayMidnight with minute := ⟨1080, by decide⟩ }

theorem alike_of_reordered_oddWeek :
    nextOpening (some (oddWeek.withDays oddWeek.days.reverse)) wednesdayNine =
        .ok (some fridayEvening) ∧
      isActive (some (oddWeek.withDays oddWeek.days.reverse)) fridayEvening = true ∧
      oddWeek.Alike (oddWeek.withDays (oddWeek.days.map fun e =>
        { e with periods := e.periods.reverse })) ∧
      mayDays.Alike (mayDays.withDates mayDays.dates.reverse) ∧
      mayDays.Alike (mayDays.withDates (mayDays.dates.map fun e =>
        { e with periods := e.periods.reverse })) := by
  have hn : nextOpening (some oddWeek) wednesdayNine = .ok (some fridayEvening) := by rfl
  have hon : isActive (some oddWeek) fridayEvening = true := by decide +kernel
  have hnames : (oddWeek.days.filterMap DayEntry.weekday?).Nodup := by decide +kernel
  have hdates : (mayDays.dates.map fun e => Text.trim e.date).Nodup := by decide +kernel
  obtain ⟨hdays, -, hdayPeriods, -⟩ := alike_of_reordered oddWeek
  obtain ⟨-, hlisted, -, hlistedPeriods⟩ := alike_of_reordered mayDays
  obtain ⟨halike, hopening⟩ := hdays _ _ rfl hnames (List.reverse_perm oddWeek.days).symm
  refine ⟨(hopening wednesdayNine).trans hn, (halike.active fridayEvening).trans hon, ?_,
    (hlisted _ _ rfl hdates (List.reverse_perm mayDays.dates).symm).1, ?_⟩
  · refine hdayPeriods oddWeek.days _ rfl (List.forall₂_map_right_iff.mpr (List.forall₂_same.mpr ?_))
    exact fun e _ => ⟨rfl, rfl, (List.reverse_perm e.periods).symm⟩
  · refine hlistedPeriods mayDays.dates _ rfl
      (List.forall₂_map_right_iff.mpr (List.forall₂_same.mpr ?_))
    exact fun e _ => ⟨rfl, (List.reverse_perm e.periods).symm⟩

end Eligibility
