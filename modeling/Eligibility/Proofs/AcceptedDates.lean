import Eligibility.Proofs.DateTexts
import Eligibility.Proofs.DayLookup

/-!
The dates of an accepted schedule. Validation takes every text that reads as a date, and activity compares
texts, so a date that is accepted takes effect on its day when it is written in full and never when it is
not.
-/

set_option autoImplicit false

namespace Eligibility

namespace Schedule

variable {s : Schedule}

theorem read?_isSome_of_mem_blackouts (hv : s.isValid = true) {b : String} (hb : b ∈ s.blackouts) :
    ∃ d, Date.read? b = some d := by
  have hf : s.blackoutFaults = [] := (List.append_eq_nil_iff.mp (List.isEmpty_iff.mp hv)).2
  have hread : ∀ b ∈ s.blackouts, Date.read? b ≠ none := by
    simpa [blackoutFaults] using hf
  exact Option.ne_none_iff_exists'.mp (hread b hb)

theorem read?_isSome_of_mem_dates (hk : s.kind = some .specificDates) (hv : s.isValid = true)
    {e : DateEntry} (he : e ∈ s.dates) : ∃ d, Date.read? e.date = some d := by
  have hf : s.kindFaults = [] := (List.append_eq_nil_iff.mp (List.isEmpty_iff.mp hv)).1
  simp only [kindFaults, hk, List.append_eq_nil_iff, List.flatMap_eq_nil_iff] at hf
  have hread : Date.read? e.date ≠ none := by
    intro hn
    simpa [DateEntry.faults, hn] using hf.2 e he
  exact Option.ne_none_iff_exists'.mp hread

theorem isActive_eq_false_of_mem {b : String} {t : Instant} (hb : b ∈ s.blackouts)
    (ht : Text.trim b = t.date.text) : s.isActive t = false := by
  have hlist : s.isBlackedOut t.date = true := by
    simp only [isBlackedOut, listsDate, List.any_eq_true, beq_iff_eq]
    exact ⟨b, hb, ht⟩
  simp [isActive, hlist]

end Schedule

theorem listsDate_eq_false_of_not_isFullText {b : String} (h : ¬ Date.IsFullText b) (d : Date) :
    listsDate [b] d = false := by
  have hne : Text.trim b ≠ d.text := fun he => h (Date.isFullText_of_trim_eq he)
  simp [listsDate, hne]

section OneEntry

variable {e : DateEntry} {t : Instant}

theorem onListedDate_singleton_iff :
    onListedDate [e] t = true ↔ e.IsOpen t := by
  rw [onListedDate_iff_isFirst]
  have hone : AtMostOne (DateEntry.isFor t.date) [e] := List.pairwise_singleton _ _
  rw [hone.exists_isFirst_iff fun _ => DateEntry.isFor_of_isOpen]
  simp

theorem onListedDate_singleton_eq_false (h : ¬ Date.IsFullText e.date) :
    onListedDate [e] t = false := by
  rw [Bool.eq_false_iff]
  intro hon
  exact h (Date.isFullText_of_trim_eq (onListedDate_singleton_iff.mp hon).1)

end OneEntry

/-- The dates of a valid schedule can be read. A blackout that is written in full takes effect on the day
that it is read as, and so does the only entry of a list of dates; one that is not written in full takes
effect on no day at all. -/
theorem dates_take_effect_iff_full (s : Schedule) (hv : s.isValid = true) :
    (∀ b ∈ s.blackouts, ∃ d, Date.read? b = some d ∧
      (Date.IsFullText b → ∀ t : Instant, t.date = d → isActive (some s) t = false) ∧
      (¬ Date.IsFullText b → ∀ d', listsDate [b] d' = false)) ∧
    (∀ e, s.kind = some .specificDates → s.dates = [e] → ∃ d, Date.read? e.date = some d ∧
      (Date.IsFullText e.date → ∀ t : Instant, t.date = d →
        (onListedDate s.dates t = true ↔ ∃ p ∈ e.periods, p.range.contains t.minute.val = true)) ∧
      (¬ Date.IsFullText e.date → ∀ t, onListedDate s.dates t = false)) := by
  constructor
  · intro b hb
    obtain ⟨d, hd⟩ := Schedule.read?_isSome_of_mem_blackouts hv hb
    refine ⟨d, hd, fun hf t ht => ?_, listsDate_eq_false_of_not_isFullText⟩
    subst ht
    exact Schedule.isActive_eq_false_of_mem hb ((Date.trim_eq_text_iff hd).mpr hf)
  · intro e hk he
    obtain ⟨d, hd⟩ := Schedule.read?_isSome_of_mem_dates hk hv (e := e) (by simp [he])
    rw [he]
    refine ⟨d, hd, fun hf t ht => ?_, fun hn t => onListedDate_singleton_eq_false hn⟩
    subst ht
    have htext := (Date.trim_eq_text_iff hd).mpr hf
    rw [onListedDate_singleton_iff]
    exact ⟨fun ho => ho.2, fun hp => ⟨htext, hp⟩⟩

/-- The first of May, but not the day after it. -/
def mayDayOnly : Schedule :=
  { Schedule.onDates [⟨" 2026-05-01", [⟨"13:00", "17:00"⟩]⟩] with blackoutDates := some ["2026-05-02 "] }

def dayAfter : Instant := .atMinute ⟨20575, by decide⟩ mayDayAfternoon.minute

theorem dates_take_effect_iff_full_may :
    mayDayOnly.isValid = true ∧ onListedDate mayDayOnly.dates mayDayAfternoon = true ∧
      isActive (some mayDayOnly) dayAfter = false := by
  have hv : mayDayOnly.isValid = true := by decide +kernel
  have hfirst : Date.read? " 2026-05-01" = some mayDayAfternoon.date := by decide +kernel
  have hsecond : Date.read? "2026-05-02 " = some dayAfter.date := by decide +kernel
  obtain ⟨hblack, hdates⟩ := dates_take_effect_iff_full mayDayOnly hv
  obtain ⟨d, hd, hoff, -⟩ := hblack "2026-05-02 " (by decide)
  obtain ⟨d', hd', hon, -⟩ := hdates ⟨" 2026-05-01", [⟨"13:00", "17:00"⟩]⟩ rfl rfl
  obtain rfl : d = dayAfter.date := Option.some.inj (hd.symm.trans hsecond)
  obtain rfl : d' = mayDayAfternoon.date := Option.some.inj (hd'.symm.trans hfirst)
  have hfull : Date.IsFullText " 2026-05-01" :=
    (Date.trim_eq_text_iff hfirst).mp (by decide +kernel)
  have hfull' : Date.IsFullText "2026-05-02 " :=
    (Date.trim_eq_text_iff hsecond).mp (by decide +kernel)
  exact ⟨hv, (hon hfull mayDayAfternoon rfl).mpr (by decide +kernel), hoff hfull' dayAfter rfl⟩

def mayDayUnpadded : Schedule :=
  { Schedule.onDates [⟨"2026-5-1", [⟨"13:00", "17:00"⟩]⟩] with blackoutDates := some ["2026-5-2"] }

/-- Every day but the second of May, which is written without the zeros in front. -/
def notOnSecondOfMay : Schedule :=
  { Schedule.alwaysOn with blackoutDates := some ["2026-5-2"] }

/-- A date that is accepted may take no effect, neither as a blackout nor as an entry. -/
theorem not_dates_take_effect :
    (¬ ∀ (s : Schedule) (b : String) (t : Instant), s.isValid = true → b ∈ s.blackouts →
      Date.read? b = some t.date → isActive (some s) t = false) ∧
    (¬ ∀ (s : Schedule) (e : DateEntry) (t : Instant), s.isValid = true →
      s.kind = some .specificDates → s.dates = [e] → Date.read? e.date = some t.date →
      (∃ p ∈ e.periods, p.range.contains t.minute.val = true) → onListedDate s.dates t = true) := by
  constructor
  · intro h
    have hon : isActive (some notOnSecondOfMay) dayAfter = true := by decide +kernel
    have hoff := h notOnSecondOfMay "2026-5-2" dayAfter (by decide +kernel) (by decide)
      (by decide +kernel)
    rw [hon] at hoff
    cases hoff
  · intro h
    have hoff : onListedDate mayDayUnpadded.dates mayDayAfternoon = false := by decide +kernel
    have hon := h mayDayUnpadded ⟨"2026-5-1", [⟨"13:00", "17:00"⟩]⟩ mayDayAfternoon
      (by decide +kernel) rfl rfl (by decide +kernel) (by decide +kernel)
    rw [hoff] at hon
    cases hon

end Eligibility
