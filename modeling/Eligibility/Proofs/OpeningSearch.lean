import Eligibility.Proofs.ClockTimes
import Eligibility.Schedule.Opening

/-!
The search for the next opening, day by day and over its seven days. What one entry opens at is told by
the starts of its periods; what the search finds is told by the days before the one that it stops at.
-/

set_option autoImplicit false

namespace Eligibility

namespace Date

theorem addDays?_eq_some_iff {d d' : Date} {k : Int} :
    d.addDays? k = some d' ↔ d'.number = d.number + k := by
  unfold addDays? ofNumber?
  constructor
  · intro h
    split at h
    next => cases h; rfl
    next => cases h
  · intro h
    have hr := d'.inRange
    rw [h] at hr
    rw [dif_pos hr]
    cases d'
    simp_all

theorem addDays?_isSome_of_le {d : Date} {j k : Nat} (hjk : j ≤ k)
    (h : (d.addDays? k).isSome = true) : (d.addDays? j).isSome = true := by
  obtain ⟨d', hd'⟩ := Option.isSome_iff_exists.mp h
  have hn := addDays?_eq_some_iff.mp hd'
  have h₁ := d.inRange
  have h₂ := d'.inRange
  have hr : firstDay ≤ d.number + j ∧ d.number + j ≤ lastDay := by omega
  simp [addDays?, ofNumber?, hr]

end Date

theorem laterToday?_eq_some {periods : List TimePeriod} {now m : MinuteOfDay}
    (h : laterToday? periods now = some m) :
    ∃ before p after, periods = before ++ p :: after ∧ p.startMinutes = m.val ∧ now.val < m.val ∧
      ∀ q ∈ before, now.val < q.startMinutes → q.opening? = none := by
  induction periods with
  | nil => simp [laterToday?] at h
  | cons p ps ih =>
    by_cases hp : now.val < p.startMinutes
    · cases ho : p.opening? with
      | some m' =>
        have hm : m' = m := by simpa [laterToday?, hp, ho] using h
        subst hm
        have hs := Clock.minuteOfDay?_eq_some_iff.mp ho
        exact ⟨[], p, ps, rfl, hs, hs ▸ hp, by simp⟩
      | none =>
        obtain ⟨before, q, after, rfl, hq, hn, hb⟩ := ih (by simpa [laterToday?, hp, ho] using h)
        refine ⟨p :: before, q, after, rfl, hq, hn, ?_⟩
        simp only [List.forall_mem_cons]
        exact ⟨fun _ => ho, hb⟩
    · obtain ⟨before, q, after, rfl, hq, hn, hb⟩ := ih (by simpa [laterToday?, hp] using h)
      refine ⟨p :: before, q, after, rfl, hq, hn, ?_⟩
      simp only [List.forall_mem_cons]
      exact ⟨fun hlt => absurd hlt hp, hb⟩

theorem laterToday?_eq_none_iff {periods : List TimePeriod} {now : MinuteOfDay} :
    laterToday? periods now = none ↔
      ∀ p ∈ periods, now.val < p.startMinutes → p.opening? = none := by
  simp [laterToday?, List.findSome?_eq_none_iff]

namespace DayEntry

theorem opening?_eq_some {e : DayEntry} {k : Nat} {now m : MinuteOfDay}
    (h : e.opening? k now = some m) :
    e.enabled = true ∧ ∃ p ∈ e.periods, p.startMinutes = m.val ∧ (k = 0 → now.val < m.val) := by
  unfold opening? at h
  split at h
  next => cases h
  next he =>
    refine ⟨by simpa using he, ?_⟩
    split at h
    next hk =>
      obtain ⟨before, p, after, hps, hp, hn, -⟩ := laterToday?_eq_some h
      exact ⟨p, by simp [hps], hp, fun _ => hn⟩
    next hk =>
      obtain ⟨p, hp, ho⟩ := Option.bind_eq_some_iff.mp h
      exact ⟨p, List.mem_of_mem_head? hp, Clock.minuteOfDay?_eq_some_iff.mp ho,
        fun h0 => absurd h0 hk⟩

end DayEntry

section Search

variable {days : List DayEntry} {now : Instant}

theorem openingOn_eq_some_iff {k : Nat} {t : Instant} :
    openingOn days now k = .ok (some t) ↔ ∃ d e m, now.date.addDays? k = some d ∧
      dayEntry? days d = some e ∧ e.opening? k now.minute = some m ∧ t = .atMinute d m := by
  unfold openingOn
  constructor
  · intro h
    split at h
    next => cases h
    next d hd =>
      simp only [Except.ok.injEq, Option.bind_eq_bind, Option.bind_eq_some_iff] at h
      obtain ⟨e, he, m, hm, ht⟩ := h
      exact ⟨d, e, m, hd, he, hm, by simpa using ht.symm⟩
  · rintro ⟨d, e, m, hd, he, hm, rfl⟩
    simp [hd, he, hm]

theorem openingOn_eq_none_iff {k : Nat} :
    openingOn days now k = .ok none ↔ ∃ d, now.date.addDays? k = some d ∧
      ∀ e, dayEntry? days d = some e → e.opening? k now.minute = none := by
  unfold openingOn
  cases hd : now.date.addDays? k with
  | none => simp
  | some d =>
    cases he : dayEntry? days d with
    | none => simp [he]
    | some e => cases ho : e.opening? k now.minute <;> simp [he, ho]

theorem openingOn_isOk {k : Nat} (h : (now.date.addDays? k).isSome = true) :
    ∃ r, openingOn days now k = .ok r := by
  obtain ⟨d, hd⟩ := Option.isSome_iff_exists.mp h
  simp [openingOn, hd]

theorem firstOpening_eq_some {ks : List Nat} {t : Instant}
    (h : firstOpening days now ks = .ok (some t)) :
    ∃ before k after, ks = before ++ k :: after ∧ openingOn days now k = .ok (some t) ∧
      ∀ j ∈ before, openingOn days now j = .ok none := by
  induction ks with
  | nil => simp [firstOpening] at h
  | cons k ks ih =>
    unfold firstOpening at h
    split at h
    next => cases h
    next t' ht =>
      cases h
      exact ⟨[], k, ks, rfl, ht, by simp⟩
    next hn =>
      obtain ⟨before, j, after, rfl, hj, hb⟩ := ih h
      refine ⟨k :: before, j, after, rfl, hj, ?_⟩
      simp only [List.forall_mem_cons]
      exact ⟨hn, hb⟩

theorem firstOpening_eq_none {ks : List Nat} (h : firstOpening days now ks = .ok none) :
    ∀ k ∈ ks, openingOn days now k = .ok none := by
  induction ks with
  | nil => simp
  | cons k ks ih =>
    unfold firstOpening at h
    split at h
    next => cases h
    next => cases h
    next hn =>
      simp only [List.forall_mem_cons]
      exact ⟨hn, ih h⟩

theorem firstOpening_isOk {ks : List Nat} (h : ∀ k ∈ ks, (now.date.addDays? k).isSome = true) :
    ∃ r, firstOpening days now ks = .ok r := by
  induction ks with
  | nil => exact ⟨none, rfl⟩
  | cons k ks ih =>
    simp only [List.forall_mem_cons] at h
    have hone : ∃ r, openingOn days now k = .ok r := openingOn_isOk h.1
    obtain ⟨r, hr⟩ := hone
    cases r with
    | none => simpa [firstOpening, hr] using ih h.2
    | some t => exact ⟨some t, by simp [firstOpening, hr]⟩

end Search

namespace Schedule

/-- The opening that is found lies on the first day of the search that has one. -/
theorem nextOpening_eq_some {s : Schedule} {now t : Instant} (h : s.nextOpening now = .ok (some t)) :
    s.kind = some .daysAndTimes ∧ ∃ k < searchDays, openingOn s.days now k = .ok (some t) ∧
      ∀ j < k, openingOn s.days now j = .ok none := by
  unfold nextOpening at h
  split at h
  next hs =>
    obtain ⟨before, k, after, hks, hk, hb⟩ := firstOpening_eq_some h
    rw [List.range_eq_range', List.range'_eq_append_iff] at hks
    obtain ⟨n, hn, rfl, hafter⟩ := hks
    obtain ⟨hnk, hpos, -⟩ := List.range'_eq_cons_iff.mp hafter.symm
    refine ⟨hs.1, k, by omega, hk, fun j hj => hb j ?_⟩
    rw [List.mem_range']
    exact ⟨j, by omega, by omega⟩
  next => cases h

theorem nextOpening_eq_none {s : Schedule} {now : Instant} (hk : s.kind = some .daysAndTimes)
    (hd : s.days ≠ []) (h : s.nextOpening now = .ok none) :
    ∀ j < searchDays, openingOn s.days now j = .ok none := by
  rw [nextOpening, if_pos ⟨hk, hd⟩] at h
  exact fun j hj => firstOpening_eq_none h j (List.mem_range.mpr hj)

/-- The search ends when the last day that it may come to is in the calendar. -/
theorem nextOpening_isOk {now : Instant} (s : Schedule) (h : (now.date.addDays? 6).isSome = true) :
    ∃ r, s.nextOpening now = .ok r := by
  unfold nextOpening
  split
  next =>
    refine firstOpening_isOk fun k hk => Date.addDays?_isSome_of_le (k := 6) ?_ h
    have hlt : k < 7 := List.mem_range.mp hk
    omega
  next => exact ⟨none, rfl⟩

end Schedule

end Eligibility
