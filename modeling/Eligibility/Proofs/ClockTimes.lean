import Eligibility.Schedule.Clock

/-!
Strict times of day. The texts that are read strictly are those that minutes of the day are written as, each
of them for its own minute, and the lenient reading gives the same minute.
-/

set_option autoImplicit false

namespace Eligibility

namespace Text

theorem dropWhile_isBlank {cs : List Char} (h : ∀ c ∈ cs, isBlank c = false) :
    cs.dropWhile isBlank = cs := by
  cases cs with
  | nil => rfl
  | cons c cs => simp [h c]

theorem trimmed_eq_self {cs : List Char} (h : ∀ c ∈ cs, isBlank c = false) : trimmed cs = cs := by
  rw [trimmed, dropWhile_isBlank h, dropWhile_isBlank (by simpa using h), List.reverse_reverse]

theorem trim_surrounded {before after s : String} (hb : allBlank before = true)
    (ha : allBlank after = true) (hs : ∀ c ∈ s.toList, isBlank c = false) :
    trim (before ++ s ++ after) = s := by
  have hb : ∀ c ∈ before.toList, isBlank c = true := List.all_eq_true.mp hb
  have ha : ∀ c ∈ after.toList, isBlank c = true := List.all_eq_true.mp ha
  have hfront : (before.toList ++ (s.toList ++ after.toList)).dropWhile isBlank =
      (s.toList ++ after.toList).dropWhile isBlank := List.dropWhile_append_of_pos hb
  have hback : ((s.toList ++ after.toList).dropWhile isBlank).reverse.dropWhile isBlank =
      s.toList.reverse := by
    cases hcs : s.toList with
    | nil =>
      have hnone : (after.toList ++ []).dropWhile isBlank = [] := List.dropWhile_append_of_pos ha
      rw [List.append_nil] at hnone
      simp [hnone]
    | cons c cs =>
      rw [hcs] at hs
      have hstop : (c :: cs ++ after.toList).dropWhile isBlank = c :: cs ++ after.toList := by
        simp [hs c]
      rw [hstop, List.reverse_append, List.dropWhile_append_of_pos (by simpa using ha),
        dropWhile_isBlank fun d hd => hs d (List.mem_reverse.mp hd)]
  rw [trim, String.toList_append, String.toList_append, List.append_assoc, trimmed, hfront, hback,
    List.reverse_reverse, String.ofList_toList]

end Text

namespace Clock

theorem digit_bounds {c : Char} (h : c.isDigit = true) : 48 ≤ c.toNat ∧ c.toNat ≤ 57 := by
  simp only [Char.isDigit, Bool.and_eq_true, decide_eq_true_eq] at h
  exact h

theorem digitValue_lt {c : Char} (h : c.isDigit = true) : Binary64.digitValue c < 10 := by
  have hb := digit_bounds h
  have h₀ : '0'.toNat = 48 := rfl
  unfold Binary64.digitValue
  omega

theorem digitChar_digitValue {c : Char} (h : c.isDigit = true) :
    Nat.digitChar (Binary64.digitValue c) = c := by
  have h₀ : '0'.toNat = 48 := rfl
  have hc : c = Char.ofNat (48 + Binary64.digitValue c) := by
    rw [Binary64.digitValue, h₀, Nat.add_sub_cancel' (digit_bounds h).1, Char.ofNat_toNat]
  have hall : ∀ k < 10, Nat.digitChar k = Char.ofNat (48 + k) := by decide
  rw [hall _ (digitValue_lt h), ← hc]

theorem padded_two {n : Nat} (h : n < 100) :
    Calendar.padded 2 n = [Nat.digitChar (n / 10), Nat.digitChar (n % 10)] := by
  unfold Calendar.padded
  by_cases hn : n < 10
  · rw [Nat.toDigits_of_lt_base hn, Nat.div_eq_of_lt hn, Nat.mod_eq_of_lt hn]
    rfl
  · have hd : n / 10 < 10 := by omega
    rw [Nat.toDigits_of_base_le (by decide) (by omega), Nat.toDigits_of_lt_base hd]
    rfl

theorem padded_twoDigits {a b : Char} (ha : a.isDigit = true) (hb : b.isDigit = true) :
    Calendar.padded 2 (twoDigits a b) = [a, b] := by
  have h₁ := digitValue_lt ha
  have h₂ := digitValue_lt hb
  have hd : twoDigits a b / 10 = Binary64.digitValue a := by unfold twoDigits; omega
  have hm : twoDigits a b % 10 = Binary64.digitValue b := by unfold twoDigits; omega
  rw [padded_two (by unfold twoDigits; omega), hd, hm, digitChar_digitValue ha,
    digitChar_digitValue hb]

theorem strictMinutes_eq_ok_iff {s : String} {m : Nat} :
    strictMinutes s = .ok m ↔ ∃ a b c d, s.toList = [a, b, ':', c, d] ∧
      (a.isDigit = true ∧ b.isDigit = true ∧ c.isDigit = true ∧ d.isDigit = true) ∧
      twoDigits a b < 24 ∧ twoDigits c d < 60 ∧ m = twoDigits a b * 60 + twoDigits c d := by
  constructor
  · intro h
    unfold strictMinutes at h
    split at h
    next a b c d hs =>
      split at h
      next hd =>
        split at h
        next => cases h
        next hh =>
          split at h
          next => cases h
          next hm =>
            simp only [Bool.and_eq_true, and_assoc] at hd
            cases h
            exact ⟨a, b, c, d, hs, hd, by omega, by omega, rfl⟩
      next => cases h
    next => cases h
  · rintro ⟨a, b, c, d, hs, ⟨ha, hb, hc, hd⟩, hh, hm, rfl⟩
    unfold strictMinutes
    rw [hs]
    simp [ha, hb, hc, hd, Nat.not_le.mpr hh, Nat.not_le.mpr hm]

theorem lt_of_strictMinutes {s : String} {m : Nat} (h : strictMinutes s = .ok m) :
    m < minutesPerDay := by
  obtain ⟨a, b, c, d, -, -, hh, hm, rfl⟩ := strictMinutes_eq_ok_iff.mp h
  unfold minutesPerDay
  omega

theorem eq_text_of_strictMinutes {s : String} {m : Nat} (h : strictMinutes s = .ok m) :
    s = text ⟨m, lt_of_strictMinutes h⟩ := by
  obtain ⟨a, b, c, d, hs, ⟨ha, hb, hc, hd⟩, hh, hm, rfl⟩ := strictMinutes_eq_ok_iff.mp h
  have hdiv : (twoDigits a b * 60 + twoDigits c d) / 60 = twoDigits a b := by omega
  have hmod : (twoDigits a b * 60 + twoDigits c d) % 60 = twoDigits c d := by omega
  rw [text, hdiv, hmod, padded_twoDigits ha hb, padded_twoDigits hc hd, ← String.ofList_toList (s := s),
    hs]
  rfl

theorem strictMinutes_injective {s t : String} {m : Nat} (hs : strictMinutes s = .ok m)
    (ht : strictMinutes t = .ok m) : s = t :=
  (eq_text_of_strictMinutes hs).trans (eq_text_of_strictMinutes ht).symm

theorem isBlank_of_isDigit {c : Char} (h : c.isDigit = true) : Text.isBlank c = false := by
  have hb := digit_bounds h
  simp only [Text.isBlank]
  grind

theorem lenientNumber_twoDigits {a b : Char} (ha : a.isDigit = true) (hb : b.isDigit = true) :
    lenientNumber [a, b] = twoDigits a b := by
  have ht : Text.trimmed [a, b] = [a, b] :=
    Text.trimmed_eq_self (by simp [isBlank_of_isDigit ha, isBlank_of_isDigit hb])
  have hplus : a ≠ '+' := by rintro rfl; exact absurd ha (by decide)
  have hn : Binary64.digitsValue 0 [a, b] = twoDigits a b := by
    simp [Binary64.digitsValue, twoDigits]
  have hlt : ¬ largest < twoDigits a b := by
    have h₁ := digitValue_lt ha
    have h₂ := digitValue_lt hb
    unfold largest twoDigits
    omega
  simp [lenientNumber, ht, hplus, hn, ha, hb, hlt]

theorem lenientMinutes_of_strictMinutes {s : String} {m : Nat} (h : strictMinutes s = .ok m) :
    lenientMinutes s = m := by
  obtain ⟨a, b, c, d, hs, ⟨ha, hb, hc, hd⟩, hh, hm, rfl⟩ := strictMinutes_eq_ok_iff.mp h
  have ht : Text.trimmed s.toList = [a, b, ':', c, d] := by
    rw [hs]
    refine Text.trimmed_eq_self ?_
    simp [isBlank_of_isDigit, ha, hb, hc, hd]
    decide
  have hna : a ≠ ':' := by rintro rfl; exact absurd ha (by decide)
  have hnb : b ≠ ':' := by rintro rfl; exact absurd hb (by decide)
  simp only [lenientMinutes, ht]
  simp [hna, hnb, lenientNumber_twoDigits ha hb, lenientNumber_twoDigits hc hd, capped, largest]
  omega

theorem minuteOfDay?_eq_some_iff {n : Nat} {m : MinuteOfDay} :
    minuteOfDay? n = some m ↔ n = m.val := by
  unfold minuteOfDay?
  constructor
  · intro h
    split at h
    next => cases h; rfl
    next => cases h
  · rintro rfl
    simp [m.isLt]

theorem isDigit_digitChar {n : Nat} (h : n < 10) : (Nat.digitChar n).isDigit = true := by
  simp [Nat.isDigit_digitChar, h]

theorem digitValue_digitChar {n : Nat} (h : n < 10) : Binary64.digitValue (Nat.digitChar n) = n := by
  have h₀ : '0'.toNat = 48 := rfl
  rw [Binary64.digitValue, Nat.toNat_digitChar_of_lt_ten h, h₀]
  omega

theorem twoDigits_digitChar {n : Nat} (h : n < 100) :
    twoDigits (Nat.digitChar (n / 10)) (Nat.digitChar (n % 10)) = n := by
  rw [twoDigits, digitValue_digitChar (by omega), digitValue_digitChar (by omega)]
  omega

theorem strictMinutes_text (m : MinuteOfDay) : strictMinutes (text m) = .ok m.val := by
  have hm : m.val < 1440 := m.isLt
  have hhour : m.val / 60 < 24 := by omega
  have hminute : m.val % 60 < 60 := by omega
  have hs : (text m).toList = [Nat.digitChar (m.val / 60 / 10), Nat.digitChar (m.val / 60 % 10), ':',
      Nat.digitChar (m.val % 60 / 10), Nat.digitChar (m.val % 60 % 10)] := by
    rw [text, String.toList_ofList, padded_two (by omega), padded_two (by omega)]
    rfl
  refine strictMinutes_eq_ok_iff.mpr ⟨_, _, _, _, hs, ⟨?_, ?_, ?_, ?_⟩, ?_⟩
  · exact isDigit_digitChar (by omega)
  · exact isDigit_digitChar (by omega)
  · exact isDigit_digitChar (by omega)
  · exact isDigit_digitChar (by omega)
  · rw [twoDigits_digitChar (by omega), twoDigits_digitChar (by omega)]
    omega

/-- A text is read strictly when it is two digits, a colon and two digits, in range. What is read is a
minute of the day, the lenient reading gives it too, and the text is the one that the minute is written
as; the text of every minute is read. -/
theorem strictMinutes_clockTexts (s : String) :
    ((∃ m, strictMinutes s = .ok m) ↔ ∃ a b c d, s.toList = [a, b, ':', c, d] ∧
      (a.isDigit = true ∧ b.isDigit = true ∧ c.isDigit = true ∧ d.isDigit = true) ∧
      twoDigits a b < 24 ∧ twoDigits c d < 60) ∧
    (∀ m, strictMinutes s = .ok m → m < minutesPerDay ∧ lenientMinutes s = m ∧
      ∃ clock, minuteOfDay? m = some clock ∧ text clock = s) ∧
    ∀ m (h : m < minutesPerDay), strictMinutes (text ⟨m, h⟩) = .ok m := by
  refine ⟨⟨?_, ?_⟩, fun m h => ?_, fun m h => strictMinutes_text ⟨m, h⟩⟩
  · rintro ⟨m, h⟩
    obtain ⟨a, b, c, d, hs, hd, hh, hm, -⟩ := strictMinutes_eq_ok_iff.mp h
    exact ⟨a, b, c, d, hs, hd, hh, hm⟩
  · rintro ⟨a, b, c, d, hs, hd, hh, hm⟩
    exact ⟨_, strictMinutes_eq_ok_iff.mpr ⟨a, b, c, d, hs, hd, hh, hm, rfl⟩⟩
  · have hlt := lt_of_strictMinutes h
    refine ⟨hlt, lenientMinutes_of_strictMinutes h, ⟨m, hlt⟩, ?_, ?_⟩
    · exact minuteOfDay?_eq_some_iff.mpr rfl
    · exact (eq_text_of_strictMinutes h).symm

theorem strictMinutes_clockTexts_lastMinute :
    strictMinutes "23:59" = .ok 1439 ∧ lenientMinutes "23:59" = 1439 ∧
      (∃ clock, minuteOfDay? 1439 = some clock ∧ text clock = "23:59") ∧
      strictMinutes (text ⟨1439, by decide⟩) = .ok 1439 := by
  have hread : strictMinutes "23:59" = .ok 1439 := by rfl
  obtain ⟨-, hminute, htext⟩ := strictMinutes_clockTexts "23:59"
  obtain ⟨-, hlenient, hclock⟩ := hminute 1439 hread
  exact ⟨hread, hlenient, hclock, htext 1439 (by decide)⟩

end Clock

end Eligibility
