import Mathlib.Tactic.IntervalCases
import Eligibility.Proofs.ClockTimes

/-!
Dates as text. A civil date that is a day has its day number to itself, and a date that is written in full
is read as the date that it writes. Reading takes more texts than writing makes: `WrittenInFull` tells those
apart that writing makes, without mention of a date.
-/

set_option autoImplicit false

namespace Eligibility

namespace CivilDate

theorem daysBefore_le {y z : Int} (h : y ≤ z) : daysBefore y ≤ daysBefore z := by
  unfold daysBefore
  omega

theorem marchYear_eq {y z : Int} (h : daysBefore y ≤ z) (h' : z < daysBefore (y + 1)) :
    marchYear z = y := by
  obtain ⟨h₁, h₂⟩ := daysBefore_marchYear z
  by_cases hlt : marchYear z < y
  · have hle := daysBefore_le (y := marchYear z + 1) (z := y) (by omega)
    omega
  · by_cases hgt : y < marchYear z
    · have hle := daysBefore_le (y := y + 1) (z := marchYear z) (by omega)
      omega
    · omega

theorem ofMarch_monthStart {y m d : Int} (hd : 1 ≤ d) (hd' : d ≤ monthStart (m + 1) - monthStart m) :
    ofMarch y (monthStart m + d - 1) =
      ⟨if 10 ≤ m then y + 1 else y, (if 10 ≤ m then m - 9 else m + 3).toNat, d.toNat⟩ := by
  have hm : (5 * (monthStart m + d - 1) + 2) / 153 = m := by
    unfold monthStart at *
    omega
  have hday : monthStart m + d - 1 - monthStart m + 1 = d := by omega
  simp only [ofMarch, hm, hday]

def inMarchYear (c : CivilDate) : Int := if c.month ≤ 2 then c.year - 1 else c.year

def marchMonth (c : CivilDate) : Int := if c.month ≤ 2 then c.month + 9 else c.month - 3

theorem dayNumber_eq (c : CivilDate) :
    c.dayNumber = daysBefore c.inMarchYear + (monthStart c.marchMonth + c.day - 1) + marchZero := by
  simp only [dayNumber, inMarchYear, marchMonth]
  omega

section Day

variable {c : CivilDate} (h : c.IsDay)

include h

/-- A month is not longer than the way to the start of the next, and the last one ends with its year. -/
theorem day_le : (c.day : Int) ≤ monthStart (c.marchMonth + 1) - monthStart c.marchMonth ∧
    monthStart c.marchMonth + c.day ≤ daysBefore (c.inMarchYear + 1) - daysBefore c.inMarchYear := by
  obtain ⟨year, month, day⟩ := c
  obtain ⟨hm, hm', -, hd⟩ := h
  dsimp only at hm hm' hd
  have hyear : 365 ≤ daysBefore (year + 1) - daysBefore year := by unfold daysBefore; omega
  have hbefore : 365 ≤ daysBefore (year - 1 + 1) - daysBefore (year - 1) := by unfold daysBefore; omega
  have hleap : isLeap year = true → 366 ≤ daysBefore (year - 1 + 1) - daysBefore (year - 1) := by
    simp only [isLeap, daysBefore, Bool.and_eq_true, Bool.or_eq_true, decide_eq_true_eq]
    omega
  cases hl : isLeap year <;> interval_cases month <;>
    simp [monthLength, marchMonth, inMarchYear, monthStart, hl] at * <;> omega

theorem ofDayNumber_dayNumber : ofDayNumber c.dayNumber = c := by
  obtain ⟨hlen, hend⟩ := day_le h
  obtain ⟨hm, hm', hd, -⟩ := h
  have hz : c.dayNumber - marchZero = daysBefore c.inMarchYear + (monthStart c.marchMonth + c.day - 1) := by
    rw [dayNumber_eq]
    omega
  have hstart : 0 ≤ monthStart c.marchMonth := by
    unfold monthStart marchMonth
    split <;> omega
  have hy : marchYear (c.dayNumber - marchZero) = c.inMarchYear := by
    rw [hz]
    exact marchYear_eq (by omega) (by omega)
  have hrest : c.dayNumber - marchZero - daysBefore c.inMarchYear =
      monthStart c.marchMonth + c.day - 1 := by omega
  rw [ofDayNumber, hy, hrest, ofMarch_monthStart (by omega) hlen]
  obtain ⟨year, month, day⟩ := c
  simp only [inMarchYear, marchMonth, Int.toNat_natCast, CivilDate.mk.injEq, and_true] at *
  omega

end Day

end CivilDate

namespace Calendar

section Digits

variable {ds es : List Char}

theorem digitsValue_cons (c : Char) (ds : List Char) :
    Binary64.digitsValue 0 (c :: ds) =
      10 ^ ds.length * Binary64.digitValue c + Binary64.digitsValue 0 ds := by
  have h : Nat.ofDigitChars 10 ds (Binary64.digitValue c) =
      10 ^ ds.length * Binary64.digitValue c + Nat.ofDigitChars 10 ds 0 :=
    Nat.ofDigitChars_eq_ofDigitChars_zero
  simpa [Binary64.digitsValue, Nat.ofDigitChars, Binary64.digitValue] using h

theorem digitsValue_lt (h : ∀ c ∈ ds, c.isDigit = true) :
    Binary64.digitsValue 0 ds < 10 ^ ds.length := by
  induction ds with
  | nil => simp [Binary64.digitsValue]
  | cons c ds ih =>
    simp only [List.forall_mem_cons] at h
    have hc := Clock.digitValue_lt h.1
    have hds := ih h.2
    rw [digitsValue_cons, List.length_cons, Nat.pow_succ]
    have hle : 10 ^ ds.length * Binary64.digitValue c ≤ 10 ^ ds.length * 9 :=
      Nat.mul_le_mul_left _ (by omega)
    omega

theorem digitsValue_pos_iff (h : ∀ c ∈ ds, c.isDigit = true) :
    0 < Binary64.digitsValue 0 ds ↔ ∃ c ∈ ds, c ≠ '0' := by
  induction ds with
  | nil => simp [Binary64.digitsValue]
  | cons c ds ih =>
    simp only [List.forall_mem_cons] at h
    have hc : Binary64.digitValue c = 0 ↔ c = '0' := by
      constructor
      · intro h0
        rw [← Clock.digitChar_digitValue h.1, h0]
        rfl
      · rintro rfl
        rfl
    have hpow : 10 ^ ds.length * Binary64.digitValue c = 0 ↔ c = '0' := by
      rw [Nat.mul_eq_zero, hc]
      simp
    simp only [List.mem_cons, exists_eq_or_imp]
    rw [digitsValue_cons, ← ih h.2, Ne, ← hpow]
    omega

theorem eq_of_digitsValue_eq (hd : ∀ c ∈ ds, c.isDigit = true) (he : ∀ c ∈ es, c.isDigit = true)
    (hlen : ds.length = es.length) (h : Binary64.digitsValue 0 ds = Binary64.digitsValue 0 es) :
    ds = es := by
  induction ds generalizing es with
  | nil => exact (List.length_eq_zero_iff.mp hlen.symm).symm
  | cons c ds ih =>
    obtain ⟨e, es, rfl⟩ := List.exists_cons_of_length_eq_add_one hlen.symm
    simp only [List.forall_mem_cons, List.length_cons, Nat.add_right_cancel_iff] at hd he hlen
    rw [digitsValue_cons, digitsValue_cons, hlen] at h
    have hds := digitsValue_lt hd.2
    have hes := digitsValue_lt he.2
    rw [hlen] at hds
    have hv : Binary64.digitValue c = Binary64.digitValue e := by
      have h₁ := congrArg (· / 10 ^ es.length) h
      simpa [Nat.mul_add_div, Nat.div_eq_of_lt hds, Nat.div_eq_of_lt hes] using h₁
    have hrest : ds = es := ih hd.2 he.2 hlen (by rw [hv] at h; omega)
    rw [← Clock.digitChar_digitValue hd.1, ← Clock.digitChar_digitValue he.1, hv, hrest]

variable {w n : Nat}

theorem isDigit_of_mem_padded {c : Char} (h : c ∈ padded w n) : c.isDigit = true := by
  unfold padded at h
  rcases List.mem_append.mp h with h | h
  · rw [(List.mem_replicate.mp h).2]
    decide
  · exact Nat.isDigit_of_mem_toDigits (by decide) (by decide) h

theorem isBlank_of_mem_padded {c : Char} (h : c ∈ padded w n) : Text.isBlank c = false :=
  Clock.isBlank_of_isDigit (isDigit_of_mem_padded h)

theorem length_padded (w n : Nat) : (padded w n).length = max w (Nat.toDigits 10 n).length := by
  simp only [padded, List.length_append, List.length_replicate]
  omega

theorem length_padded_le_iff (hw : 0 < w) : (padded w n).length ≤ w ↔ n < 10 ^ w := by
  rw [length_padded, ← Nat.length_toDigits_le_iff (b := 10) (by decide) hw]
  omega

theorem digitsValue_padded (w n : Nat) : Binary64.digitsValue 0 (padded w n) = n := by
  have h : Nat.ofDigitChars 10 (padded w n) 0 = n := by
    rw [padded, Nat.ofDigitChars_append, Nat.ofDigitChars_replicate_zero, Nat.mul_zero,
      Nat.ofDigitChars_ten_toDigits]
  exact h

/-- Digits, as many as the width, or more of them without a zero in front. -/
def IsPadded (w : Nat) (ds : List Char) : Prop :=
  (∀ c ∈ ds, c.isDigit = true) ∧ (ds.length = w ∨ w < ds.length ∧ ds.head? ≠ some '0')

theorem length_toDigits_digitsValue (hw : 0 < w) (h : IsPadded w ds) :
    max w (Nat.toDigits 10 (Binary64.digitsValue 0 ds)).length = ds.length := by
  obtain ⟨hd, hlen⟩ := h
  have hlt := digitsValue_lt hd
  rcases hlen with hlen | ⟨hlen, hhead⟩
  · have hle := (Nat.length_toDigits_le_iff (by decide) hw).mpr (hlen ▸ hlt)
    omega
  · have hle := (Nat.length_toDigits_le_iff (b := 10) (by decide) (by omega)).mpr hlt
    cases ds with
    | nil => simp at hlen
    | cons c ds =>
      have hc : 0 < Binary64.digitValue c := by
        rcases Nat.eq_zero_or_pos (Binary64.digitValue c) with h0 | hpos
        · have hz := Clock.digitChar_digitValue (hd c (by simp))
          rw [h0] at hz
          exact absurd (congrArg some hz.symm) hhead
        · exact hpos
      have hge : 10 ^ ds.length ≤ Binary64.digitsValue 0 (c :: ds) := by
        rw [digitsValue_cons]
        have hmul := Nat.le_mul_of_pos_right (10 ^ ds.length) hc
        omega
      by_cases hshort : (Nat.toDigits 10 (Binary64.digitsValue 0 (c :: ds))).length ≤ ds.length
      · have hpos : 0 < ds.length := by simp only [List.length_cons] at hlen; omega
        have hlt' := (Nat.length_toDigits_le_iff (by decide) hpos).mp hshort
        omega
      · simp only [List.length_cons] at *
        omega

theorem padded_digitsValue (hw : 0 < w) (h : IsPadded w ds) :
    padded w (Binary64.digitsValue 0 ds) = ds := by
  refine eq_of_digitsValue_eq (fun c hc => isDigit_of_mem_padded hc) h.1 ?_ (digitsValue_padded _ _)
  rw [length_padded, length_toDigits_digitsValue hw h]

theorem isPadded_padded (hw : 0 < w) (n : Nat) : IsPadded w (padded w n) := by
  refine ⟨fun c hc => isDigit_of_mem_padded hc, ?_⟩
  by_cases hn : (Nat.toDigits 10 n).length ≤ w
  · exact .inl (by rw [length_padded]; omega)
  · refine .inr ⟨by rw [length_padded]; omega, ?_⟩
    have hp : padded w n = Nat.toDigits 10 n := by
      have h0 : w - (Nat.toDigits 10 n).length = 0 := by omega
      simp [padded, h0]
    rw [hp]
    intro hzero
    obtain ⟨ds, hds⟩ := List.head?_eq_some_iff.mp hzero
    have hv : Binary64.digitsValue 0 ds = n := by
      have hn' := digitsValue_padded w n
      rw [hp, hds, digitsValue_cons] at hn'
      simpa [Binary64.digitValue] using hn'
    have hdig : ∀ c ∈ ds, c.isDigit = true := by
      intro c hc
      refine isDigit_of_mem_padded (w := w) (n := n) ?_
      rw [hp, hds]
      exact List.mem_cons_of_mem _ hc
    have hlt := digitsValue_lt hdig
    rw [hv] at hlt
    have hlen : (Nat.toDigits 10 n).length = ds.length + 1 := by simp [hds]
    have hle := (Nat.length_toDigits_le_iff (by decide) (by omega)).mpr hlt
    omega

end Digits

theorem exists_padded_eq_cons {w : Nat} (hw : 0 < w) (n : Nat) :
    ∃ d ds, padded w n = d :: ds ∧ d.isDigit = true := by
  cases h : padded w n with
  | nil =>
    have hlen := length_padded w n
    simp only [h, List.length_nil] at hlen
    omega
  | cons d ds => exact ⟨d, ds, rfl, isDigit_of_mem_padded (w := w) (n := n) (by simp [h])⟩

theorem dropWhile_isBlank_padded {w : Nat} (hw : 0 < w) (n : Nat) (rest : List Char) :
    (padded w n ++ rest).dropWhile Text.isBlank = padded w n ++ rest := by
  obtain ⟨d, ds, hp, hd⟩ := exists_padded_eq_cons hw n
  simp [hp, Clock.isBlank_of_isDigit hd]

theorem readYear_minus (cs : List Char) :
    readYear ('-' :: cs) = (readNumber cs.length cs).map fun (n, after) => (-(n : Int), after) := rfl

theorem readYear_plus (cs : List Char) :
    readYear ('+' :: cs) = (readNumber cs.length cs).map fun (n, after) => ((n : Int), after) := rfl

section Reading

variable {rest : List Char} (hrest : ∀ c ∈ rest.head?, c.isDigit = false)

include hrest

theorem readNumber_padded {most w n : Nat} (hw : 0 < w) (hmost : (padded w n).length ≤ most) :
    readNumber most (padded w n ++ rest) = some (n, rest) := by
  obtain ⟨d, ds, hp, -⟩ := exists_padded_eq_cons hw n
  have hstop : (rest.take (most - (padded w n).length)).takeWhile Char.isDigit = [] := by
    cases rest with
    | nil => simp
    | cons c cs =>
      have hc := hrest c (by simp)
      cases most - (padded w n).length <;> simp [hc]
  have htake : ((padded w n ++ rest).take most).takeWhile Char.isDigit = padded w n := by
    rw [List.take_append, List.take_of_length_le hmost,
      List.takeWhile_append_of_pos (fun c hc => isDigit_of_mem_padded hc), hstop, List.append_nil]
  have hne : (padded w n).isEmpty = false := by simp [hp]
  simp only [readNumber, htake, hne, digitsValue_padded, List.drop_left]
  rfl

theorem readField_padded {n : Nat} (hn : n < 100) :
    readField (padded 2 n ++ rest) = some (n, rest) := by
  have hlen : (padded 2 n).length ≤ 2 := by simp [Clock.padded_two hn]
  rw [readField, dropWhile_isBlank_padded (by decide),
    readNumber_padded hrest (by decide) hlen]

theorem readYear_writeYear (y : Int) : readYear (writeYear y ++ rest) = some (y, rest) := by
  have hall : readNumber (padded 4 y.natAbs ++ rest).length (padded 4 y.natAbs ++ rest) =
      some (y.natAbs, rest) := readNumber_padded hrest (by decide) (by simp)
  unfold writeYear
  split
  next hneg =>
    rw [List.cons_append, readYear_minus, hall, Option.map_some]
    have hy : -(y.natAbs : Int) = y := by omega
    simp only [hy]
  next hneg =>
    split
    next hlarge =>
      rw [List.cons_append, readYear_plus, hall, Option.map_some]
      have hy : (y.natAbs : Int) = y := by omega
      simp only [hy]
    next hsmall =>
      have hlen : (padded 4 y.natAbs).length ≤ 4 := by
        rw [length_padded]
        have hle := (Nat.length_toDigits_le_iff (b := 10) (k := 4) (n := y.natAbs) (by decide)
          (by decide)).mpr (by omega)
        omega
      have hread := readNumber_padded hrest (by decide) hlen
      have hblank := dropWhile_isBlank_padded (w := 4) (by decide) y.natAbs rest
      obtain ⟨d, ds, hp, hd⟩ := exists_padded_eq_cons (w := 4) (by decide) y.natAbs
      rw [hp, List.cons_append] at hblank hread
      have hminus : d ≠ '-' := by rintro rfl; exact absurd hd (by decide)
      have hplus : d ≠ '+' := by rintro rfl; exact absurd hd (by decide)
      simp [readYear, hp, hblank, hread, hminus, hplus]
      omega

end Reading

theorem readCivil_writeCivil {c : CivilDate} {rest : List Char} (hm : c.month < 100)
    (hd : c.day < 100) (hrest : ∀ c ∈ rest.head?, c.isDigit = false) :
    readCivil (writeCivil c ++ rest) = some (c, rest) := by
  have hmark : ∀ cs : List Char, ∀ c ∈ ('-' :: cs).head?, c.isDigit = false := by simp
  have hyear := readYear_writeYear (hmark (padded 2 c.month ++ '-' :: padded 2 c.day ++ rest)) c.year
  have hmonth := readField_padded (hmark (padded 2 c.day ++ rest)) hm
  have hday := readField_padded hrest hd
  simp only [List.append_assoc, List.cons_append] at hyear hmonth hday
  simp [readCivil, writeCivil, hyear, hmonth, hday, readMark]

/-- Four digits, or a sign and more: a minus before a year that is not zero, a plus before a year of more
than four digits. -/
def IsYear : List Char → Prop
  | '-' :: ds => IsPadded 4 ds ∧ ∃ c ∈ ds, c ≠ '0'
  | '+' :: ds => IsPadded 4 ds ∧ 4 < ds.length
  | ds => IsPadded 4 ds ∧ ds.length = 4

/-- A year, a month and a day, the month and the day of two digits. -/
def WrittenInFull (cs : List Char) : Prop :=
  ∃ year month day, cs = year ++ '-' :: month ++ '-' :: day ∧ IsYear year ∧
    (IsPadded 2 month ∧ month.length = 2) ∧ (IsPadded 2 day ∧ day.length = 2)

theorem isYear_writeYear (y : Int) : IsYear (writeYear y) := by
  have hp := isPadded_padded (w := 4) (by decide) y.natAbs
  have hlen := length_padded_le_iff (w := 4) (n := y.natAbs) (by decide)
  unfold writeYear
  split
  next hneg =>
    refine ⟨hp, (digitsValue_pos_iff hp.1).mp ?_⟩
    rw [digitsValue_padded]
    omega
  next hneg =>
    split
    next hlarge => exact ⟨hp, by omega⟩
    next hsmall =>
      obtain ⟨d, ds, hd, hdigit⟩ := exists_padded_eq_cons (w := 4) (by decide) y.natAbs
      have hge := length_padded 4 y.natAbs
      have hfour : (padded 4 y.natAbs).length = 4 := by omega
      rw [hd] at hp hfour ⊢
      unfold IsYear
      split
      next h => cases h; exact absurd hdigit (by decide)
      next h => cases h; exact absurd hdigit (by decide)
      next => exact ⟨hp, hfour⟩

theorem isYear_iff {cs : List Char} : IsYear cs ↔ ∃ y, cs = writeYear y := by
  constructor
  · intro h
    unfold IsYear at h
    split at h
    next ds =>
      obtain ⟨hp, hpos⟩ := h
      have hv := (digitsValue_pos_iff hp.1).mpr hpos
      refine ⟨-(Binary64.digitsValue 0 ds : Int), ?_⟩
      rw [writeYear, if_pos (by omega), Int.natAbs_neg, Int.natAbs_natCast,
        padded_digitsValue (by decide) hp]
    next ds =>
      obtain ⟨hp, hlen⟩ := h
      have hv : ¬ Binary64.digitsValue 0 ds < 10 ^ 4 := by
        rw [← length_padded_le_iff (by decide), padded_digitsValue (by decide) hp]
        omega
      refine ⟨Binary64.digitsValue 0 ds, ?_⟩
      rw [writeYear, if_neg (by omega), if_pos (by omega), Int.natAbs_natCast,
        padded_digitsValue (by decide) hp]
    next ds hminus hplus =>
      obtain ⟨hp, hlen⟩ := h
      have hv := digitsValue_lt hp.1
      rw [hlen] at hv
      refine ⟨Binary64.digitsValue 0 cs, ?_⟩
      rw [writeYear, if_neg (by omega), if_neg (by omega), Int.natAbs_natCast,
        padded_digitsValue (by decide) hp]
  · rintro ⟨y, rfl⟩
    exact isYear_writeYear y

theorem isPadded_two_iff {ds : List Char} :
    IsPadded 2 ds ∧ ds.length = 2 ↔ ∃ n < 100, ds = padded 2 n := by
  constructor
  · rintro ⟨hp, hlen⟩
    refine ⟨Binary64.digitsValue 0 ds, ?_, (padded_digitsValue (by decide) hp).symm⟩
    have hlt := digitsValue_lt hp.1
    rw [hlen] at hlt
    exact hlt
  · rintro ⟨n, hn, rfl⟩
    exact ⟨isPadded_padded (by decide) n, by simp [Clock.padded_two hn]⟩

theorem writtenInFull_iff {cs : List Char} :
    WrittenInFull cs ↔ ∃ c : CivilDate, c.month < 100 ∧ c.day < 100 ∧ cs = writeCivil c := by
  simp only [WrittenInFull, isYear_iff, isPadded_two_iff]
  constructor
  · rintro ⟨_, _, _, rfl, ⟨y, rfl⟩, ⟨m, hm, rfl⟩, ⟨d, hd, rfl⟩⟩
    exact ⟨⟨y, m, d⟩, hm, hd, rfl⟩
  · rintro ⟨c, hm, hd, rfl⟩
    exact ⟨_, _, _, rfl, ⟨c.year, rfl⟩, ⟨c.month, hm, rfl⟩, ⟨c.day, hd, rfl⟩⟩

end Calendar

namespace Date

def IsFullText (s : String) : Prop := Calendar.WrittenInFull (Text.trimmed s.toList)

theorem month_day_lt (d : Date) : d.civil.month < 100 ∧ d.civil.day < 100 := by
  obtain ⟨-, hm, -, hd⟩ := CivilDate.isDay_ofDayNumber d.number
  have hlen : CivilDate.monthLength d.civil.year d.civil.month ≤ 31 := by
    unfold CivilDate.monthLength
    split
    · split <;> omega
    · split <;> omega
  have hday : d.civil.day ≤ 31 := Nat.le_trans hd hlen
  have hmonth : d.civil.month ≤ 12 := hm
  exact ⟨by omega, by omega⟩

theorem isFullText_of_trim_eq {s : String} {d : Date} (h : Text.trim s = d.text) : IsFullText s := by
  obtain ⟨hm, hd⟩ := d.month_day_lt
  have hs : Text.trimmed s.toList = Calendar.writeCivil d.civil := by
    simpa [Text.trim, text] using congrArg String.toList h
  exact Calendar.writtenInFull_iff.mpr ⟨d.civil, hm, hd, hs⟩

theorem isBlank_of_mem_text {d : Date} {c : Char} (h : c ∈ d.text.toList) : Text.isBlank c = false := by
  have hpadded : ∀ w n, c ∈ Calendar.padded w n → Text.isBlank c = false :=
    fun _ _ => Calendar.isBlank_of_mem_padded
  have hminus : c = '-' → Text.isBlank c = false := by rintro rfl; decide
  have hplus : c = '+' → Text.isBlank c = false := by rintro rfl; decide
  have hyear : c ∈ Calendar.writeYear d.civil.year → Text.isBlank c = false := by
    unfold Calendar.writeYear
    split
    · exact fun hc => (List.mem_cons.mp hc).elim hminus (hpadded _ _)
    · split
      · exact fun hc => (List.mem_cons.mp hc).elim hplus (hpadded _ _)
      · exact hpadded _ _
  simp only [text, Calendar.writeCivil, String.toList_ofList, List.mem_append, List.mem_cons] at h
  rcases h with (hc | hc | hc) | hc | hc
  · exact hyear hc
  · exact hminus hc
  · exact hpadded _ _ hc
  · exact hminus hc
  · exact hpadded _ _ hc

theorem readCivil_text (d : Date) {rest : List Char} (hrest : ∀ c ∈ rest.head?, c.isDigit = false) :
    Calendar.readCivil (d.text.toList ++ rest) = some (d.civil, rest) := by
  rw [text, String.toList_ofList]
  exact Calendar.readCivil_writeCivil d.month_day_lt.1 d.month_day_lt.2 hrest

theorem read?_text (d : Date) : read? d.text = some d := by
  have htrim : Text.trimmed d.text.toList = d.text.toList :=
    Text.trimmed_eq_self fun c hc => isBlank_of_mem_text hc
  have hread : Calendar.readCivil (d.text.toList ++ []) = some (d.civil, []) :=
    d.readCivil_text (by simp)
  rw [List.append_nil] at hread
  simp [read?, htrim, hread, ofCivil?_civil]

/-- No two dates are written alike, since each can be read from its text. -/
theorem text_injective {d e : Date} (h : d.text = e.text) : d = e := by
  have hread := d.read?_text
  rw [h, e.read?_text] at hread
  exact (Option.some.inj hread).symm

theorem civil_of_ofCivil? {c : CivilDate} {d : Date} (h : ofCivil? c = some d) : d.civil = c := by
  unfold ofCivil? ofNumber? at h
  split at h
  next hday =>
    split at h
    next hr =>
      cases h
      exact CivilDate.ofDayNumber_dayNumber hday
    next => cases h
  next => cases h

/-- A text that reads as a date is, without its blanks, the text of that date when it is written in full,
and only then. -/
theorem trim_eq_text_iff {s : String} {d : Date} (h : read? s = some d) :
    Text.trim s = d.text ↔ IsFullText s := by
  constructor
  · exact isFullText_of_trim_eq
  · intro hf
    obtain ⟨c, hm, hd, hc⟩ := Calendar.writtenInFull_iff.mp hf
    have hread : Calendar.readCivil (Calendar.writeCivil c ++ []) = some (c, []) :=
      Calendar.readCivil_writeCivil hm hd (by simp)
    rw [List.append_nil] at hread
    have hcivil : ofCivil? c = some d := by simpa [read?, hc, hread] using h
    rw [Text.trim, hc, text, civil_of_ofCivil? hcivil]

end Date

end Eligibility
