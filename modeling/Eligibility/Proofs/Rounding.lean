import Eligibility.Schedule.Coverage
import Mathlib.Tactic.Linarith
import Mathlib.Tactic.NormNum
import Mathlib.Tactic.Positivity

/-!
How far a double lies from the number it stands for. One rounding moves a number by 2^-53 of it and half
a unit at most; a chain of a few roundings is followed by a lower and an upper bound, each widened at every
step. Numbers below zero do not occur in the chain and are not treated. The percentage that the minutes of a
week make is computed by such a chain, and the bounds leave it a nearest whole number.
-/

set_option autoImplicit false

namespace Eligibility

namespace Binary64

/-! ### One rounding -/

theorem roundHalfEven_error (num : Nat) {den : Nat} (hd : 0 < den) :
    2 * num ≤ 2 * (roundHalfEven num den * den) + den ∧
      2 * (roundHalfEven num den * den) ≤ 2 * num + den := by
  have hq := Nat.div_add_mod num den
  have hr := Nat.mod_lt num hd
  have hc : num / den * den = den * (num / den) := Nat.mul_comm _ _
  have hc' : (num / den + 1) * den = den * (num / den) + den := by rw [Nat.succ_mul, hc]
  unfold roundHalfEven
  dsimp only
  split
  next => omega
  next =>
    split
    next => omega
    next => split <;> omega

/-- The distance between neighbours at `n` is `n / 2^52` or 1. -/
theorem spacing_mul_le (n : Nat) : spacing n * 2 ^ 52 ≤ n + 2 ^ 52 := by
  have hs : spacing n = 2 ^ (n.log2 - 52) := rfl
  rw [hs]
  by_cases h : n.log2 ≤ 52
  · rw [Nat.sub_eq_zero_of_le h]
    omega
  · have hn : n ≠ 0 := by
      rintro rfl
      exact h (by simp)
    calc 2 ^ (n.log2 - 52) * 2 ^ 52 = 2 ^ n.log2 := by
          rw [← Nat.pow_add, Nat.sub_add_cancel (Nat.le_of_not_le h)]
      _ ≤ n := Nat.log2_self_le hn
      _ ≤ n + 2 ^ 52 := Nat.le_add_right _ _

theorem spacing_pos (n : Nat) : 0 < spacing n := Nat.two_pow_pos _

def roundedUnits (num den : Nat) : Nat :=
  roundHalfEven num (den * spacing (num / den)) * spacing (num / den)

theorem nearest_eq (s : Bool) (num den : Nat) :
    nearest s num den =
      if roundedUnits num den < limit then .finite s (roundedUnits num den) else .infinite s := rfl

theorem roundedUnits_error (num : Nat) {den : Nat} (hd : 0 < den) :
    2 ^ 53 * num ≤ 2 ^ 53 * (roundedUnits num den * den) + num + 2 ^ 52 * den ∧
      2 ^ 53 * (roundedUnits num den * den) ≤ 2 ^ 53 * num + num + 2 ^ 52 * den := by
  have hs := spacing_pos (num / den)
  have hle := spacing_mul_le (num / den)
  have hdiv : den * (num / den) ≤ num := Nat.mul_div_le num den
  have hround := roundHalfEven_error num (Nat.mul_pos hd hs)
  have hu : roundedUnits num den * den =
      roundHalfEven num (den * spacing (num / den)) * (den * spacing (num / den)) := by
    unfold roundedUnits
    rw [Nat.mul_assoc, Nat.mul_comm (spacing _) den]
  have hstep : den * spacing (num / den) * 2 ^ 52 ≤ num + den * 2 ^ 52 := by
    calc den * spacing (num / den) * 2 ^ 52 = den * (spacing (num / den) * 2 ^ 52) :=
          Nat.mul_assoc _ _ _
      _ ≤ den * (num / den + 2 ^ 52) := Nat.mul_le_mul_left den hle
      _ = den * (num / den) + den * 2 ^ 52 := Nat.mul_add _ _ _
      _ ≤ num + den * 2 ^ 52 := Nat.add_le_add_right hdiv _
  rw [hu]
  omega

/-! ### Bounds that survive a rounding -/

theorem billion_le_one : 1000000000 ≤ one := by decide +kernel

theorem mul_one_le_limit : 1000100 * one ≤ limit := by decide +kernel

theorem one_pos : 0 < one := Nat.lt_of_lt_of_le (by decide) billion_le_one

-- Only the facts above are used of these numbers, which are too long to be computed with.
attribute [local irreducible] one limit

/-- What one operation adds to an error, of the number and on its own: far more than a rounding does, and
still little after four operations. -/
def slack : ℚ := 1 / 1000000000

def shrink (q : ℚ) : ℚ := q * (1 - slack) - slack

def stretch (q : ℚ) : ℚ := q * (1 + slack) + slack

/-- The double is no less than `q`; an infinity is no less than anything. -/
def AtLeast (q : ℚ) : Binary64 → Prop
  | .finite false u => q * one ≤ u
  | .infinite false => True
  | .finite true _ | .infinite true | .nan => False

def AtMost (q : ℚ) : Binary64 → Prop
  | .finite false u => u ≤ q * one
  | .finite true _ | .infinite _ | .nan => False

variable {q : ℚ} {x : Binary64} {num den n : Nat}

theorem roundedUnits_bounds (num : Nat) (hd : 0 < den) :
    (1 - slack) * (num / den) - slack * one ≤ roundedUnits num den ∧
      (roundedUnits num den : ℚ) ≤ (1 + slack) * (num / den) + slack * one := by
  have hd' : (0 : ℚ) < den := by exact_mod_cast hd
  have hone : (1000000000 : ℚ) ≤ one := by exact_mod_cast billion_le_one
  have hnum : (num : ℚ) = num / den * den := (div_mul_cancel₀ _ hd'.ne').symm
  have hquot : (0 : ℚ) ≤ num / den := by positivity
  obtain ⟨hlow, hhigh⟩ := roundedUnits_error num hd
  have hlow' : (2 : ℚ) ^ 53 * num ≤ 2 ^ 53 * (roundedUnits num den * den) + num + 2 ^ 52 * den := by
    exact_mod_cast hlow
  have hhigh' : (2 : ℚ) ^ 53 * (roundedUnits num den * den) ≤ 2 ^ 53 * num + num + 2 ^ 52 * den := by
    exact_mod_cast hhigh
  rw [hnum] at hlow' hhigh'
  have hbelow : (2 : ℚ) ^ 53 * (num / den) ≤ 2 ^ 53 * roundedUnits num den + num / den + 2 ^ 52 := by
    refine le_of_mul_le_mul_right ?_ hd'
    linarith
  have habove : (2 : ℚ) ^ 53 * roundedUnits num den ≤ 2 ^ 53 * (num / den) + num / den + 2 ^ 52 := by
    refine le_of_mul_le_mul_right ?_ hd'
    linarith
  unfold slack
  constructor
  · linarith
  · linarith

theorem nearest_atLeast (hd : 0 < den) (h : q * one ≤ num / den) :
    (nearest false num den).AtLeast (shrink q) := by
  have hu := (roundedUnits_bounds num hd).1
  rw [nearest_eq]
  split
  next =>
    have hle : shrink q * one ≤ roundedUnits num den := by
      unfold shrink slack at *
      linarith
    exact hle
  next => trivial

theorem nearest_atMost (hd : 0 < den) (hq : q ≤ 1000000) (h : (num / den : ℚ) ≤ q * one) :
    (nearest false num den).AtMost (stretch q) := by
  have hu := (roundedUnits_bounds num hd).2
  have hle : (roundedUnits num den : ℚ) ≤ stretch q * one := by
    unfold stretch slack at *
    linarith
  have hlt : (roundedUnits num den : ℚ) < limit := by
    have hone : (0 : ℚ) < one := by exact_mod_cast one_pos
    have hs : stretch q < 1000100 := by
      unfold stretch slack
      linarith
    calc (roundedUnits num den : ℚ) ≤ stretch q * one := hle
      _ < 1000100 * one := mul_lt_mul_of_pos_right hs hone
      _ ≤ limit := by exact_mod_cast mul_one_le_limit
  rw [nearest_eq, if_pos (by exact_mod_cast hlt)]
  exact hle

theorem ofNat_atLeast {k : Nat} (h : k ≤ n) : (ofNat n).AtLeast (shrink k) := by
  refine nearest_atLeast Nat.one_pos ?_
  rw [Nat.cast_one, div_one]
  exact_mod_cast Nat.mul_le_mul_right one h

theorem ofNat_atMost (hn : n ≤ 1000000) : (ofNat n).AtMost (stretch n) := by
  refine nearest_atMost Nat.one_pos (by exact_mod_cast hn) ?_
  rw [Nat.cast_one, div_one, Nat.cast_mul]

/-! ### Operations with a whole number -/

def IsExact (n : Nat) : Prop := ofNat n = .finite false (n * one)

theorem quotient_eq (u n : Nat) : ((u * one : Nat) : ℚ) / (n * one : Nat) = u / n := by
  have hone : (one : ℚ) ≠ 0 := by exact_mod_cast one_pos.ne'
  rw [Nat.cast_mul, Nat.cast_mul, mul_div_mul_right _ _ hone]

theorem product_eq (u n : Nat) : ((u * (n * one) : Nat) : ℚ) / one = u * n := by
  have hone : (one : ℚ) ≠ 0 := by exact_mod_cast one_pos.ne'
  rw [← Nat.mul_assoc, Nat.cast_mul, mul_div_cancel_right₀ _ hone, Nat.cast_mul]

theorem AtLeast.dividedBy (h : x.AtLeast q) (hn : 0 < n) (he : IsExact n) :
    (x.dividedBy (ofNat n)).AtLeast (shrink (q / n)) := by
  have hpos : 0 < n * one := Nat.mul_pos hn one_pos
  rw [he]
  match x, h with
  | .finite false u, h =>
    simp only [Binary64.dividedBy, if_neg hpos.ne']
    refine nearest_atLeast hpos ?_
    rw [quotient_eq, div_mul_eq_mul_div]
    exact div_le_div_of_nonneg_right h (Nat.cast_nonneg _)
  | .infinite false, _ => trivial

theorem AtMost.dividedBy (h : x.AtMost q) (hn : 0 < n) (hq : q / n ≤ 1000000) (he : IsExact n) :
    (x.dividedBy (ofNat n)).AtMost (stretch (q / n)) := by
  have hpos : 0 < n * one := Nat.mul_pos hn one_pos
  rw [he]
  match x, h with
  | .finite false u, h =>
    simp only [Binary64.dividedBy, if_neg hpos.ne']
    refine nearest_atMost hpos hq ?_
    rw [quotient_eq, div_mul_eq_mul_div]
    exact div_le_div_of_nonneg_right h (Nat.cast_nonneg _)

theorem AtLeast.times (h : x.AtLeast q) (hn : 0 < n) (he : IsExact n) :
    (x.times (ofNat n)).AtLeast (shrink (q * n)) := by
  rw [he]
  match x, h with
  | .finite false u, h =>
    refine nearest_atLeast one_pos ?_
    rw [product_eq, mul_right_comm]
    exact mul_le_mul_of_nonneg_right h (Nat.cast_nonneg _)
  | .infinite false, _ =>
    have hpos : 0 < n * one := Nat.mul_pos hn one_pos
    simp only [Binary64.times, if_neg hpos.ne']
    trivial

theorem AtMost.times (h : x.AtMost q) (hq : q * n ≤ 1000000) (he : IsExact n) :
    (x.times (ofNat n)).AtMost (stretch (q * n)) := by
  rw [he]
  match x, h with
  | .finite false u, h =>
    refine nearest_atMost one_pos hq ?_
    rw [product_eq, mul_right_comm]
    exact mul_le_mul_of_nonneg_right h (Nat.cast_nonneg _)

/-! ### Whole percents -/

theorem wholePercent_le (x : Binary64) : x.wholePercent ≤ 100 := by
  unfold wholePercent
  split
  · exact Nat.min_le_right _ _
  · exact Nat.le_refl _
  · exact Nat.zero_le _
  · exact Nat.zero_le _
  · exact Nat.zero_le _

theorem AtLeast.le_wholePercent {p : Nat} (h : x.AtLeast q) (hp : p ≤ 100) (hq : p - 1 / 2 ≤ q) :
    p ≤ x.wholePercent := by
  match x, h with
  | .finite false u, h =>
    refine Nat.le_min.mpr ⟨?_, hp⟩
    rw [Nat.le_div_iff_mul_le (Nat.mul_pos Nat.two_pos one_pos)]
    have hm : (p - 1 / 2 : ℚ) * one ≤ u := (mul_le_mul_of_nonneg_right hq (Nat.cast_nonneg _)).trans h
    have hc : (p : ℚ) * (2 * one) ≤ 2 * u + one := by linarith
    exact_mod_cast hc
  | .infinite false, _ => exact hp

theorem AtMost.wholePercent_le {p : Nat} (h : x.AtMost q) (hq : q < p + 1 / 2) :
    x.wholePercent ≤ p := by
  match x, h with
  | .finite false u, h =>
    refine (Nat.min_le_left _ _).trans (Nat.le_of_lt_succ ?_)
    rw [Nat.div_lt_iff_lt_mul (Nat.mul_pos Nat.two_pos one_pos)]
    have hone : (0 : ℚ) < one := by exact_mod_cast one_pos
    have hm : (u : ℚ) < (p + 1 / 2) * one := lt_of_le_of_lt h (mul_lt_mul_of_pos_right hq hone)
    have hc : 2 * (u : ℚ) + one < (p + 1) * (2 * one) := by linarith
    exact_mod_cast hc

end Binary64

/-! ### The percentage of a week's minutes -/

namespace Schedule

open Binary64

attribute [local irreducible] one limit

theorem isExact_seven : IsExact 7 := by unfold IsExact; decide +kernel

theorem isExact_minutesPerDay : IsExact minutesPerDay := by unfold IsExact; decide +kernel

theorem isExact_hundred : IsExact 100 := by unfold IsExact; decide +kernel

theorem percentOfDay_le (minutes : Nat) : percentOfDay minutes ≤ 100 := wholePercent_le _

/-- The exact percentage is a whole number of 504ths, and rounding takes less than one away and adds less. -/
theorem le_percentOfDay {minutes w p : Nat} (hw : w ≤ minutes) (hle : w ≤ 10080)
    (hp : 504 * p ≤ 5 * w + 251) : p ≤ percentOfDay minutes := by
  have haverage := (ofNat_atLeast hw).dividedBy (by decide) isExact_seven
  have hshare := haverage.dividedBy (by decide) isExact_minutesPerDay
  have hpercent := hshare.times (by decide) isExact_hundred
  have hp100 : p ≤ 100 := by omega
  refine hpercent.le_wholePercent hp100 ?_
  have hpq : 504 * (p : ℚ) ≤ 5 * w + 251 := by exact_mod_cast hp
  have hwq : (w : ℚ) ≤ 10080 := by exact_mod_cast hle
  have hw0 : (0 : ℚ) ≤ w := Nat.cast_nonneg _
  unfold shrink slack minutesPerDay
  push_cast
  linarith

theorem percentOfDay_le_of_le {minutes p : Nat} (hle : minutes ≤ 10080)
    (hp : 5 * minutes ≤ 504 * p + 251) : percentOfDay minutes ≤ p := by
  have hmq : (minutes : ℚ) ≤ 10080 := by exact_mod_cast hle
  have hm0 : (0 : ℚ) ≤ minutes := Nat.cast_nonneg _
  have hpq : 5 * (minutes : ℚ) ≤ 504 * p + 251 := by exact_mod_cast hp
  have hminutes := ofNat_atMost (n := minutes) (by omega)
  have haverage := hminutes.dividedBy (by decide)
    (by unfold stretch slack; push_cast; linarith) isExact_seven
  have hshare := haverage.dividedBy (by decide)
    (by unfold stretch slack minutesPerDay; push_cast; linarith) isExact_minutesPerDay
  have hpercent := hshare.times
    (by unfold stretch slack minutesPerDay; push_cast; linarith) isExact_hundred
  refine hpercent.wholePercent_le ?_
  unfold stretch slack minutesPerDay
  push_cast
  linarith

/-- The percentage is a whole number nearest to the exact one, minutes beyond a week not counted. -/
theorem percentOfDay_nearest (minutes : Nat) :
    100 * min minutes 10080 ≤ 10080 * percentOfDay minutes + 5040 ∧
      10080 * percentOfDay minutes ≤ 100 * minutes + 5040 := by
  have h100 := percentOfDay_le minutes
  constructor
  · by_contra hlt
    have hup : percentOfDay minutes + 1 ≤ percentOfDay minutes :=
      le_percentOfDay (Nat.min_le_left minutes 10080) (Nat.min_le_right _ _) (by omega)
    omega
  · by_cases hle : minutes ≤ 10080
    · by_contra hlt
      have hdown : percentOfDay minutes ≤ percentOfDay minutes - 1 :=
        percentOfDay_le_of_le hle (by omega)
      omega
    · omega

end Schedule

end Eligibility
