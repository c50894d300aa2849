import Eligibility.Json.Numeral
import Eligibility.Json.Writer

/-!
The numerals that integers are written as: digits without a zero in front, after a minus for a negative
integer. In either form they are the integers that they write, as long as these fit a machine integer.
-/

set_option autoImplicit false

namespace Eligibility.Json

theorem exists_toDigits_eq_cons {n : Nat} (hn : 0 < n) :
    ∃ k ds, Nat.toDigits 10 n = Nat.digitChar k :: ds ∧ 1 ≤ k ∧ k < 10 ∧ ∀ c ∈ ds, c.isDigit = true := by
  induction n using Nat.strongRecOn with
  | ind n ih =>
    by_cases hlt : n < 10
    · exact ⟨n, [], Nat.toDigits_of_lt_base hlt, hn, hlt, by simp⟩
    · obtain ⟨k, ds, heq, hk, hk', hds⟩ := ih (n / 10) (by omega) (by omega)
      have hlast : ∀ m < 10, (Nat.digitChar m).isDigit = true := by decide
      refine ⟨k, ds ++ [Nat.digitChar (n % 10)], ?_, hk, hk', ?_⟩
      · rw [Nat.toDigits_of_base_le (by decide) (by omega), heq, List.cons_append]
      · simpa [or_imp, forall_and, hlast (n % 10) (Nat.mod_lt n (by decide))] using hds

theorem digitsValue_toDigits (n : Nat) : Binary64.digitsValue 0 (Nat.toDigits 10 n) = n := by
  have h : Nat.ofDigitChars 10 (Nat.toDigits 10 n) 0 = n := Nat.ofDigitChars_ten_toDigits
  exact h

namespace Numeral

def ofInt (n : Int) : Numeral := ⟨n < 0, Nat.toDigits 10 n.natAbs, none, none⟩

section Documents

variable {n : Int} (h : -(largestSigned : Int) - 1 ≤ n ∧ n ≤ largestSigned)

include h

theorem strictDocument_ofInt : (ofInt n).strictDocument = .integer n := by
  obtain ⟨hlow, hhigh⟩ := h
  simp only [strictDocument, ofInt, digitsValue_toDigits]
  by_cases hn : n < 0
  · have hpos : 0 < n.natAbs ∧ n.natAbs ≤ largestSigned + 1 := by omega
    have hneg : -(n.natAbs : Int) = n := by omega
    rw [if_neg (by simp [hn]), if_pos (by simpa [isWhole, hn] using hpos), hneg]
  · have hle : n.natAbs ≤ largestUnsigned := by
      unfold largestSigned at hhigh
      unfold largestUnsigned
      omega
    have hpos : (n.natAbs : Int) = n := by omega
    rw [if_pos (by simpa [isWhole, hn] using hle), hpos]

theorem relaxedDocument_ofInt : (ofInt n).relaxedDocument = .integer n := by
  have hsigned : (if n < 0 then -(n.natAbs : Int) else n.natAbs) = n := by
    split <;> omega
  simp only [relaxedDocument, ofInt, digitsValue_toDigits, isWhole, decide_eq_true_eq, hsigned]
  simp [h]

end Documents

end Numeral

end Eligibility.Json
