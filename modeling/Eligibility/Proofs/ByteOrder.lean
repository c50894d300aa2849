import Mathlib.Data.List.Lex

/-!
The order of texts by their UTF-8 bytes. Texts are compared by their characters, and the bytes of a greater
character are greater at the first place where they differ from those of a smaller one, whatever stands behind
the two. So texts in the order of their characters are in the order of their bytes.
-/

set_option autoImplicit false

namespace Eligibility.Text

def utf8Bytes (s : String) : List UInt8 := s.toByteArray.data.toList

/-- The texts are equal, or the bytes of the first come before those of the second in the order of a
dictionary. -/
def BytesLE (s t : String) : Prop := s = t ∨ List.Lex (· < ·) (utf8Bytes s) (utf8Bytes t)

theorem utf8Bytes_eq_flatMap (s : String) : utf8Bytes s = s.toList.flatMap String.utf8EncodeChar := by
  rw [utf8Bytes, ← String.utf8Encode_toList, List.utf8Encode, List.data_toByteArray]

theorem lex_byte_of_lt {m n : Nat} (hn : n < 256) (h : m < n) (xs ys : List UInt8) :
    List.Lex (· < ·) (UInt8.ofNat m :: xs) (UInt8.ofNat n :: ys) := by
  refine .rel ?_
  rw [UInt8.lt_iff_toNat_lt, UInt8.toNat_ofNat', UInt8.toNat_ofNat', Nat.mod_eq_of_lt hn,
    Nat.mod_eq_of_lt (Nat.lt_trans h hn)]
  exact h

theorem lex_byte {m n : Nat} {xs ys : List UInt8} (hn : n < 256) (hle : m ≤ n)
    (h : m = n → List.Lex (· < ·) xs ys) :
    List.Lex (· < ·) (UInt8.ofNat m :: xs) (UInt8.ofNat n :: ys) := by
  rcases Nat.eq_or_lt_of_le hle with he | hlt
  · rw [he]
    exact .cons (h he)
  · exact lex_byte_of_lt hn hlt xs ys

/-- The bytes of a greater character are greater, whatever stands behind the two: the first byte grows with
the number of bytes, and characters with equally many have the digits of their numbers for bytes. -/
theorem lex_utf8EncodeChar {c d : Char} (h : c.val.toNat < d.val.toNat) (xs ys : List UInt8) :
    List.Lex (· < ·) (String.utf8EncodeChar c ++ xs) (String.utf8EncodeChar d ++ ys) := by
  have hd : d.val.toNat < 0x110000 := by
    rcases d.valid with hv | ⟨-, hv⟩ <;> omega
  unfold String.utf8EncodeChar
  generalize c.val.toNat = m at h
  generalize d.val.toNat = n at h hd
  dsimp only
  -- the cases go by the width of `c` and then by that of `d`, which is no smaller
  split
  next =>
    split
    next => exact lex_byte_of_lt (by omega) (by omega) _ _
    next =>
      split
      next => exact lex_byte_of_lt (by omega) (by omega) _ _
      next => split <;> exact lex_byte_of_lt (by omega) (by omega) _ _
  next =>
    rw [if_neg (by omega : ¬ n ≤ 0x7f)]
    split
    next =>
      split
      next =>
        refine lex_byte (by omega) (by omega) fun _ => ?_
        exact lex_byte_of_lt (by omega) (by omega) _ _
      next => split <;> exact lex_byte_of_lt (by omega) (by omega) _ _
    next =>
      rw [if_neg (by omega : ¬ n ≤ 0x7ff)]
      split
      next =>
        split
        next =>
          refine lex_byte (by omega) (by omega) fun _ => ?_
          refine lex_byte (by omega) (by omega) fun _ => ?_
          exact lex_byte_of_lt (by omega) (by omega) _ _
        next => exact lex_byte_of_lt (by omega) (by omega) _ _
      next =>
        rw [if_neg (by omega : ¬ n ≤ 0xffff)]
        refine lex_byte (by omega) (by omega) fun _ => ?_
        refine lex_byte (by omega) (by omega) fun _ => ?_
        refine lex_byte (by omega) (by omega) fun _ => ?_
        exact lex_byte_of_lt (by omega) (by omega) _ _

theorem lex_flatMap {cs ds : List Char} (h : List.Lex (· < ·) cs ds) :
    List.Lex (· < ·) (cs.flatMap String.utf8EncodeChar) (ds.flatMap String.utf8EncodeChar) := by
  induction h with
  | @nil d ds =>
    obtain ⟨b, bs, hb⟩ := List.exists_cons_of_ne_nil (String.utf8EncodeChar_ne_nil (c := d))
    rw [List.flatMap_nil, List.flatMap_cons, hb]
    exact .nil
  | @rel c cs d ds h =>
    rw [List.flatMap_cons, List.flatMap_cons]
    exact lex_utf8EncodeChar (UInt32.lt_iff_toNat_lt.mp h) _ _
  | cons h ih =>
    rw [List.flatMap_cons, List.flatMap_cons]
    exact List.Lex.append_left _ ih _

theorem BytesLE.of_le {s t : String} (h : s ≤ t) : BytesLE s t := by
  by_cases he : s = t
  · exact .inl he
  · have hlt : s < t := Decidable.by_contra fun hn => he (String.le_antisymm h (String.not_lt.mp hn))
    refine .inr ?_
    rw [utf8Bytes_eq_flatMap, utf8Bytes_eq_flatMap]
    exact lex_flatMap hlt

end Eligibility.Text
