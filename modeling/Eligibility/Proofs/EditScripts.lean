import Eligibility.Text.EditDistance

/-!
Edit scripts. The rows of distances come to the least number of single-character edits that lead from one list
of characters to another: there is a script of that length, and each edit brings a list nearer to a target by
one at most.
-/

set_option autoImplicit false

namespace Eligibility.Text

inductive Edit : List Char → List Char → Prop
  | insert (before after : List Char) (c : Char) : Edit (before ++ after) (before ++ c :: after)
  | delete (before after : List Char) (c : Char) : Edit (before ++ c :: after) (before ++ after)
  | substitute (before after : List Char) (c d : Char) :
      Edit (before ++ c :: after) (before ++ d :: after)

inductive Edits : Nat → List Char → List Char → Prop
  | refl (a : List Char) : Edits 0 a a
  | step {n : Nat} {a b c : List Char} (h : Edit a b) (rest : Edits n b c) : Edits (n + 1) a c

/-- The least number of edits from the one list to the other. -/
structure IsDistance (n : Nat) (a b : List Char) : Prop where
  script : Edits n a b
  least : ∀ m, Edits m a b → n ≤ m

section Rows

theorem tail_distanceRow (d : Char) (ds cs : List Char) :
    (distanceRow (d :: ds) cs).tail = distanceRow ds cs := by
  induction cs with
  | nil => rfl
  | cons c cs ih => rw [distanceRow, distanceRow, ← ih, nextRow, List.tail_cons]

theorem headD_emptyRow (ds : List Char) : (emptyRow ds).headD 0 = ds.length := by
  cases ds <;> rfl

theorem editDistance_nil_left (ds : List Char) : editDistance [] ds = ds.length := headD_emptyRow ds

theorem editDistance_nil_right (c : Char) (cs : List Char) :
    editDistance (c :: cs) [] = editDistance cs [] + 1 := rfl

theorem editDistance_cons (c d : Char) (cs ds : List Char) :
    editDistance (c :: cs) (d :: ds) =
      min (min (editDistance cs (d :: ds)) (editDistance (c :: cs) ds) + 1)
        (editDistance cs ds + if c = d then 0 else 1) := by
  have htail := tail_distanceRow d ds cs
  simp only [editDistance, distanceRow, nextRow, htail, List.headD_cons]

end Rows

namespace Edit

theorem cons {a b : List Char} (h : Edit a b) (c : Char) : Edit (c :: a) (c :: b) := by
  cases h with
  | insert before after d => exact .insert (c :: before) after d
  | delete before after d => exact .delete (c :: before) after d
  | substitute before after d e => exact .substitute (c :: before) after d e

end Edit

namespace Edits

theorem eq_of_zero {a b : List Char} (h : Edits 0 a b) : a = b := by
  cases h
  rfl

theorem cons {n : Nat} {a b : List Char} (h : Edits n a b) (c : Char) : Edits n (c :: a) (c :: b) := by
  induction h with
  | refl a => exact .refl (c :: a)
  | step h rest ih => exact .step (h.cons c) ih

theorem nil_length (b : List Char) : Edits b.length [] b := by
  induction b with
  | nil => exact .refl []
  | cons d b ih => exact .step (.insert [] [] d) (ih.cons d)

theorem min {m n : Nat} {a b : List Char} (hm : Edits m a b) (hn : Edits n a b) :
    Edits (min m n) a b := by
  rw [Nat.min_def]
  split
  · exact hm
  · exact hn

end Edits

/-- A script of the length that the rows come to. Each case of the minimum begins with its own edit. -/
theorem edits_editDistance (a b : List Char) : Edits (editDistance a b) a b := by
  induction a generalizing b with
  | nil =>
    rw [editDistance_nil_left]
    exact .nil_length b
  | cons c a iha =>
    induction b with
    | nil => exact .step (.delete [] a c) (iha [])
    | cons d b ihb =>
      have hdelete : Edits (editDistance a (d :: b) + 1) (c :: a) (d :: b) :=
        .step (.delete [] a c) (iha (d :: b))
      have hinsert : Edits (editDistance (c :: a) b + 1) (c :: a) (d :: b) :=
        .step (.insert [] (c :: a) d) (ihb.cons d)
      have hboth : Edits (editDistance a b + if c = d then 0 else 1) (c :: a) (d :: b) := by
        split
        next h =>
          subst h
          exact (iha b).cons c
        next => exact .step (.substitute [] a c d) ((iha b).cons d)
      rw [editDistance_cons, ← Nat.add_min_add_right]
      exact (hdelete.min hinsert).min hboth

section Bounds

theorem editDistance_cons_right_le (d : Char) (a b : List Char) :
    editDistance a (d :: b) ≤ editDistance a b + 1 := by
  cases a with
  | nil => simp [editDistance_nil_left]
  | cons c a =>
    rw [editDistance_cons]
    omega

theorem editDistance_cons_left_le (c : Char) (a b : List Char) :
    editDistance (c :: a) b ≤ editDistance a b + 1 := by
  cases b with
  | nil => exact Nat.le_of_eq (editDistance_nil_right c a)
  | cons d b =>
    rw [editDistance_cons]
    omega

theorem editDistance_le_cons_left (c : Char) (a b : List Char) :
    editDistance a b ≤ editDistance (c :: a) b + 1 := by
  induction b with
  | nil =>
    rw [editDistance_nil_right]
    omega
  | cons d b ih =>
    have hright := editDistance_cons_right_le d a b
    rw [editDistance_cons]
    omega

theorem editDistance_replace_le (c d : Char) (a b : List Char) :
    editDistance (c :: a) b ≤ editDistance (d :: a) b + 1 := by
  induction b with
  | nil =>
    rw [editDistance_nil_right, editDistance_nil_right]
    omega
  | cons e b ih =>
    rw [editDistance_cons, editDistance_cons]
    split <;> split <;> omega

theorem editDistance_cons_le {a a' : List Char} (h : ∀ b, editDistance a b ≤ editDistance a' b + 1)
    (c : Char) (b : List Char) : editDistance (c :: a) b ≤ editDistance (c :: a') b + 1 := by
  induction b with
  | nil =>
    have hnil := h []
    rw [editDistance_nil_right, editDistance_nil_right]
    omega
  | cons d b ih =>
    have hlong := h (d :: b)
    have hshort := h b
    rw [editDistance_cons, editDistance_cons]
    omega

/-- What stands before both lists does not make them differ more. -/
theorem editDistance_append_le {a a' : List Char} (h : ∀ b, editDistance a b ≤ editDistance a' b + 1)
    (before b : List Char) : editDistance (before ++ a) b ≤ editDistance (before ++ a') b + 1 := by
  induction before generalizing b with
  | nil => exact h b
  | cons c before ih => exact editDistance_cons_le ih c b

/-- One edit brings a list nearer to a target by one at most. -/
theorem Edit.editDistance_le {a a' : List Char} (h : Edit a a') (b : List Char) :
    editDistance a b ≤ editDistance a' b + 1 := by
  cases h with
  | insert before after c => exact editDistance_append_le (editDistance_le_cons_left c after) before b
  | delete before after c => exact editDistance_append_le (editDistance_cons_left_le c after) before b
  | substitute before after c d =>
    exact editDistance_append_le (editDistance_replace_le c d after) before b

theorem editDistance_self (a : List Char) : editDistance a a = 0 := by
  induction a with
  | nil => rfl
  | cons c a ih =>
    rw [editDistance_cons, ih, if_pos rfl]
    exact Nat.min_zero _

theorem Edits.editDistance_le {n : Nat} {a b : List Char} (h : Edits n a b) : editDistance a b ≤ n := by
  induction h with
  | refl a => exact Nat.le_of_eq (editDistance_self a)
  | step h rest ih => exact Nat.le_trans (h.editDistance_le _) (Nat.succ_le_succ ih)

end Bounds

theorem isDistance_editDistance (a b : List Char) : IsDistance (editDistance a b) a b :=
  ⟨edits_editDistance a b, fun _ h => h.editDistance_le⟩

theorem exists_edits_le_iff {n : Nat} {a b : List Char} :
    (∃ m, m ≤ n ∧ Edits m a b) ↔ editDistance a b ≤ n := by
  constructor
  · rintro ⟨m, hm, h⟩
    exact Nat.le_trans h.editDistance_le hm
  · exact fun h => ⟨editDistance a b, h, edits_editDistance a b⟩

end Eligibility.Text
