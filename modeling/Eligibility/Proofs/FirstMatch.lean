import Mathlib.Data.List.Basic

/-!
Looking for the first member of a list that answers. A member is found when nothing before it answers too,
so a list in which no second one does finds whichever answers. Members with keys that differ are each found
under their own.
-/

set_option autoImplicit false

namespace Eligibility

variable {α : Type} {isFor : α → Bool} {xs : List α} {x : α}

/-- `x` is in the list and nothing before it is for the day. -/
def IsFirst (isFor : α → Bool) (xs : List α) (x : α) : Prop :=
  isFor x = true ∧ ∃ before after, xs = before ++ x :: after ∧ ∀ y ∈ before, isFor y = false

def AtMostOne (isFor : α → Bool) (xs : List α) : Prop :=
  xs.Pairwise fun x y => ¬ (isFor x = true ∧ isFor y = true)

instance (isFor : α → Bool) (xs : List α) : Decidable (AtMostOne isFor xs) :=
  inferInstanceAs (Decidable (List.Pairwise _ _))

theorem find?_eq_some_iff_isFirst : xs.find? isFor = some x ↔ IsFirst isFor xs x := by
  simp [List.find?_eq_some_iff_append, IsFirst]

theorem IsFirst.mem (h : IsFirst isFor xs x) : x ∈ xs := by
  obtain ⟨-, before, after, rfl, -⟩ := h
  simp

/-- A list without a second member for the day finds whichever is for it. -/
theorem AtMostOne.isFirst (h : AtMostOne isFor xs) (hx : x ∈ xs) (hp : isFor x = true) :
    IsFirst isFor xs x := by
  rw [← find?_eq_some_iff_isFirst]
  induction xs with
  | nil => cases hx
  | cons y ys ih =>
    obtain ⟨hy, hys⟩ := List.pairwise_cons.mp h
    rcases List.mem_cons.mp hx with rfl | hmem
    · simp [hp]
    · have hn : isFor y = false := by
        by_cases hyp : isFor y = true
        · exact absurd ⟨hyp, hp⟩ (hy x hmem)
        · simpa using hyp
      simpa [hn] using ih hys hmem

/-- Looking at the first member only misses nothing where the list has no second one. -/
theorem AtMostOne.exists_isFirst_iff {isOpen : α → Prop} (h : AtMostOne isFor xs)
    (hfor : ∀ x, isOpen x → isFor x = true) :
    (∃ x, IsFirst isFor xs x ∧ isOpen x) ↔ ∃ x ∈ xs, isOpen x := by
  constructor
  · rintro ⟨x, hx, ho⟩
    exact ⟨x, hx.mem, ho⟩
  · rintro ⟨x, hx, ho⟩
    exact ⟨x, h.isFirst hx (hfor x ho), ho⟩

/-- What is found does not depend on where it stands. -/
theorem AtMostOne.find?_eq_some_iff (h : AtMostOne isFor xs) :
    xs.find? isFor = some x ↔ x ∈ xs ∧ isFor x = true := by
  rw [find?_eq_some_iff_isFirst]
  exact ⟨fun hx => ⟨hx.mem, hx.1⟩, fun hx => h.isFirst hx.1 hx.2⟩

theorem AtMostOne.of_perm {ys : List α} (h : AtMostOne isFor xs) (hp : xs.Perm ys) :
    AtMostOne isFor ys :=
  List.Pairwise.perm h hp fun hxy hyx => hxy ⟨hyx.2, hyx.1⟩

theorem AtMostOne.find?_perm {ys : List α} (h : AtMostOne isFor xs) (hp : xs.Perm ys) :
    ys.find? isFor = xs.find? isFor := by
  ext x
  rw [(h.of_perm hp).find?_eq_some_iff, h.find?_eq_some_iff, hp.mem_iff]

theorem AtMostOne.exists_split (h : AtMostOne isFor xs) (hx : x ∈ xs) (hp : isFor x = true) :
    ∃ before after, xs = before ++ x :: after ∧ ∀ y ∈ before ++ after, isFor y = false := by
  obtain ⟨before, after, rfl⟩ := List.append_of_mem hx
  obtain ⟨hothers, -⟩ := List.pairwise_cons.mp (h.of_perm List.perm_middle)
  refine ⟨before, after, rfl, fun y hy => ?_⟩
  rw [Bool.eq_false_iff]
  exact fun hyp => hothers y hy ⟨hp, hyp⟩

section Keys

variable {β : Type} [DecidableEq β] (key : α → β)

theorem AtMostOne.of_nodup (h : (xs.map key).Nodup) (k : β) : AtMostOne (fun x => key x == k) xs := by
  refine (List.pairwise_map.mp h).imp fun {a b} hab => ?_
  simp only [beq_iff_eq]
  rintro ⟨ha, hb⟩
  exact hab (ha.trans hb.symm)

theorem find?_key_eq_some (h : (xs.map key).Nodup) (hx : x ∈ xs) :
    xs.find? (fun y => key y == key x) = some x :=
  find?_eq_some_iff_isFirst.mpr ((AtMostOne.of_nodup key h (key x)).isFirst hx (by simp))

end Keys

end Eligibility
