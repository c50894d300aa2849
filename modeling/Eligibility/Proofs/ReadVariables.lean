import Eligibility.Proofs.FirstSeen
import Eligibility.Proofs.KnownFacts

/-!
The variables of a tree are those that its comparisons name, and evaluation reads no others: whatever else
is known makes no difference.
-/

set_option autoImplicit false

namespace Eligibility

def FactSource.AgreeOn (ids : List String) (f g : FactSource) : Prop := ∀ id ∈ ids, f id = g id

theorem Comparison.holds_congr {f g : FactSource} {c : Comparison} (h : f c.subject = g c.subject) :
    c.holds f = c.holds g := by
  rw [holds, holds, h]

namespace Condition

mutual

/-- The variables that the comparisons of the tree name, from left to right, as often as they do. -/
def subjects : Condition → List String
  | .all parts => subjectsOf parts
  | .any parts => subjectsOf parts
  | .field c => [c.subject]
  | .literal _ => []

def subjectsOf : List Condition → List String
  | [] => []
  | p :: ps => p.subjects ++ subjectsOf ps

end

theorem mem_subjectsOf {id : String} {parts : List Condition} :
    id ∈ subjectsOf parts ↔ ∃ p ∈ parts, id ∈ p.subjects := by
  induction parts with
  | nil => simp [subjectsOf]
  | cons p ps ih => simp [subjectsOf, ih]

theorem collectFromParts_eq {parts : List Condition}
    (h : ∀ p ∈ parts, ∀ ids, collectVars ids p = p.subjects.foldl addNew ids) (ids : List String) :
    collectFromParts ids parts = (subjectsOf parts).foldl addNew ids := by
  induction parts generalizing ids with
  | nil => rfl
  | cons p ps ih =>
    simp only [List.forall_mem_cons] at h
    rw [collectFromParts, h.1, ih h.2, subjectsOf, List.foldl_append]

theorem collectVars_eq (c : Condition) (ids : List String) :
    collectVars ids c = c.subjects.foldl addNew ids := by
  induction c using induct generalizing ids with
  | all parts ih => exact collectFromParts_eq ih ids
  | any parts ih => exact collectFromParts_eq ih ids
  | field c => rfl
  | literal b => rfl

theorem vars_eq_firstSeen (c : Condition) : c.vars = Context.firstSeen c.subjects :=
  collectVars_eq c []

section Agreement

variable {f g : FactSource}

theorem agreeOn_part {p : Condition} {parts : List Condition}
    (h : FactSource.AgreeOn (subjectsOf parts) f g) (hp : p ∈ parts) :
    FactSource.AgreeOn p.subjects f g :=
  fun id hid => h id (mem_subjectsOf.mpr ⟨p, hp, hid⟩)

theorem evaluate_congr (c : Condition) (h : FactSource.AgreeOn c.subjects f g) :
    c.evaluate f = c.evaluate g := by
  induction c using induct with
  | all parts ih =>
    rw [evaluate, evaluateAll_eq, evaluate, evaluateAll_eq, Bool.eq_iff_iff]
    simp only [List.all_eq_true]
    exact forall₂_congr fun p hp => by rw [ih p hp (agreeOn_part h hp)]
  | any parts ih =>
    rw [evaluate, evaluateAny_eq, evaluate, evaluateAny_eq, Bool.eq_iff_iff]
    simp only [List.any_eq_true]
    exact exists_congr fun p => and_congr_right fun hp => by rw [ih p hp (agreeOn_part h hp)]
  | field k => exact Comparison.holds_congr (h k.subject (by simp [subjects]))
  | literal b => rfl

end Agreement

/-- The variables of a tree are listed once each, in the order in which its comparisons first name them,
and a tree has one value on all sources that know the same of them. -/
theorem vars_suffice (c : Condition) :
    InFirstOrder c.vars c.subjects ∧
      ∀ f g : FactSource, f.AgreeOn c.vars g → c.evaluate f = c.evaluate g := by
  have hvars : InFirstOrder c.vars c.subjects := by
    rw [vars_eq_firstSeen]
    exact Context.inFirstOrder_firstSeen c.subjects
  refine ⟨hvars, fun f g h => evaluate_congr c fun id hid => h id ?_⟩
  exact (hvars.mem id).mpr hid

end Condition

end Eligibility
