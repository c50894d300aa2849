import Eligibility.Proofs.Grouping

/-!
The shape of the tree of a list of clauses. It has one leaf for each clause, in the order of the list, and
no container with fewer than two parts: an or of ands of leaves from which what stands alone was taken out.
It has one term more than the list has `||` between clauses.
-/

set_option autoImplicit false

namespace Eligibility.Condition

mutual

/-- The parts of the tree that have no parts themselves, from left to right. -/
def leaves : Condition → List Condition
  | .all parts => leavesOfParts parts
  | .any parts => leavesOfParts parts
  | .field c => [.field c]
  | .literal b => [.literal b]

def leavesOfParts : List Condition → List Condition
  | [] => []
  | p :: ps => p.leaves ++ leavesOfParts ps

end

inductive IsLeaf : Condition → Prop
  | field (c : Comparison) : IsLeaf (.field c)
  | literal (b : Bool) : IsLeaf (.literal b)

/-- What may stand between one `||` and the next. -/
inductive IsTerm : Condition → Prop
  | leaf {c : Condition} (h : c.IsLeaf) : IsTerm c
  | all {parts : List Condition} (h : ∀ p ∈ parts, p.IsLeaf) (two : 2 ≤ parts.length) :
      IsTerm (.all parts)

inductive IsNormal : Condition → Prop
  | term {c : Condition} (h : c.IsTerm) : IsNormal c
  | any {parts : List Condition} (h : ∀ p ∈ parts, p.IsTerm) (two : 2 ≤ parts.length) :
      IsNormal (.any parts)

/-- The parts of an or. Any other tree is the only term that it has. -/
def terms : Condition → List Condition
  | .any parts => parts
  | c => [c]

theorem leavesOfParts_eq (ps : List Condition) : leavesOfParts ps = ps.flatMap leaves := by
  induction ps with
  | nil => rfl
  | cons p ps ih => rw [leavesOfParts, ih, List.flatMap_cons]

theorem leaves_allOf (ps : List Condition) : (allOf ps).leaves = ps.flatMap leaves := by
  unfold allOf
  split
  · simp
  · rw [leaves, leavesOfParts_eq]

theorem leaves_anyOf (ps : List Condition) : (anyOf ps).leaves = ps.flatMap leaves := by
  unfold anyOf
  split
  · simp
  · rw [leaves, leavesOfParts_eq]

theorem IsLeaf.leaves_eq {c : Condition} (h : c.IsLeaf) : c.leaves = [c] := by
  cases h <;> rfl

theorem isLeaf_ofClause (c : Clause) : (ofClause c).IsLeaf := by
  unfold ofClause
  split
  · exact .literal true
  · split
    · exact .field _
    · exact .literal true

theorem leaves_ofClause (c : Clause) : (ofClause c).leaves = [ofClause c] :=
  (isLeaf_ofClause c).leaves_eq

theorem leaves_ofGroup (g : List Clause) : (ofGroup g).leaves = g.map ofClause := by
  rw [ofGroup, leaves_allOf, List.flatMap_map]
  simp only [leaves_ofClause]
  exact List.map_eq_flatMap.symm

theorem leaves_ofClauses {cs : List Clause} (hcs : cs ≠ []) :
    (ofClauses cs).leaves = cs.map ofClause := by
  have hwhole := (cutAtOr_groups cs).whole
  calc (ofClauses cs).leaves
      = (groups cs).flatMap fun g => g.map ofClause := by
        rw [ofClauses_of_ne_nil hcs, leaves_anyOf, List.flatMap_map]
        simp only [leaves_ofGroup]
    _ = (groups cs).flatten.map ofClause := by rw [List.map_flatten, List.flatMap_def]
    _ = cs.map ofClause := by rw [hwhole]

theorem isTerm_allOf {ps : List Condition} (hps : ps ≠ []) (h : ∀ p ∈ ps, p.IsLeaf) :
    (allOf ps).IsTerm := by
  match ps with
  | [p] => exact .leaf (h p (by simp))
  | p :: q :: ps => exact .all h (by simp)

theorem isNormal_anyOf {ps : List Condition} (hps : ps ≠ []) (h : ∀ p ∈ ps, p.IsTerm) :
    (anyOf ps).IsNormal := by
  match ps with
  | [p] => exact .term (h p (by simp))
  | p :: q :: ps => exact .any h (by simp)

/-- A group is never empty, so its tree is no container without parts. -/
theorem isTerm_of_mem_groups {cs g : List Clause} (hg : g ∈ groups cs) : (ofGroup g).IsTerm := by
  have hne : g ≠ [] := (cutAtOr_groups cs).nonempty g hg
  refine isTerm_allOf (by simpa using hne) ?_
  simp [isLeaf_ofClause]

theorem isTerm_of_mem_map_groups {cs : List Clause} {t : Condition}
    (ht : t ∈ (groups cs).map ofGroup) : t.IsTerm := by
  obtain ⟨g, hg, rfl⟩ := List.mem_map.mp ht
  exact isTerm_of_mem_groups hg

theorem isNormal_ofClauses {cs : List Clause} (hcs : cs ≠ []) : (ofClauses cs).IsNormal := by
  rw [ofClauses_of_ne_nil hcs]
  exact isNormal_anyOf (by simpa using groups_ne_nil hcs) fun t => isTerm_of_mem_map_groups

theorem IsTerm.terms_eq {c : Condition} (h : c.IsTerm) : c.terms = [c] := by
  cases h with
  | leaf h => cases h <;> rfl
  | all h two => rfl

theorem terms_anyOf {ps : List Condition} (h : ∀ p ∈ ps, p.IsTerm) : (anyOf ps).terms = ps := by
  unfold anyOf
  split
  next p => exact (h p (by simp)).terms_eq
  next => rfl

theorem length_consFirst {α : Type} (x : α) {gs : List (List α)} (h : gs ≠ []) :
    (consFirst x gs).length = gs.length := by
  cases gs with
  | nil => exact absurd rfl h
  | cons g gs => rfl

/-- Every `||` but one at the very end opens a group. -/
theorem length_groups {cs : List Clause} (hcs : cs ≠ []) :
    (groups cs).length = (cs.dropLast.countP fun c => c.connective = some .or) + 1 := by
  fun_induction groups cs with
  | case1 => exact absurd rfl hcs
  | case2 c => rfl
  | case3 c d rest hc ih =>
    rw [List.length_cons, ih (List.cons_ne_nil d rest),
      List.dropLast_cons_of_ne_nil (List.cons_ne_nil d rest), List.countP_cons_of_pos (by simpa using hc)]
  | case4 c d rest hc ih =>
    have hne := groups_ne_nil (List.cons_ne_nil d rest)
    rw [length_consFirst c hne, ih (List.cons_ne_nil d rest),
      List.dropLast_cons_of_ne_nil (List.cons_ne_nil d rest), List.countP_cons_of_neg (by simpa using hc)]

/-- The tree of a list has the trees of the clauses for its leaves, in their order, is a leaf, an and of
leaves or an or of such terms, and has one term more than there are `||` before the last clause. -/
theorem shape_ofClauses {cs : List Clause} (hcs : cs ≠ []) :
    (ofClauses cs).leaves = cs.map ofClause ∧
    (ofClauses cs).IsNormal ∧
    (ofClauses cs).terms.length = (cs.dropLast.countP fun c => c.connective = some .or) + 1 := by
  refine ⟨leaves_ofClauses hcs, isNormal_ofClauses hcs, ?_⟩
  rw [ofClauses_of_ne_nil hcs, terms_anyOf fun t => isTerm_of_mem_map_groups, List.length_map,
    length_groups hcs]

def rideClauses : List Clause :=
  [⟨"1", some ⟨"ride.airport", "Airport", .boolean, "ride", "", []⟩, .equal, .truth true, some .or⟩,
    ⟨"2", some ⟨"ride.fare", "Fare", .number, "ride", "", []⟩, .greater, .integer 50, none⟩,
    ⟨"3", some ⟨"ride.fare", "Fare", .number, "ride", "", []⟩, .unknown, .null, some .or⟩,
    ⟨"4", none, .equal, .null, some .or⟩]

theorem shape_ofClauses_ride :
    rideClauses ≠ [] ∧
    (ofClauses rideClauses).leaves =
      [.field ⟨"ride.airport", .boolean, .equal, .truth true⟩,
        .field ⟨"ride.fare", .number, .greater, .integer 50⟩, .literal true, .literal true] ∧
    (ofClauses rideClauses).IsNormal ∧ (ofClauses rideClauses).terms.length = 3 := by
  have hne : rideClauses ≠ [] := List.cons_ne_nil _ _
  obtain ⟨hleaves, hnormal, hterms⟩ := shape_ofClauses hne
  exact ⟨hne, hleaves, hnormal, hterms⟩

end Eligibility.Condition
