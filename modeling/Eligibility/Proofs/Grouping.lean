import Mathlib.Logic.ExistsUnique
import Eligibility.Condition.Evaluation

/-!
The groups of a list of clauses, and what the tree of a list evaluates to. The cutting of a list at its
`||` is stated apart from the function that groups clauses; a list has one such cutting, and the tree of
the list is the or of ands that it spells out.
-/

set_option autoImplicit false

namespace Eligibility

/-- The pieces of a list that is cut after every clause, but the last, whose connective is `||`. -/
structure CutAtOr (cs : List Clause) (pieces : List (List Clause)) : Prop where
  whole : pieces.flatten = cs
  nonempty : ∀ g ∈ pieces, g ≠ []
  uncut : ∀ g ∈ pieces, ∀ c ∈ g.dropLast, c.connective ≠ some .or
  cut : ∀ g ∈ pieces.dropLast, ∀ c ∈ g.getLast?, c.connective = some .or

def Clause.explicit (c : Clause) : Clause :=
  { c with connective := some (c.connective.getD .and) }

namespace CutAtOr

theorem nil : CutAtOr [] [] := by constructor <;> simp

theorem singleton (c : Clause) : CutAtOr [c] [[c]] := by constructor <;> simp

theorem cons_or {c : Clause} {cs : List Clause} {pieces : List (List Clause)}
    (h : CutAtOr cs pieces) (hc : c.connective = some .or) (hne : pieces ≠ []) :
    CutAtOr (c :: cs) ([c] :: pieces) where
  whole := by simp [h.whole]
  nonempty := by simpa using h.nonempty
  uncut := by simpa using h.uncut
  cut := by
    rw [List.dropLast_cons_of_ne_nil hne]
    simpa [hc] using h.cut

theorem cons_and {c : Clause} {cs g : List Clause} {gs : List (List Clause)}
    (h : CutAtOr cs (g :: gs)) (hc : c.connective ≠ some .or) :
    CutAtOr (c :: cs) ((c :: g) :: gs) where
  whole := by simpa using h.whole
  nonempty := by
    have hn := h.nonempty
    simp only [List.forall_mem_cons] at hn ⊢
    exact ⟨by simp, hn.2⟩
  uncut := by
    have hg := h.nonempty g (by simp)
    have hu := h.uncut
    simp only [List.forall_mem_cons, List.dropLast_cons_of_ne_nil hg] at hu ⊢
    exact ⟨⟨hc, hu.1⟩, hu.2⟩
  cut := by
    have hg := h.nonempty g (by simp)
    have hk := h.cut
    cases gs with
    | nil => simp
    | cons k ks =>
      obtain ⟨d, ds, rfl⟩ := List.exists_cons_of_ne_nil hg
      simpa [List.getLast?_cons_cons] using hk

theorem eq_nil_of_flatten {α : Type} {ps : List (List α)} (h : ps.flatten = [])
    (hn : ∀ g ∈ ps, g ≠ []) : ps = [] :=
  List.eq_nil_iff_forall_not_mem.mpr fun g hg => hn g hg (List.flatten_eq_nil_iff.mp h g hg)

theorem eq_nil {pieces : List (List Clause)} (h : CutAtOr [] pieces) : pieces = [] :=
  eq_nil_of_flatten h.whole h.nonempty

theorem eq_singleton {c : Clause} {pieces : List (List Clause)} (h : CutAtOr [c] pieces) :
    pieces = [[c]] := by
  have hw := h.whole
  cases pieces with
  | nil => simp at hw
  | cons p ps =>
    obtain ⟨d, g, rfl⟩ := List.exists_cons_of_ne_nil (h.nonempty p (by simp))
    simp only [List.flatten_cons, List.cons_append, List.cons.injEq, List.append_eq_nil_iff] at hw
    obtain ⟨rfl, rfl, hps⟩ := hw
    rw [eq_nil_of_flatten hps fun g hg => h.nonempty g (by simp [hg])]

/-- The first piece of a cutting is its first clause alone, or goes on with the clauses after it. -/
theorem cons_cases {c : Clause} {cs : List Clause} {pieces : List (List Clause)}
    (h : CutAtOr (c :: cs) pieces) (hcs : cs ≠ []) :
    (c.connective = some .or ∧ ∃ ps, pieces = [c] :: ps ∧ CutAtOr cs ps) ∨
    (c.connective ≠ some .or ∧ ∃ g gs, pieces = (c :: g) :: gs ∧ CutAtOr cs (g :: gs)) := by
  have hw := h.whole
  cases pieces with
  | nil => simp at hw
  | cons p ps =>
    obtain ⟨d, g, rfl⟩ := List.exists_cons_of_ne_nil (h.nonempty p (by simp))
    simp only [List.flatten_cons, List.cons_append, List.cons.injEq] at hw
    obtain ⟨rfl, hw⟩ := hw
    have hn := h.nonempty
    have hu := h.uncut
    have hk := h.cut
    simp only [List.forall_mem_cons] at hn hu
    cases g with
    | nil =>
      have hps : ps ≠ [] := by rintro rfl; exact hcs (by simpa using hw.symm)
      rw [List.dropLast_cons_of_ne_nil hps] at hk
      simp only [List.forall_mem_cons] at hk
      exact .inl ⟨hk.1 d (by simp), ps, rfl, by simpa using hw, hn.2, hu.2, hk.2⟩
    | cons e g =>
      rw [List.dropLast_cons_of_ne_nil (by simp)] at hu
      simp only [List.forall_mem_cons] at hu
      refine .inr ⟨hu.1.1, e :: g, ps, rfl, by simpa using hw, by simpa using hn.2,
        List.forall_mem_cons.mpr ⟨hu.1.2, hu.2⟩, ?_⟩
      cases ps with
      | nil => simp
      | cons k ks => simpa [List.getLast?_cons_cons] using hk

end CutAtOr

namespace Condition

theorem groups_cons_or {c : Clause} {cs : List Clause} (hcs : cs ≠ [])
    (hc : c.connective = some .or) : groups (c :: cs) = [c] :: groups cs := by
  cases cs with
  | nil => exact absurd rfl hcs
  | cons d ds => simp [groups, hc]

theorem groups_cons_and {c : Clause} {cs : List Clause} (hcs : cs ≠ [])
    (hc : c.connective ≠ some .or) : groups (c :: cs) = consFirst c (groups cs) := by
  cases cs with
  | nil => exact absurd rfl hcs
  | cons d ds => simp [groups, hc]

theorem consFirst_ne_nil {α : Type} (x : α) (gs : List (List α)) : consFirst x gs ≠ [] := by
  cases gs <;> simp [consFirst]

theorem groups_ne_nil {cs : List Clause} (hcs : cs ≠ []) : groups cs ≠ [] := by
  fun_cases groups cs with
  | case1 => exact absurd rfl hcs
  | case2 c => simp
  | case3 c d rest h => simp
  | case4 c d rest h => exact consFirst_ne_nil _ _

theorem cutAtOr_groups (cs : List Clause) : CutAtOr cs (groups cs) := by
  fun_induction groups cs with
  | case1 => exact .nil
  | case2 c => exact .singleton c
  | case3 c d rest hc ih => exact ih.cons_or hc (groups_ne_nil (List.cons_ne_nil d rest))
  | case4 c d rest hc ih =>
    obtain ⟨g, gs, hg⟩ := List.exists_cons_of_ne_nil (groups_ne_nil (List.cons_ne_nil d rest))
    rw [hg] at ih ⊢
    exact ih.cons_and hc

/-- A list has no other cutting than its groups. -/
theorem eq_groups_of_cutAtOr {cs : List Clause} {pieces : List (List Clause)}
    (h : CutAtOr cs pieces) : pieces = groups cs := by
  fun_induction groups cs generalizing pieces with
  | case1 => exact h.eq_nil
  | case2 c => exact h.eq_singleton
  | case3 c d rest hc ih =>
    rcases h.cons_cases (List.cons_ne_nil d rest) with ⟨-, ps, rfl, hps⟩ | ⟨hn, -⟩
    · rw [ih hps]
    · exact absurd hc hn
  | case4 c d rest hc ih =>
    rcases h.cons_cases (List.cons_ne_nil d rest) with ⟨ho, -⟩ | ⟨-, g, gs, rfl, hgs⟩
    · exact absurd ho hc
    · rw [← ih hgs, consFirst]

theorem cutAtOr_iff {cs : List Clause} {pieces : List (List Clause)} :
    CutAtOr cs pieces ↔ pieces = groups cs :=
  ⟨eq_groups_of_cutAtOr, fun h => h ▸ cutAtOr_groups cs⟩

theorem mem_of_mem_groups {cs g : List Clause} {c : Clause} (hg : g ∈ groups cs) (hc : c ∈ g) :
    c ∈ cs := by
  rw [← (cutAtOr_groups cs).whole]
  exact List.mem_flatten_of_mem hg hc

theorem consFirst_map {α β : Type} (f : α → β) (x : α) (gs : List (List α)) :
    consFirst (f x) (gs.map (List.map f)) = (consFirst x gs).map (List.map f) := by
  cases gs <;> simp [consFirst]

theorem groups_map {f : Clause → Clause}
    (hf : ∀ c, (f c).connective = some .or ↔ c.connective = some .or) (cs : List Clause) :
    groups (cs.map f) = (groups cs).map (List.map f) := by
  have hne : ∀ d rest, List.map f (d :: rest) ≠ [] := by simp
  fun_induction groups cs with
  | case1 => rfl
  | case2 c => rfl
  | case3 c d rest hc ih =>
    rw [List.map_cons, groups_cons_or (hne d rest) ((hf c).mpr hc), ih]
    rfl
  | case4 c d rest hc ih =>
    rw [List.map_cons, groups_cons_and (hne d rest) (mt (hf c).mp hc), ih, consFirst_map]

/-- The last clause ends the last group, whatever its connective is. -/
theorem groups_concat (cs : List Clause) :
    ∃ gs g, ∀ last, groups (cs ++ [last]) = gs ++ [g ++ [last]] := by
  induction cs with
  | nil => exact ⟨[], [], fun last => rfl⟩
  | cons c cs ih =>
    obtain ⟨gs, g, h⟩ := ih
    have hne : ∀ last, cs ++ [last] ≠ [] := by simp
    by_cases hc : c.connective = some .or
    · refine ⟨[c] :: gs, g, fun last => ?_⟩
      rw [List.cons_append, groups_cons_or (hne last) hc, h last, List.cons_append]
    · cases gs with
      | nil =>
        refine ⟨[], c :: g, fun last => ?_⟩
        rw [List.cons_append, groups_cons_and (hne last) hc, h last]
        rfl
      | cons k ks =>
        refine ⟨(c :: k) :: ks, g, fun last => ?_⟩
        rw [List.cons_append, groups_cons_and (hne last) hc, h last]
        rfl

section Evaluation

variable (facts : FactSource)

theorem evaluate_allOf (parts : List Condition) :
    (allOf parts).evaluate facts = parts.all (evaluate facts) := by
  unfold allOf
  split
  · simp
  · rw [evaluate, evaluateAll_eq]

theorem evaluate_anyOf (parts : List Condition) :
    (anyOf parts).evaluate facts = parts.any (evaluate facts) := by
  unfold anyOf
  split
  · simp
  · rw [evaluate, evaluateAny_eq]

theorem evaluate_ofGroup (g : List Clause) :
    (ofGroup g).evaluate facts = g.all fun c => (ofClause c).evaluate facts := by
  rw [ofGroup, evaluate_allOf, List.all_map]
  rfl

theorem ofClauses_of_ne_nil {cs : List Clause} (hcs : cs ≠ []) :
    ofClauses cs = anyOf ((groups cs).map ofGroup) := by
  cases cs with
  | nil => exact absurd rfl hcs
  | cons c cs => rfl

theorem evaluate_ofClauses {cs : List Clause} (hcs : cs ≠ []) :
    (ofClauses cs).evaluate facts =
      (groups cs).any fun g => g.all fun c => (ofClause c).evaluate facts := by
  rw [ofClauses_of_ne_nil hcs, evaluate_anyOf, List.any_map]
  congr 1
  funext g
  exact evaluate_ofGroup facts g

theorem evaluate_ofClauses_congr {f : Clause → Clause} {cs : List Clause}
    (hf : ∀ c, (f c).connective = some .or ↔ c.connective = some .or)
    (he : ∀ c ∈ cs, (ofClause (f c)).evaluate facts = (ofClause c).evaluate facts) :
    (ofClauses (cs.map f)).evaluate facts = (ofClauses cs).evaluate facts := by
  by_cases hcs : cs = []
  · subst hcs; rfl
  · rw [evaluate_ofClauses facts hcs, evaluate_ofClauses facts (by simpa using hcs), groups_map hf,
      List.any_map, Bool.eq_iff_iff]
    simp only [List.any_eq_true, Function.comp_apply, List.all_map, List.all_eq_true]
    refine exists_congr fun g => and_congr_right fun hg => forall₂_congr fun c hc => ?_
    rw [he c (mem_of_mem_groups hg hc)]

theorem evaluate_ofClauses_map {f : Clause → Clause}
    (hf : ∀ c, (f c).connective = some .or ↔ c.connective = some .or)
    (he : ∀ c, ofClause (f c) = ofClause c) (cs : List Clause) :
    (ofClauses (cs.map f)).evaluate facts = (ofClauses cs).evaluate facts :=
  evaluate_ofClauses_congr facts hf fun c _ => by rw [he c]

theorem evaluate_ofClauses_last (cs : List Clause) {c d : Clause} (h : ofClause c = ofClause d) :
    (ofClauses (cs ++ [c])).evaluate facts = (ofClauses (cs ++ [d])).evaluate facts := by
  obtain ⟨gs, g, hg⟩ := groups_concat cs
  rw [evaluate_ofClauses facts (by simp), evaluate_ofClauses facts (by simp), hg c, hg d]
  simp [h]

end Evaluation

/-- A list of clauses reads as an or of ands: some piece between the `||` is true as a whole. A missing
connective is an `&&`, and the connective of the last clause does nothing. -/
theorem evaluate_ofClauses_iff (cs : List Clause) (facts : FactSource) :
    (∃! pieces, CutAtOr cs pieces) ∧
    ((ofClauses cs).evaluate facts = true ↔
      cs = [] ∨ ∃ pieces, CutAtOr cs pieces ∧
        ∃ g ∈ pieces, ∀ c ∈ g, (ofClause c).evaluate facts = true) ∧
    (ofClauses (cs.map Clause.explicit)).evaluate facts = (ofClauses cs).evaluate facts ∧
    ∀ (last : Clause) (k : Option Connective),
      (ofClauses (cs ++ [{ last with connective := k }])).evaluate facts =
        (ofClauses (cs ++ [last])).evaluate facts := by
  refine ⟨⟨groups cs, cutAtOr_groups cs, fun _ => eq_groups_of_cutAtOr⟩, ?_, ?_, ?_⟩
  · by_cases hcs : cs = []
    · subst hcs
      simp [ofClauses, evaluate]
    · simp [hcs, evaluate_ofClauses facts hcs, cutAtOr_iff]
  · refine evaluate_ofClauses_map (f := Clause.explicit) facts (fun c => ?_) (fun c => rfl) cs
    cases h : c.connective <;> simp [Clause.explicit, h]
  · intro last k
    exact evaluate_ofClauses_last facts cs rfl

end Condition

end Eligibility
