import Eligibility.Proofs.Characters
import Eligibility.Proofs.Grouping

/-!
The stored text of a list of clauses against its tree. The text is cut at its `||` and each piece at its
`&&`; where no id and no text of a value has one of those marks, the pieces are the checks of the clauses
in the groups of the tree.
-/

set_option autoImplicit false

namespace Eligibility

namespace Text

/-- The pieces of a text between the places where the separator stands. The first `skip` characters are
passed over: they belong to a separator that was met. -/
def cutFrom (sep : List Char) : Nat → List Char → List (List Char)
  | _, [] => [[]]
  | skip + 1, _ :: cs => cutFrom sep skip cs
  | 0, c :: cs =>
    if sep.isPrefixOf (c :: cs) then [] :: cutFrom sep (sep.length - 1) cs
    else Condition.consFirst c (cutFrom sep 0 cs)

def cutAt (sep s : String) : List String := (cutFrom sep.toList 0 s.toList).map String.ofList

theorem cutFrom_skip (sep xs cs : List Char) :
    cutFrom sep xs.length (xs ++ cs) = cutFrom sep 0 cs := by
  induction xs with
  | nil => rfl
  | cons x xs ih => simpa [cutFrom] using ih

section Separator

variable {b m : Char} {tl : List Char}

theorem cutFrom_of_not_mem {cs : List Char} (h : m ∉ cs) : cutFrom (b :: m :: tl) 0 cs = [cs] := by
  induction cs with
  | nil => rfl
  | cons c cs ih =>
    have hp : (b :: m :: tl).isPrefixOf (c :: cs) = false := by
      rw [Bool.eq_false_iff]
      intro hp
      have hs := (List.isPrefixOf_iff_prefix.mp hp).subset
      exact h (hs (by simp))
    have hcs : m ∉ cs := fun hm => h (List.mem_cons_of_mem c hm)
    rw [cutFrom, hp, ih hcs]
    rfl

/-- The mark keeps a separator from starting before the one that is written. -/
theorem cutFrom_append {cs : List Char} (rest : List Char) (h : m ∉ cs) (hb : b ≠ m) :
    cutFrom (b :: m :: tl) 0 (cs ++ (b :: m :: tl ++ rest)) =
      cs :: cutFrom (b :: m :: tl) 0 rest := by
  induction cs with
  | nil =>
    have hp : (b :: m :: tl).isPrefixOf (b :: (m :: tl ++ rest)) = true := by
      simp [List.isPrefixOf_iff_prefix]
    rw [List.nil_append, List.cons_append, cutFrom, if_pos hp]
    have hs := cutFrom_skip (b :: m :: tl) (m :: tl) rest
    simpa using hs
  | cons c cs ih =>
    have hcs : m ∉ cs := fun hm => h (List.mem_cons_of_mem c hm)
    have hp : (b :: m :: tl).isPrefixOf (c :: (cs ++ (b :: m :: tl ++ rest))) = false := by
      cases cs with
      | nil => simp [List.isPrefixOf, hb.symm]
      | cons d ds =>
        have hd : m ≠ d := by rintro rfl; simp at hcs
        simp [List.isPrefixOf, hd]
    rw [List.cons_append, cutFrom, hp, ih hcs]
    rfl

end Separator

theorem cutAt_intercalate {sep : String} {b m : Char} {tl : List Char} (hsep : sep.toList = b :: m :: tl)
    (hb : b ≠ m) {ps : List String} (hne : ps ≠ []) (h : ∀ p ∈ ps, m ∉ p.toList) :
    cutAt sep (sep.intercalate ps) = ps := by
  induction ps with
  | nil => exact absurd rfl hne
  | cons p ps ih =>
    have hp := h p (by simp)
    by_cases hps : ps = []
    · subst hps
      simp [cutAt, hsep, cutFrom_of_not_mem hp]
    · have hi := ih hps fun q hq => h q (List.mem_cons_of_mem p hq)
      rw [String.intercalate_cons_of_ne_nil hps, cutAt, String.toList_append, String.toList_append,
        List.append_assoc, hsep, cutFrom_append _ hp hb, ← hsep, List.map_cons, ← cutAt, hi,
        String.ofList_toList]

end Text

namespace Clause

/-- Each clause but the last has a connective, and the last has none. -/
structure Joined (cs : List Clause) : Prop where
  nonempty : cs ≠ []
  inner : ∀ c ∈ cs.dropLast, c.connective ≠ none
  last : ∀ c ∈ cs.getLast?, c.connective = none

def Lacks (mark : Char) (c : Clause) : Prop :=
  (∀ v ∈ c.subject?, mark ∉ v.id.toList) ∧ ∀ s ∈ c.value.texts, mark ∉ s.toList

instance (mark : Char) (c : Clause) : Decidable (c.Lacks mark) :=
  inferInstanceAs (Decidable (_ ∧ _))

def lowerCheck (v : Variable) (value : Value) : String := v.id ++ " >= " ++ value.bounds.1.plain

def upperCheck (v : Variable) (value : Value) : String := v.id ++ " <= " ++ value.bounds.2.plain

/-- The checks that a clause writes: two for a `between`, and one for any other. -/
def checks (c : Clause) : List String :=
  match c.subject?, c.operator with
  | some v, .between => [lowerCheck v c.value, upperCheck v c.value]
  | _, _ => [c.text]

theorem checks_ne_nil (c : Clause) : c.checks ≠ [] := by
  unfold checks
  split <;> simp

theorem intercalate_checks (c : Clause) : " && ".intercalate c.checks = c.text := by
  unfold checks
  split
  next v hv ho =>
    simp [text, hv, ho, comparisonText, lowerCheck, upperCheck, String.append_assoc]
  next => simp

theorem not_mem_checks {mark : Char} {c : Clause} (hm : isOwnChar mark = false) (hc : c.Lacks mark) :
    ∀ p ∈ c.checks, mark ∉ p.toList := by
  have lacks : ∀ v ∈ c.subject?, ¬ MayHold v c.value mark := by
    rintro v hv (h | h | ⟨s, hs, h⟩)
    · simp [hm] at h
    · exact hc.1 v hv h
    · exact hc.2 s hs h
  intro p hp h
  unfold checks at hp
  split at hp
  next v hv ho =>
    simp only [List.mem_cons, List.not_mem_nil, or_false] at hp
    rcases hp with rfl | rfl
    · exact lacks v hv (mayHold_of_bound (by decide)
        (fun s hs => Value.texts_bounds _ (.inl hs)) h)
    · exact lacks v hv (mayHold_of_bound (by decide)
        (fun s hs => Value.texts_bounds _ (.inr hs)) h)
  next hb =>
    obtain rfl : p = c.text := by simpa using hp
    unfold text at h
    split at h
    next => exact absurd (holds_of_mem (p := isOwnChar) h (by decide)) (by simp [hm])
    next v hv =>
      exact lacks v hv (mayHold_of_comparisonText (fun ho => hb v hv ho) h)

theorem expression_cons {c : Clause} {cs : List Clause} {k : Connective} (hcs : cs ≠ [])
    (hk : c.connective = some k) :
    expression (c :: cs) = c.text ++ (" " ++ k.symbol ++ " ") ++ expression cs := by
  obtain ⟨d, ds, rfl⟩ := List.exists_cons_of_ne_nil hcs
  simp [expression, joinedText, hk, String.append_assoc]

namespace Joined

theorem tail {c : Clause} {cs : List Clause} (h : Joined (c :: cs)) (hcs : cs ≠ []) :
    Joined cs where
  nonempty := hcs
  inner d hd := h.inner d (by rw [List.dropLast_cons_of_ne_nil hcs]; exact List.mem_cons_of_mem c hd)
  last := by
    have hl := h.last
    obtain ⟨d, ds, rfl⟩ := List.exists_cons_of_ne_nil hcs
    rwa [List.getLast?_cons_cons] at hl

theorem head {c : Clause} {cs : List Clause} (h : Joined (c :: cs)) (hcs : cs ≠ []) :
    c.connective ≠ none :=
  h.inner c (by rw [List.dropLast_cons_of_ne_nil hcs]; exact List.mem_cons_self)

end Joined

/-- The text of a joined list names its groups. -/
theorem expression_eq_groups {cs : List Clause} (h : Joined cs) :
    expression cs = " || ".intercalate
      ((Condition.groups cs).map fun g => " && ".intercalate (g.map text)) := by
  fun_induction Condition.groups cs with
  | case1 => exact absurd rfl h.nonempty
  | case2 c =>
    have hc := h.last c (by simp)
    simp [expression, joinedText, hc]
  | case3 c d rest hc ih =>
    have hne := List.cons_ne_nil d rest
    have hgs := Condition.groups_ne_nil hne
    rw [expression_cons hne hc, ih (h.tail hne), List.map_cons,
      String.intercalate_cons_of_ne_nil (by simpa using hgs)]
    simp [Connective.symbol]
  | case4 c d rest hc ih =>
    have hne := List.cons_ne_nil d rest
    have hk : c.connective = some .and := by
      have hn := h.head hne
      cases hk : c.connective with
      | none => exact absurd hk hn
      | some k => cases k with
        | and => rfl
        | or => exact absurd hk hc
    obtain ⟨g, gs, hg⟩ := List.exists_cons_of_ne_nil (Condition.groups_ne_nil hne)
    have hmem := (Condition.cutAtOr_groups (d :: rest)).nonempty g (by simp [hg])
    have hand : " && ".intercalate (c.text :: g.map text) =
        c.text ++ " && " ++ " && ".intercalate (g.map text) :=
      String.intercalate_cons_of_ne_nil (by simpa using hmem)
    rw [expression_cons hne hk, ih (h.tail hne), hg, Condition.consFirst, List.map_cons, List.map_cons,
      List.map_cons, hand, String.intercalate_cons_append]
    rfl

theorem intercalate_flatMap_checks (g : List Clause) :
    " && ".intercalate (g.flatMap checks) = " && ".intercalate (g.map text) := by
  induction g with
  | nil => rfl
  | cons c g ih =>
    by_cases hg : g = []
    · subst hg
      simp [intercalate_checks]
    · have hne : g.flatMap checks ≠ [] := by
        obtain ⟨d, ds, rfl⟩ := List.exists_cons_of_ne_nil hg
        simp [checks_ne_nil]
      rw [List.flatMap_cons, String.intercalate_append_of_ne_nil (checks_ne_nil c) hne,
        intercalate_checks, ih, List.map_cons, String.intercalate_cons_of_ne_nil (by simpa using hg)]

end Clause

/-- A text read as an or of ands under truth values of its pieces. -/
def readAsOrOfAnds (truth : String → Bool) (text : String) : Bool :=
  (Text.cutAt " || " text).any fun part => (Text.cutAt " && " part).all truth

/-- Truth values of pieces that agree with what the clauses of a list evaluate to. -/
structure Agrees (truth : String → Bool) (facts : FactSource) (cs : List Clause) : Prop where
  constant : truth "true" = true
  single : ∀ c ∈ cs, c.operator ≠ .between →
    truth c.text = (Condition.ofClause c).evaluate facts
  bounds : ∀ c ∈ cs, ∀ v ∈ c.subject?, c.operator = .between →
    (truth (Clause.lowerCheck v c.value) && truth (Clause.upperCheck v c.value)) =
      (Condition.ofClause c).evaluate facts

theorem Agrees.all_checks {truth : String → Bool} {facts : FactSource} {cs : List Clause}
    (h : Agrees truth facts cs) {c : Clause} (hc : c ∈ cs) :
    c.checks.all truth = (Condition.ofClause c).evaluate facts := by
  by_cases ho : c.operator = .between
  · cases hs : c.subject? with
    | none => simp [Clause.checks, Clause.text, hs, h.constant, Condition.ofClause, Condition.evaluate]
    | some v => simpa [Clause.checks, hs, ho] using h.bounds c hc v hs ho
  · have hk : c.checks = [c.text] := by
      unfold Clause.checks
      split
      next v hv hb => exact absurd hb ho
      next => rfl
    simpa [hk] using h.single c hc ho

theorem Agrees.any_groups {truth : String → Bool} {facts : FactSource} {cs : List Clause}
    (h : Agrees truth facts cs) :
    ((Condition.groups cs).any fun g => (g.flatMap Clause.checks).all truth) =
      (Condition.groups cs).any fun g => g.all fun c => (Condition.ofClause c).evaluate facts := by
  have hg : ∀ g ∈ Condition.groups cs, (g.flatMap Clause.checks).all truth =
      g.all fun c => (Condition.ofClause c).evaluate facts := by
    intro g hg
    rw [List.all_flatMap, Bool.eq_iff_iff, List.all_eq_true, List.all_eq_true]
    refine forall₂_congr fun c hc => ?_
    rw [h.all_checks (Condition.mem_of_mem_groups hg hc)]
  rw [Bool.eq_iff_iff, List.any_eq_true, List.any_eq_true]
  refine exists_congr fun g => and_congr_right fun hmem => ?_
  rw [hg g hmem]

section Cutting

variable {cs : List Clause} (hj : Clause.Joined cs)

include hj

theorem cutAt_or_expression (hor : ∀ c ∈ cs, c.Lacks '|') :
    Text.cutAt " || " (Clause.expression cs) =
      (Condition.groups cs).map fun g => " && ".intercalate (g.map Clause.text) := by
  rw [Clause.expression_eq_groups hj]
  refine Text.cutAt_intercalate rfl (by decide) (by simpa using Condition.groups_ne_nil hj.nonempty) ?_
  intro p hp hm
  obtain ⟨g, hg, rfl⟩ := List.mem_map.mp hp
  rw [← Clause.intercalate_flatMap_checks] at hm
  rcases mem_intercalate hm with hm | ⟨q, hq, hm⟩
  · exact absurd hm (by decide)
  · obtain ⟨c, hc, hq⟩ := List.mem_flatMap.mp hq
    exact Clause.not_mem_checks (by decide) (hor c (Condition.mem_of_mem_groups hg hc)) q hq hm

theorem cutAt_expression (hand : ∀ c ∈ cs, c.Lacks '&') (hor : ∀ c ∈ cs, c.Lacks '|') :
    (Text.cutAt " || " (Clause.expression cs)).map (Text.cutAt " && ") =
      (Condition.groups cs).map fun g => g.flatMap Clause.checks := by
  rw [cutAt_or_expression hj hor, List.map_map]
  refine List.map_congr_left fun g hg => ?_
  have hne := (Condition.cutAtOr_groups cs).nonempty g hg
  rw [Function.comp, ← Clause.intercalate_flatMap_checks]
  refine Text.cutAt_intercalate rfl (by decide) ?_ ?_
  · obtain ⟨c, ds, rfl⟩ := List.exists_cons_of_ne_nil hne
    simp [Clause.checks_ne_nil]
  · intro p hp
    obtain ⟨c, hc, hp⟩ := List.mem_flatMap.mp hp
    exact Clause.not_mem_checks (by decide) (hand c (Condition.mem_of_mem_groups hg hc)) p hp

/-- The stored text of a joined list and its tree have the same groups. Cut at its `||` and its `&&`, the
text gives the checks of the clauses group by group; read as an or of ands, it says what the tree says. -/
theorem expression_agrees_with_tree (hand : ∀ c ∈ cs, c.Lacks '&') (hor : ∀ c ∈ cs, c.Lacks '|') :
    (Text.cutAt " || " (Clause.expression cs)).map (Text.cutAt " && ") =
        (Condition.groups cs).map (fun g => g.flatMap Clause.checks) ∧
      (∀ c ∈ cs, " && ".intercalate c.checks = c.text) ∧
      ∀ truth facts, Agrees truth facts cs →
        readAsOrOfAnds truth (Clause.expression cs) = (Condition.ofClauses cs).evaluate facts := by
  have hcut := cutAt_expression hj hand hor
  refine ⟨hcut, fun c _ => Clause.intercalate_checks c, fun truth facts h => ?_⟩
  calc readAsOrOfAnds truth (Clause.expression cs)
    _ = ((Text.cutAt " || " (Clause.expression cs)).map (Text.cutAt " && ")).any
          (fun part => part.all truth) := by rw [readAsOrOfAnds, List.any_map]; rfl
    _ = (Condition.groups cs).any (fun g => (g.flatMap Clause.checks).all truth) := by
        rw [hcut, List.any_map]; rfl
    _ = (Condition.groups cs).any
          (fun g => g.all fun c => (Condition.ofClause c).evaluate facts) := h.any_groups
    _ = (Condition.ofClauses cs).evaluate facts :=
        (Condition.evaluate_ofClauses facts hj.nonempty).symm

end Cutting

def marchClauses : List Clause :=
  [⟨"1", some ⟨"pickup", "Pickup", .date, "booking", "", []⟩, .between,
      .list [.text "2026-03-01", .text "2026-03-31"], some .and⟩,
    ⟨"2", some ⟨"customer.tier", "Tier", .string, "customer", "", []⟩, .among,
      .list [.text "gold", .text "silver"], some .or⟩,
    ⟨"3", none, .equal, .null, none⟩]

def aprilFacts : FactSource := fun id => if id = "pickup" then some (.text "2026-04-02") else none

def aprilTruth (piece : String) : Bool := piece == "pickup >= 2026-03-01" || piece == "true"

theorem expression_agrees_with_tree_march :
    Clause.Joined marchClauses ∧ (∀ c ∈ marchClauses, c.Lacks '&') ∧
      (∀ c ∈ marchClauses, c.Lacks '|') ∧ Agrees aprilTruth aprilFacts marchClauses ∧
      (Text.cutAt " || " (Clause.expression marchClauses)).map (Text.cutAt " && ") =
        [["pickup >= 2026-03-01", "pickup <= 2026-03-31",
          "[\"gold\", \"silver\"].includes(customer.tier)"], ["true"]] ∧
      readAsOrOfAnds aprilTruth (Clause.expression marchClauses) =
        (Condition.ofClauses marchClauses).evaluate aprilFacts := by
  have hj : Clause.Joined marchClauses := ⟨by decide, by decide, by decide⟩
  have hand : ∀ c ∈ marchClauses, c.Lacks '&' := by decide
  have hor : ∀ c ∈ marchClauses, c.Lacks '|' := by decide
  have ha : Agrees aprilTruth aprilFacts marchClauses :=
    ⟨by decide, by decide +kernel, by decide +kernel⟩
  have h := expression_agrees_with_tree hj hand hor
  exact ⟨hj, hand, hor, ha, h.1.trans (by decide), h.2.2 _ _ ha⟩

end Eligibility
