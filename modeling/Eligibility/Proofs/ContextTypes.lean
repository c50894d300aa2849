import Eligibility.Proofs.Characters
import Eligibility.Proofs.Grouping
import Eligibility.Proofs.RuleFaults

/-!
The types that a rule is read under. A clause is written and compared under the type of the variable that
it brings along, and a context that takes it looks at the id of the variable and at the operator. So the
context's own variable can stand in for the clause's, unless the operator reads something of the type in
which the two differ. Drafts that name their variables by id leave no room for that.
-/

set_option autoImplicit false

namespace Eligibility

namespace ValueType

variable {t u : ValueType}

/-- Values are written between quotes under both types or under neither. -/
def WrittenAlike (t u : ValueType) : Prop := t = .string ↔ u = .string

/-- Equality reads its two sides in the same way under both types. -/
def ComparedAlike (t u : ValueType) : Prop :=
  (t = .number ↔ u = .number) ∧ (t = .boolean ↔ u = .boolean)

instance (t u : ValueType) : Decidable (t.WrittenAlike u) := inferInstanceAs (Decidable (_ ↔ _))

instance (t u : ValueType) : Decidable (t.ComparedAlike u) := inferInstanceAs (Decidable (_ ∧ _))

end ValueType

namespace Value

variable {t u : ValueType}

theorem literal_congr (h : t.WrittenAlike u) (v : Value) : v.literal t = v.literal u := by
  have hscalar : ∀ w : Value, w.asList? = none → w.literal t = w.literal u := by
    intro w hw
    rcases literal_cases t hw with ⟨ht, hl⟩ | ⟨ht, hl⟩
    · rcases literal_cases u hw with ⟨-, hl'⟩ | ⟨hu, -⟩
      · rw [hl, hl']
      · exact absurd (h.mp ht) hu
    · rcases literal_cases u hw with ⟨hu, -⟩ | ⟨-, hl'⟩
      · exact absurd (h.mpr hu) ht
      · rw [hl, hl']
  induction v using induct with
  | list items ih => rw [literal, literal, literals_eq, literals_eq, List.map_congr_left ih]
  | text s => exact hscalar _ rfl
  | integer n => exact hscalar _ rfl
  | double x => exact hscalar _ rfl
  | truth b => exact hscalar _ rfl
  | null => exact hscalar _ rfl

theorem equalAs_congr (h : t.ComparedAlike u) : equalAs t = equalAs u := by
  obtain ⟨hn, hb⟩ := h
  cases t <;> cases u <;> simp at hn hb <;> rfl

/-- A text is never equal to itself as a truth value, and to another text only as a number. -/
theorem comparedAlike_of_equalAs (h : ∀ a b : String, equalAs t (.text a) (.text b) =
    equalAs u (.text a) (.text b)) : t.ComparedAlike u := by
  have hnumber : ∀ r : ValueType, equalAs r (.text "1") (.text "1.0") = decide (r = .number) := by
    intro r
    cases r <;> decide +kernel
  have htruth : ∀ r : ValueType, equalAs r (.text "a") (.text "a") = decide (r ≠ .boolean) := by
    intro r
    cases r <;> decide +kernel
  have hn := h "1" "1.0"
  have hb := h "a" "a"
  rw [hnumber, hnumber, decide_eq_decide] at hn
  rw [htruth, htruth, decide_eq_decide] at hb
  exact ⟨hn, Decidable.not_iff_not.mp hb⟩

theorem literal_null (t : ValueType) :
    null.literal t = if t = .string then "\"null\"" else "null" := by
  cases t <;> rfl

theorem writtenAlike_of_literal (h : null.literal t = null.literal u) : t.WrittenAlike u := by
  rw [literal_null, literal_null] at h
  unfold ValueType.WrittenAlike
  by_cases ht : t = .string <;> by_cases hu : u = .string <;> simp_all

theorem literal_singleton (t : ValueType) (v : Value) :
    (list [v]).literal t = "[" ++ v.literal t ++ "]" := by
  simp [literal, literals]

end Value

namespace Operator

def writesUnderType : Operator → Bool
  | .equal | .notEqual | .greater | .greaterOrEqual | .less | .lessOrEqual | .contains | .startsWith
  | .endsWith | .among => true
  | .between | .inList | .and | .or | .not | .unknown => false

def usesEquality : Operator → Bool
  | .equal | .notEqual | .contains | .among | .inList => true
  | _ => false

/-- What the operator reads of a type is the same in both. -/
def ReadsAlike (o : Operator) (t u : ValueType) : Prop :=
  (o.writesUnderType = true → t.WrittenAlike u) ∧ (o.usesEquality = true → t.ComparedAlike u)

instance (o : Operator) (t u : ValueType) : Decidable (o.ReadsAlike t u) :=
  inferInstanceAs (Decidable (_ ∧ _))

theorem readsAlike_refl (o : Operator) (t : ValueType) : o.ReadsAlike t t :=
  ⟨fun _ => Iff.rfl, fun _ => ⟨Iff.rfl, Iff.rfl⟩⟩

end Operator

structure SameUnder (o : Operator) (t u : ValueType) : Prop where
  text : ∀ (v : Variable) (value : Value), Clause.comparisonText { v with valueType := t } o value =
    Clause.comparisonText { v with valueType := u } o value
  holds : ∀ (id : String) (value actual : Value),
    (Comparison.mk id t o value).holdsOf actual = (Comparison.mk id u o value).holdsOf actual

section Sameness

variable {o : Operator} {t u : ValueType}

theorem comparisonText_congr (h : o.writesUnderType = true → t.WrittenAlike u) (v : Variable)
    (value : Value) : Clause.comparisonText { v with valueType := t } o value =
      Clause.comparisonText { v with valueType := u } o value := by
  cases hw : o.writesUnderType with
  | true =>
    have hl : ∀ w : Value, w.literal t = w.literal u := Value.literal_congr (h hw)
    cases o <;> simp only [Clause.comparisonText, hl]
  | false => cases o <;> simp [Operator.writesUnderType] at hw <;> rfl

theorem holdsOf_congr (h : o.usesEquality = true → t.ComparedAlike u) (id : String)
    (value actual : Value) :
    (Comparison.mk id t o value).holdsOf actual = (Comparison.mk id u o value).holdsOf actual := by
  cases hq : o.usesEquality with
  | true =>
    have he : Value.equalAs t = Value.equalAs u := Value.equalAs_congr (h hq)
    cases o <;> simp only [Comparison.holdsOf, Value.containsAs, he]
  | false => cases o <;> simp [Operator.usesEquality] at hq <;> rfl

theorem writtenAlike_of_text (ho : o.writesUnderType = true) (v : Variable)
    (h : Clause.comparisonText { v with valueType := t } o .null =
      Clause.comparisonText { v with valueType := u } o .null) : t.WrittenAlike u := by
  refine Value.writtenAlike_of_literal ?_
  cases o <;> simp_all [Operator.writesUnderType, Clause.comparisonText, Value.asItems,
    Value.literal_singleton]

theorem comparedAlike_of_holds (ho : o.usesEquality = true)
    (h : ∀ value actual : Value, (Comparison.mk "" t o value).holdsOf actual =
      (Comparison.mk "" u o value).holdsOf actual) : t.ComparedAlike u := by
  refine Value.comparedAlike_of_equalAs fun a b => ?_
  have htext := h (.text b) (.text a)
  have hlist := h (.text b) (.list [.text a])
  cases o <;> simp_all [Operator.usesEquality, Comparison.holdsOf, Value.containsAs]

/-- Nothing less will do: where an operator reads two types differently, some value shows it. -/
theorem readsAlike_iff_sameUnder : o.ReadsAlike t u ↔ SameUnder o t u := by
  constructor
  · intro h
    exact ⟨comparisonText_congr h.1, holdsOf_congr h.2⟩
  · intro h
    exact ⟨fun ho => writtenAlike_of_text ho ⟨"", "", t, "", "", []⟩ (h.text _ _),
      fun ho => comparedAlike_of_holds ho (h.holds "")⟩

end Sameness

namespace Context

variable {c : Context} {v : Variable}

def own (c : Context) (v : Variable) : Variable := (c.find? v.id).getD v

theorem own_id : (c.own v).id = v.id := by
  unfold own
  cases hf : c.find? v.id with
  | none => rfl
  | some u => exact (find?_eq_some_iff.mp hf).1

theorem own_eq_self {id : String} (h : c.find? id = some v) : c.own v = v := by
  rw [own, (find?_eq_some_iff.mp h).1, h, Option.getD_some]

theorem find?_of_fault?_eq_none {clause : Clause} (hv : clause.subject? = some v)
    (h : c.fault? clause = none) : c.find? v.id = some (c.own v) := by
  cases hf : c.find? v.id with
  | none => simp [fault?, hv, hf] at h
  | some u => rw [own, hf, Option.getD_some]

theorem fault?_eq_none_of_clauseFaults {cs : List Clause} (h : c.clauseFaults cs = []) :
    ∀ clause ∈ cs, c.fault? clause = none := by
  intro clause hmem
  obtain ⟨i, hi, rfl⟩ := List.getElem_of_mem hmem
  have hf := List.filterMap_eq_nil_iff.mp h _ (List.mem_mapIdx.mpr ⟨i, hi, rfl⟩)
  exact Option.map_eq_none_iff.mp hf

end Context

namespace Clause

/-- The clause with the context's own variable in the place of the one it brings along. -/
def typedBy (c : Context) (clause : Clause) : Clause :=
  { clause with subject? := clause.subject?.map c.own }

def SuitsTypes (c : Context) (clause : Clause) : Prop :=
  ∀ v ∈ clause.subject?, clause.operator.ReadsAlike (c.own v).valueType v.valueType

instance (c : Context) (clause : Clause) : Decidable (clause.SuitsTypes c) :=
  inferInstanceAs (Decidable (∀ v ∈ clause.subject?, _))

variable {c : Context} {clause : Clause}

theorem text_typedBy (h : clause.SuitsTypes c) : (clause.typedBy c).text = clause.text := by
  cases hv : clause.subject? with
  | none => simp [text, typedBy, hv]
  | some v =>
    have hsame := (readsAlike_iff_sameUnder.mp (h v hv)).text v clause.value
    have hown : comparisonText (c.own v) clause.operator clause.value =
        comparisonText { v with valueType := (c.own v).valueType } clause.operator clause.value := by
      simp only [comparisonText, Context.own_id]
    simp only [text, typedBy, hv, Option.map_some]
    exact hown.trans hsame

theorem evaluate_typedBy (h : clause.SuitsTypes c) (facts : FactSource) :
    (Condition.ofClause (clause.typedBy c)).evaluate facts =
      (Condition.ofClause clause).evaluate facts := by
  cases hv : clause.subject? with
  | none => simp [Condition.ofClause, typedBy, hv]
  | some v =>
    have hsame := (readsAlike_iff_sameUnder.mp (h v hv)).holds v.id clause.value
    by_cases ho : clause.operator.compares = true
    · simp only [Condition.ofClause, typedBy, hv, Option.map_some, ho, ↓reduceIte, Condition.evaluate,
        Comparison.holds, Context.own_id, hsame]
    · simp [Condition.ofClause, typedBy, hv, ho]

theorem expression_typedBy {cs : List Clause} (h : ∀ clause ∈ cs, clause.SuitsTypes c) :
    expression (cs.map (typedBy c)) = expression cs := by
  have hjoined : ∀ clause ∈ cs, (clause.typedBy c).joinedText = clause.joinedText := by
    intro clause hmem
    rw [joinedText, joinedText, text_typedBy (h clause hmem)]
    rfl
  cases cs with
  | nil => rfl
  | cons d ds =>
    have hmap : ((d :: ds).map (typedBy c)).map joinedText = (d :: ds).map joinedText := by
      rw [List.map_map]
      exact List.map_congr_left hjoined
    exact congrArg (" ".intercalate ·) hmap

end Clause

/-- A condition that names its variable by id gets the context's own. -/
theorem suitsTypes_clauseAt {c : Context} {d : DraftCondition} (place : Nat)
    (h : ∀ v, d.reference? ≠ some (.definition v)) : (d.clauseAt c place).SuitsTypes c := by
  intro v hv
  rcases DraftCondition.resolve?_eq_some_iff.mp hv with hdef | ⟨-, hdefines⟩
  · exact absurd hdef (h v)
  · have hown := Context.own_eq_self (Context.find?_eq_some_iff.mpr ⟨rfl, hdefines⟩)
    rw [hown]
    exact Operator.readsAlike_refl _ _

theorem suitsTypes_of_mem_resolve {c : Context} {d : Draft}
    (h : ∀ x ∈ d.conditions, ∀ v, x.reference? ≠ some (.definition v)) :
    ∀ clause ∈ (d.resolve c).clauses, clause.SuitsTypes c := by
  intro clause hmem
  obtain ⟨i, hi, rfl⟩ := List.mem_mapIdx.mp hmem
  exact suitsTypes_clauseAt i (h _ (List.getElem_mem hi))

/-- A context that takes a rule knows its variables. They can be replaced by its own, in the text and in the
tree, where every operator reads the two types alike, and so always when a draft brings no definitions. -/
theorem typedBy_unchanged (c : Context) (cs : List Clause) (hv : (Rule.compile c cs).isValid = true) :
    (∀ clause ∈ cs, ∀ v ∈ clause.subject?, c.find? v.id = some (c.own v)) ∧
    ((∀ clause ∈ cs, clause.SuitsTypes c) →
      Clause.expression (cs.map (Clause.typedBy c)) = Clause.expression cs ∧
      ∀ facts, (Condition.ofClauses (cs.map (Clause.typedBy c))).evaluate facts =
        (Condition.ofClauses cs).evaluate facts) ∧
    ∀ d : Draft, (∀ x ∈ d.conditions, ∀ v, x.reference? ≠ some (.definition v)) →
      cs = (d.resolve c).clauses → ∀ clause ∈ cs, clause.SuitsTypes c := by
  have hfaults : c.clauseFaults cs = [] := (List.append_eq_nil_iff.mp (List.isEmpty_iff.mp hv)).2
  refine ⟨fun clause hmem v hsubject => ?_, fun hsuits => ⟨?_, fun facts => ?_⟩, ?_⟩
  · exact Context.find?_of_fault?_eq_none hsubject
      (Context.fault?_eq_none_of_clauseFaults hfaults clause hmem)
  · exact Clause.expression_typedBy hsuits
  · exact Condition.evaluate_ofClauses_congr facts (fun _ => Iff.rfl) fun clause hmem =>
      Clause.evaluate_typedBy (hsuits clause hmem) facts
  · rintro d hd rfl
    exact suitsTypes_of_mem_resolve hd

def fareContext : Context := .ofVars "booking_event" "Booking event" "" [Builtin.fare]

def fareAs (t : ValueType) : Variable := ⟨"booking.fare", "My fare", t, "", "", []⟩

def fareClauses : List Clause :=
  [⟨"", some (fareAs .date), .greater, .text "20", some .or⟩,
    ⟨"", some (fareAs .string), .between, .list [.integer 10, .text "50"], none⟩]

def fareDraft : Draft := ⟨none, [⟨none, some (.id "booking.fare"), .equal, .text "20.0", none⟩]⟩

theorem typedBy_unchanged_fare :
    Clause.expression (fareClauses.map (Clause.typedBy fareContext)) = Clause.expression fareClauses ∧
      (fareContext.find? "booking.fare").isSome = true ∧
      ∀ clause ∈ (fareDraft.resolve fareContext).clauses, clause.SuitsTypes fareContext := by
  have hdraft : ∀ x ∈ fareDraft.conditions, ∀ v, x.reference? ≠ some (.definition v) := by
    simp [fareDraft]
  obtain ⟨hknown, hsame, -⟩ := typedBy_unchanged fareContext fareClauses (by decide +kernel)
  obtain ⟨-, -, hsuits⟩ := typedBy_unchanged fareContext (fareDraft.resolve fareContext).clauses
    (by decide +kernel)
  refine ⟨(hsame (by decide +kernel)).1, ?_, hsuits fareDraft hdraft rfl⟩
  have hfind := hknown ⟨"", some (fareAs .date), .greater, .text "20", some .or⟩
    (by simp [fareClauses]) (fareAs .date) rfl
  exact Option.isSome_of_eq_some hfind

/-- A fare that comes as a text is accepted, written between quotes and compared as a text. -/
theorem not_typedBy_unchanged :
    (¬ ∀ (c : Context) (cs : List Clause), (Rule.compile c cs).isValid = true →
      Clause.expression (cs.map (Clause.typedBy c)) = Clause.expression cs) ∧
    ¬ ∀ (c : Context) (cs : List Clause) (facts : FactSource), (Rule.compile c cs).isValid = true →
      (Condition.ofClauses (cs.map (Clause.typedBy c))).evaluate facts =
        (Condition.ofClauses cs).evaluate facts := by
  have hvalid : (Rule.compile fareContext
      [⟨"", some (fareAs .string), .equal, .text "20.0", none⟩]).isValid = true := by
    decide +kernel
  constructor
  · intro h
    exact absurd (h _ _ hvalid) (by decide +kernel)
  · intro h
    exact absurd (h _ _ (fun _ => some (.integer 20)) hvalid) (by decide +kernel)

end Eligibility
