import Eligibility.Proofs.FirstSeen
import Eligibility.Proofs.RuleFaults

/-!
The operators of a context that is made from its variables. It lists what some variable allows, each operator
once and in the order in which they are first met. A list that covers the context's own variables decides
nothing when clauses are checked, and this one does, also where several variables have one id.
-/

set_option autoImplicit false

namespace Eligibility

/-- The variable lists the operator, or lists none and its type has it. -/
def Variable.Offers (v : Variable) (o : Operator) : Prop :=
  o ∈ v.allowedOperators ∨ v.allowedOperators = [] ∧ o ∈ v.valueType.operators

instance (v : Variable) (o : Operator) : Decidable (v.Offers o) := inferInstanceAs (Decidable (_ ∨ _))

theorem Variable.mem_operators_iff {v : Variable} {o : Operator} : o ∈ v.operators ↔ v.Offers o := by
  unfold operators Offers
  cases v.allowedOperators <;> simp

namespace Context

variable {c : Context} {u v : Variable} {o : Operator} {clause : Clause}

theorem Defines.mem (h : c.Defines u) : u ∈ c.vars := by
  obtain ⟨before, after, hvars, -⟩ := h
  simp [hvars]

/-- The context with no list of operators, so that it holds none back. -/
def unrestricted (c : Context) : Context := { c with operators := [] }

/-- The list of the context holds nothing back that one of its variables allows. -/
def Covers (c : Context) : Prop := ∀ u ∈ c.vars, ∀ o, u.Offers o → c.Permits u o

theorem permits_iff_offers (h : c.Covers) (hu : u ∈ c.vars) : c.Permits u o ↔ u.Offers o :=
  ⟨fun hp => Variable.mem_operators_iff.mp hp.1, h u hu o⟩

theorem permits_unrestricted_iff : c.unrestricted.Permits u o ↔ u.Offers o := by
  simp [Permits, unrestricted, Variable.mem_operators_iff]

theorem fault?_eq_of_find? (hv : clause.subject? = some v) (hf : c.find? v.id = some u) :
    c.fault? clause =
      if clause.operator = .unknown then some .unknownOperator
      else if u.allows clause.operator && c.allows clause.operator then none
      else some (.disallowed clause.operator u.id u.valueType) := by
  simp [fault?, hv, hf]

/-- A context that covers its variables finds the faults that it would find without its list. -/
theorem fault?_unrestricted (h : c.Covers) (clause : Clause) :
    c.unrestricted.fault? clause = c.fault? clause := by
  cases hv : clause.subject? with
  | none => simp [fault?, hv]
  | some v =>
    cases hf : c.find? v.id with
    | none =>
      have hf' : c.unrestricted.find? v.id = none := hf
      simp only [fault?, hv, hf, hf']
      rfl
    | some u =>
      have hu : u ∈ c.vars := (find?_eq_some_iff.mp hf).2.mem
      have hallows : (u.allows clause.operator && c.unrestricted.allows clause.operator) =
          (u.allows clause.operator && c.allows clause.operator) := by
        rw [Bool.eq_iff_iff, ← permits_iff, ← permits_iff, permits_unrestricted_iff,
          permits_iff_offers h hu]
      rw [fault?_eq_of_find? hv hf, fault?_eq_of_find? (c := c.unrestricted) hv hf, hallows]

theorem clauseFaults_unrestricted (h : c.Covers) (clauses : List Clause) :
    c.unrestricted.clauseFaults clauses = c.clauseFaults clauses := by
  simp only [clauseFaults, fault?_unrestricted h]

theorem fault?_eq_none_iff_offers (h : c.Covers) (hv : clause.subject? = some v) (hu : c.Defines u)
    (hid : u.id = v.id) :
    c.fault? clause = none ↔ clause.operator ≠ .unknown ∧ u.Offers clause.operator := by
  rw [fault?_eq_of_find? hv (find?_eq_some_iff.mpr ⟨hid, hu⟩), ← permits_iff_offers h hu.mem, permits_iff]
  by_cases ho : clause.operator = .unknown
  · simp [ho]
  · simp [ho]

theorem forall_place_ne_iff {clauses : List Clause} {i : Nat} (hi : clauses[i]? = some clause) :
    (∀ f ∈ c.clauseFaults clauses, f.place? ≠ some i) ↔ c.fault? clause = none := by
  obtain ⟨hlt, rfl⟩ := List.getElem?_eq_some_iff.mp hi
  simp only [clauseFaults, List.mem_filterMap, List.mem_mapIdx]
  constructor
  · intro h
    cases hg : c.fault? clauses[i] with
    | none => rfl
    | some g =>
      have hmem : (c.fault? clauses[i]).map (RuleFault.clause i clauses[i].id) =
          some (.clause i clauses[i].id g) := by rw [hg, Option.map_some]
      exact absurd rfl (h _ ⟨_, ⟨i, hlt, rfl⟩, hmem⟩)
  · rintro hnone f ⟨_, ⟨j, hj, rfl⟩, hf⟩ hplace
    obtain ⟨g, hg, rfl⟩ := Option.map_eq_some_iff.mp hf
    obtain rfl : j = i := Option.some.inj hplace
    rw [hnone] at hg
    cases hg

section Union

variable (id name description : String) (vars : List Variable)

theorem mem_operators_ofVars_iff :
    o ∈ (ofVars id name description vars).operators ↔ ∃ v ∈ vars, v.Offers o := by
  have hseen := inFirstOrder_firstSeen (vars.flatMap Variable.operators)
  have hmem : o ∈ (ofVars id name description vars).operators ↔
      o ∈ vars.flatMap Variable.operators := hseen.mem o
  simp only [hmem, List.mem_flatMap, Variable.mem_operators_iff]

theorem covers_ofVars : (ofVars id name description vars).Covers := by
  intro u hu o ho
  refine ⟨Variable.mem_operators_iff.mpr ho, .inr ?_⟩
  exact (mem_operators_ofVars_iff id name description vars).mpr ⟨u, hu, ho⟩

/-- A context made from its variables lists the operators that some variable allows, each once, in the order
in which they are first met. Clauses have the same faults without the list: where the context has the variable
of a clause, the clause is taken exactly when its operator is known and the context's own variable of that id
allows it. -/
theorem operators_ofVars :
    InFirstOrder (ofVars id name description vars).operators (vars.flatMap Variable.operators) ∧
    (∀ o, o ∈ (ofVars id name description vars).operators ↔ ∃ v ∈ vars, v.Offers o) ∧
    ∀ clauses : List Clause,
      (ofVars id name description vars).unrestricted.clauseFaults clauses =
        (ofVars id name description vars).clauseFaults clauses ∧
      ∀ (i : Nat) (clause : Clause) (v u : Variable), clauses[i]? = some clause →
        clause.subject? = some v → (ofVars id name description vars).Defines u → u.id = v.id →
        ((∀ f ∈ (ofVars id name description vars).clauseFaults clauses, f.place? ≠ some i) ↔
          clause.operator ≠ .unknown ∧ u.Offers clause.operator) := by
  have hcovers := covers_ofVars id name description vars
  refine ⟨inFirstOrder_firstSeen _, fun o => mem_operators_ofVars_iff id name description vars,
    fun clauses => ⟨clauseFaults_unrestricted hcovers clauses, ?_⟩⟩
  intro i clause v u hi hv hu hid
  rw [forall_place_ne_iff hi]
  exact fault?_eq_none_iff_offers hcovers hv hu hid

end Union

def twoFares : List Variable :=
  [⟨"ride.fare", "Fare", .number, "ride", "", [.less, .greater, .less]⟩,
    ⟨"ride.fare", "Fare", .number, "ride", "", []⟩, ⟨"ride.note", "Note", .string, "ride", "", []⟩]

def fareClause (o : Operator) : Clause :=
  ⟨"", some ⟨"ride.fare", "Fare", .number, "ride", "", []⟩, o, .list [.integer 5, .integer 9], none⟩

/-- The second fare brings `between` into the list, and it is refused all the same. -/
theorem operators_ofVars_twoFares :
    (ofVars "ride" "Ride" "" twoFares).operators = [.less, .greater, .equal, .notEqual, .greaterOrEqual,
      .lessOrEqual, .between, .among, .contains, .startsWith, .endsWith] ∧
    (∀ f ∈ (ofVars "ride" "Ride" "" twoFares).clauseFaults [fareClause .less, fareClause .between],
      f.place? ≠ some 0) ∧
    ¬ ∀ f ∈ (ofVars "ride" "Ride" "" twoFares).clauseFaults [fareClause .less, fareClause .between],
      f.place? ≠ some 1 := by
  have hdefines : (ofVars "ride" "Ride" "" twoFares).Defines
      ⟨"ride.fare", "Fare", .number, "ride", "", [.less, .greater, .less]⟩ :=
    ⟨[], _, rfl, by simp⟩
  obtain ⟨-, -, hcheck⟩ := operators_ofVars "ride" "Ride" "" twoFares
  obtain ⟨-, htaken⟩ := hcheck [fareClause .less, fareClause .between]
  refine ⟨by decide, ?_, ?_⟩
  · exact (htaken 0 _ _ _ rfl rfl hdefines rfl).mpr (by decide)
  · exact mt (htaken 1 _ _ _ rfl rfl hdefines rfl).mp (by decide)

end Context

end Eligibility
