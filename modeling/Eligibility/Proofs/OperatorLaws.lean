import Eligibility.Catalog.Builtin
import Eligibility.Condition.Facts
import Eligibility.Proofs.Characters

/-!
Laws that tie the operators of comparisons together. On a number variable equality reads both sides as
numbers; the order does so where one of them is a number, but takes two texts by their characters. So the
order operators agree with equality except on two texts that write one number in two ways: those are equal,
and one of them is greater too. `between` and the operators of lists say nothing that the order operators
and equality do not say.
-/

set_option autoImplicit false

namespace Eligibility

/-- What a comparison of the variable with the value answers under an operator. -/
def FactSource.answer (facts : FactSource) (id : String) (valueType : ValueType) (o : Operator)
    (v : Value) : Bool :=
  (Condition.field ⟨id, valueType, o, v⟩).evaluate facts

section Answer

variable {facts : FactSource} {id : String} {o : Operator}

theorem answer_of_fact {actual : Value} (ho : o.compares = true) (hf : facts id = some actual)
    (valueType : ValueType) (v : Value) :
    facts.answer id valueType o v = (⟨id, valueType, o, v⟩ : Comparison).holdsOf actual := by
  rw [FactSource.answer, Condition.evaluate, Comparison.holds_of_fact ho hf]

theorem answer_of_unknown (ho : o.compares = true) (hf : facts id = none) (valueType : ValueType)
    (v : Value) : facts.answer id valueType o v = false := by
  rw [FactSource.answer, Condition.evaluate, Comparison.holds_of_unknown ho hf]

end Answer

/-- Of less, equal and greater one is true, and each inclusive operator is the or of its two parts. -/
structure AgreesWithEquality (holds : Operator → Bool) : Prop where
  one : [Operator.less, .equal, .greater].countP holds = 1
  greaterOrEqual : holds .greaterOrEqual = true ↔ holds .greater = true ∨ holds .equal = true
  lessOrEqual : holds .lessOrEqual = true ↔ holds .less = true ∨ holds .equal = true

theorem compareOfLessAndEq_text_eq_iff {s t : String} : compareOfLessAndEq s t = .eq ↔ s = t := by
  unfold compareOfLessAndEq
  split
  next h =>
    have hne : s ≠ t := by
      rintro rfl
      exact String.lt_irrefl s h
    simp [hne]
  next => split <;> simp [*]

namespace Binary64

variable {x y : Binary64}

theorem equals_self (hx : x ≠ .nan) : x.equals x = true := by
  obtain ⟨k, hk⟩ := Option.ne_none_iff_exists'.mp (mt (key_eq_none_iff x).mp hx)
  have hself : compare k k = .eq := Std.ReflOrd.compare_self
  have hc : x.compare? x = some (compare k k) := by
    rw [compare?, hk]
    rfl
  rw [equals, hc, hself]
  rfl

theorem exists_compare? (hx : x ≠ .nan) (hy : y ≠ .nan) : ∃ o, x.compare? y = some o := by
  refine Option.ne_none_iff_exists'.mp fun h => ?_
  rcases (compare?_eq_none_iff x y).mp h with h | h
  · exact hx h
  · exact hy h

end Binary64

namespace Value

variable {actual expected : Value} {x y : Binary64}

theorem equalAs_number (hx : actual.asDouble? = some x) (hy : expected.asDouble? = some y) :
    actual.equalAs .number expected = x.equals y := by
  simp only [equalAs, hx, hy]

theorem order?_of_isNumeric (hn : (actual.isNumeric || expected.isNumeric) = true)
    (hx : actual.asDouble? = some x) (hy : expected.asDouble? = some y) :
    actual.order? expected = x.compare? y := by
  unfold order?
  rw [if_pos hn, hx, hy]
  rfl

theorem order?_text (s t : String) :
    (Value.text s).order? (.text t) = some (compareOfLessAndEq s t) := rfl

theorem exists_text_of_asDouble? (hn : actual.isNumeric = false) (hx : actual.asDouble? = some x) :
    ∃ s, actual = .text s := by
  cases actual with
  | text s => exact ⟨s, rfl⟩
  | integer n => cases hn
  | double z => cases hn
  | truth b => cases hx
  | list items => cases hx
  | null => cases hx

end Value

section Order

variable {facts : FactSource} {id : String} {actual expected : Value}

theorem agreesWithEquality_iff (valueType : ValueType) {place : Ordering}
    (hf : facts id = some actual) (ho : actual.order? expected = some place) :
    AgreesWithEquality (fun o => facts.answer id valueType o expected) ↔
      (actual.equalAs valueType expected = true ↔ place = .eq) := by
  have hequal : facts.answer id valueType .equal expected = actual.equalAs valueType expected :=
    answer_of_fact rfl hf valueType expected
  have hless : facts.answer id valueType .less expected = (some place == some .lt) :=
    (answer_of_fact rfl hf valueType expected).trans (congrArg (· == some Ordering.lt) ho)
  have hgreater : facts.answer id valueType .greater expected = (some place == some .gt) :=
    (answer_of_fact rfl hf valueType expected).trans (congrArg (· == some Ordering.gt) ho)
  have hatLeast : facts.answer id valueType .greaterOrEqual expected =
      Comparison.atLeast (some place) :=
    (answer_of_fact rfl hf valueType expected).trans (congrArg Comparison.atLeast ho)
  have hatMost : facts.answer id valueType .lessOrEqual expected = Comparison.atMost (some place) :=
    (answer_of_fact rfl hf valueType expected).trans (congrArg Comparison.atMost ho)
  have hcount : [Operator.less, .equal, .greater].countP (fun o => facts.answer id valueType o expected) =
      1 ↔ (actual.equalAs valueType expected = true ↔ place = .eq) := by
    simp only [List.countP_cons, List.countP_nil, hequal, hless, hgreater]
    generalize actual.equalAs valueType expected = equal
    cases place <;> cases equal <;> decide
  refine ⟨fun h => hcount.mp h.one, fun h => ⟨hcount.mpr h, ?_, ?_⟩⟩
  · rw [hatLeast, hgreater, hequal, h]
    cases place <;> decide
  · rw [hatMost, hless, hequal, h]
    cases place <;> decide

/-- On a number variable the order operators agree with equality unless both sides are texts, and not the
same text, that write one number. -/
theorem numberOrder_agrees_iff {x y : Binary64} (hf : facts id = some actual)
    (hx : actual.asDouble? = some x) (hy : expected.asDouble? = some y) (hnx : x ≠ .nan)
    (hny : y ≠ .nan) :
    AgreesWithEquality (fun o => facts.answer id .number o expected) ↔
      ∀ s t, actual = .text s → expected = .text t → x.equals y = true → s = t := by
  obtain ⟨place, hplace⟩ := Binary64.exists_compare? hnx hny
  have heq : x.equals y = true ↔ place = .eq := by simp [Binary64.equals, hplace]
  cases hn : actual.isNumeric || expected.isNumeric with
  | true =>
    have ho : actual.order? expected = some place :=
      (Value.order?_of_isNumeric hn hx hy).trans hplace
    have htexts : ∀ s t, actual = .text s → expected ≠ .text t := by
      rintro s t rfl rfl
      cases hn
    rw [agreesWithEquality_iff .number hf ho, Value.equalAs_number hx hy]
    exact ⟨fun _ s t hs ht => absurd ht (htexts s t hs), fun _ => heq⟩
  | false =>
    obtain ⟨ha, he⟩ := Bool.or_eq_false_iff.mp hn
    obtain ⟨s, rfl⟩ := Value.exists_text_of_asDouble? ha hx
    obtain ⟨t, rfl⟩ := Value.exists_text_of_asDouble? he hy
    rw [agreesWithEquality_iff .number hf (Value.order?_text s t), Value.equalAs_number hx hy,
      compareOfLessAndEq_text_eq_iff]
    constructor
    · rintro h _ _ ⟨⟩ ⟨⟩ hxy
      exact h.mp hxy
    · intro h
      refine ⟨h s t rfl rfl, ?_⟩
      rintro rfl
      obtain rfl : x = y := Option.some.inj (hx.symm.trans hy)
      exact Binary64.equals_self hnx

end Order

def fareFacts (v : Value) : Facts := ⟨[("booking.fare", v)]⟩

theorem numberOrder_agrees_iff_fare :
    (AgreesWithEquality fun o =>
      (fareFacts (.text " 9.50 ")).fact.answer "booking.fare" .number o (.integer 10)) ∧
    AgreesWithEquality fun o =>
      (fareFacts (.text " 9.50 ")).fact.answer "booking.fare" .number o (.text "10") := by
  have hx : (Value.text " 9.50 ").asDouble? = some (.ofDecimal false 950 (-2)) := by decide +kernel
  have hy : (Value.text "10").asDouble? = some (.ofDecimal false 10 0) := by decide +kernel
  constructor
  · refine (numberOrder_agrees_iff rfl hx rfl (by decide +kernel) (by decide +kernel)).mpr ?_
    intro s t _ ht
    cases ht
  · refine (numberOrder_agrees_iff rfl hx hy (by decide +kernel) (by decide +kernel)).mpr ?_
    intro s t _ _ heq
    exact absurd heq (by decide +kernel)

/-- Two texts that write one number can be equal and one greater than the other. -/
theorem not_numberOrder_agrees :
    ¬ ∀ (facts : FactSource) (id : String) (actual expected : Value) (x y : Binary64),
      facts id = some actual → actual.asDouble? = some x → expected.asDouble? = some y →
      x ≠ .nan → y ≠ .nan → AgreesWithEquality fun o => facts.answer id .number o expected := by
  intro h
  have hx : (Value.text "1.0").asDouble? = some (.ofDecimal false 10 (-1)) := by decide +kernel
  have hy : (Value.text "1").asDouble? = some (.ofDecimal false 1 0) := by decide +kernel
  have hone := (h (fareFacts (.text "1.0")).fact "booking.fare" (.text "1.0") (.text "1") _ _ rfl hx hy
    (by decide +kernel) (by decide +kernel)).one
  have htwo : [Operator.less, .equal, .greater].countP
      (fun o => (fareFacts (.text "1.0")).fact.answer "booking.fare" .number o (.text "1")) = 2 := by
    decide +kernel
  rw [htwo] at hone
  cases hone

namespace Value

/-- The item of a list at a place; zero where there is none, and for a value that is no list. -/
def itemOrZero (payload : Value) (place : Nat) : Value :=
  ((payload.asList?.getD [])[place]?).getD (.integer 0)

theorem bounds_eq (payload : Value) : payload.bounds = (payload.itemOrZero 0, payload.itemOrZero 1) := by
  cases payload with
  | list items =>
    match items with
    | [] => rfl
    | [low] => rfl
    | low :: high :: rest => rfl
  | _ => rfl

/-- Evaluation takes the bounds that the text of a `between` has. -/
theorem limits_eq_bounds (payload : Value) : Comparison.limits payload = payload.bounds := by
  rw [bounds_eq]
  cases payload <;> rfl

theorem literal_eq_plain {v : Value} {valueType : ValueType} (ht : valueType ≠ .string)
    (hv : v.asList? = none) : v.literal valueType = v.plain := by
  rcases literal_cases valueType hv with ⟨hs, -⟩ | ⟨-, hl⟩
  · exact absurd hs ht
  · exact hl

end Value

section Derived

variable {facts : FactSource} {id : String} {valueType : ValueType}

theorem answer_between (payload : Value) :
    facts.answer id valueType .between payload =
      (facts.answer id valueType .greaterOrEqual payload.bounds.1 &&
        facts.answer id valueType .lessOrEqual payload.bounds.2) := by
  cases hf : facts id with
  | none =>
    rw [answer_of_unknown rfl hf, answer_of_unknown rfl hf, Bool.false_and]
  | some actual =>
    rw [answer_of_fact rfl hf, answer_of_fact rfl hf, answer_of_fact rfl hf]
    simp only [Comparison.holdsOf, payload.limits_eq_bounds]

theorem answer_among {o : Operator} (ho : o = .among ∨ o = .inList) (payload : Value) :
    facts.answer id valueType o payload =
      match payload with
      | .list items => items.any (facts.answer id valueType .equal)
      | v => facts.answer id valueType .equal v := by
  have hc : o.compares = true := by rcases ho with rfl | rfl <;> rfl
  cases hf : facts id with
  | none =>
    have hequal : facts.answer id valueType .equal = fun _ => false :=
      funext fun v => answer_of_unknown rfl hf valueType v
    rw [answer_of_unknown hc hf, hequal]
    cases payload <;> simp
  | some actual =>
    have hequal : facts.answer id valueType .equal = actual.equalAs valueType :=
      funext fun v => answer_of_fact rfl hf valueType v
    rw [answer_of_fact hc hf, hequal]
    rcases ho with rfl | rfl <;> cases payload <;> rfl

theorem text_between {c : Clause} {v : Variable} {payload : Value} (hc : c.subject? = some v)
    (ht : v.valueType ≠ .string) (hlow : payload.bounds.1.asList? = none)
    (hhigh : payload.bounds.2.asList? = none) :
    { c with operator := .between, value := payload }.text =
      { c with operator := .greaterOrEqual, value := payload.bounds.1 }.text ++ " && " ++
        { c with operator := .lessOrEqual, value := payload.bounds.2 }.text := by
  simp only [Clause.text, hc, Clause.comparisonText, Value.literal_eq_plain ht hlow,
    Value.literal_eq_plain ht hhigh, Operator.symbol]
  simp [String.append_assoc]

end Derived

/-- `between` is at least the one bound and at most the other, and the operators of lists are equality with
some item. The bounds are the first two items of a list, with zeros for those that are missing. Outside the
type string the text of a `between` is that of its two checks. -/
theorem between_among_derived (facts : FactSource) (id : String) (valueType : ValueType) (payload : Value) :
    payload.bounds = (payload.itemOrZero 0, payload.itemOrZero 1) ∧
    facts.answer id valueType .between payload =
      (facts.answer id valueType .greaterOrEqual payload.bounds.1 &&
        facts.answer id valueType .lessOrEqual payload.bounds.2) ∧
    (∀ o, o = .among ∨ o = .inList → facts.answer id valueType o payload =
      match payload with
      | .list items => items.any (facts.answer id valueType .equal)
      | v => facts.answer id valueType .equal v) ∧
    ∀ (c : Clause) (v : Variable), c.subject? = some v → v.valueType ≠ .string →
      payload.bounds.1.asList? = none → payload.bounds.2.asList? = none →
      { c with operator := .between, value := payload }.text =
        { c with operator := .greaterOrEqual, value := payload.bounds.1 }.text ++ " && " ++
          { c with operator := .lessOrEqual, value := payload.bounds.2 }.text :=
  ⟨payload.bounds_eq, answer_between payload, fun _ ho => answer_among ho payload,
    fun _ _ hc ht hlow hhigh => text_between hc ht hlow hhigh⟩

def fareBounds : Value := .list [.integer 10, .text "50", .null]

def fareClause (o : Operator) (v : Value) : Clause := ⟨"c1", some Builtin.fare, o, v, none⟩

theorem between_among_derived_fare :
    (fareFacts (.integer 50)).fact.answer "booking.fare" .number .between fareBounds = true ∧
      (fareFacts (.integer 50)).fact.answer "booking.fare" .number .inList fareBounds = true ∧
      Builtin.fare.valueType ≠ .string ∧
      (fareClause .between fareBounds).text =
        (fareClause .greaterOrEqual (.integer 10)).text ++ " && " ++
          (fareClause .lessOrEqual (.text "50")).text := by
  obtain ⟨-, hbetween, hitems, htext⟩ :=
    between_among_derived (fareFacts (.integer 50)).fact "booking.fare" .number fareBounds
  have hnumber : Builtin.fare.valueType ≠ .string := by decide
  refine ⟨?_, ?_, hnumber, htext (fareClause .equal .null) Builtin.fare rfl hnumber rfl rfl⟩
  · rw [hbetween]
    decide +kernel
  · rw [hitems .inList (.inr rfl)]
    decide +kernel

end Eligibility
