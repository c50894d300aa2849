import Eligibility.Condition.Tree

/-!
Evaluation of condition trees on facts. A comparison of a variable that has no fact is false.
-/

set_option autoImplicit false

namespace Eligibility

/-- What is known: the value of each variable, if it has one. -/
abbrev FactSource := String → Option Value

namespace Comparison

def atLeast (o : Option Ordering) : Bool := o == some .gt || o == some .eq

def atMost (o : Option Ordering) : Bool := o == some .lt || o == some .eq

/-- The least and the greatest value of a `between`. -/
def limits (payload : Value) : Value × Value :=
  match payload.asList? with
  | some items => (items[0]?.getD (.integer 0), items[1]?.getD (.integer 0))
  | none => (.integer 0, .integer 0)

def holdsOf (c : Comparison) (actual : Value) : Bool :=
  match c.operator with
  | .equal => actual.equalAs c.valueType c.value
  | .notEqual => !actual.equalAs c.valueType c.value
  | .greater => actual.order? c.value == some .gt
  | .greaterOrEqual => atLeast (actual.order? c.value)
  | .less => actual.order? c.value == some .lt
  | .lessOrEqual => atMost (actual.order? c.value)
  | .contains => actual.containsAs c.valueType c.value
  | .startsWith => match actual, c.value with
    | .text s, .text t => t.toList.isPrefixOf s.toList
    | _, _ => false
  | .endsWith => match actual, c.value with
    | .text s, .text t => t.toList.isSuffixOf s.toList
    | _, _ => false
  | .among | .inList => match c.value with
    | .list items => items.any fun v => actual.equalAs c.valueType v
    | v => actual.equalAs c.valueType v
  | .between => atLeast (actual.order? (limits c.value).1) && atMost (actual.order? (limits c.value).2)
  | .and | .or | .not | .unknown => true

/-- An operator that compares nothing holds whatever is known. -/
def holds (facts : FactSource) (c : Comparison) : Bool :=
  if c.operator.compares then
    match facts c.subject with
    | none => false
    | some actual => c.holdsOf actual
  else true

variable {facts : FactSource} {c : Comparison}

theorem holds_of_fact {actual : Value} (ho : c.operator.compares = true)
    (h : facts c.subject = some actual) : c.holds facts = c.holdsOf actual := by
  rw [holds, if_pos ho, h]

theorem holds_of_unknown (ho : c.operator.compares = true) (h : facts c.subject = none) :
    c.holds facts = false := by
  rw [holds, if_pos ho, h]

end Comparison

namespace Condition

mutual

def evaluate (facts : FactSource) : Condition → Bool
  | .all parts => evaluateAll facts parts
  | .any parts => evaluateAny facts parts
  | .field c => c.holds facts
  | .literal b => b

def evaluateAll (facts : FactSource) : List Condition → Bool
  | [] => true
  | p :: ps => p.evaluate facts && evaluateAll facts ps

def evaluateAny (facts : FactSource) : List Condition → Bool
  | [] => false
  | p :: ps => p.evaluate facts || evaluateAny facts ps

end

theorem evaluateAll_eq (facts : FactSource) (ps : List Condition) :
    evaluateAll facts ps = ps.all (evaluate facts) := by
  induction ps with
  | nil => simp [evaluateAll]
  | cons p ps ih => simp [evaluateAll, ih]

theorem evaluateAny_eq (facts : FactSource) (ps : List Condition) :
    evaluateAny facts ps = ps.any (evaluate facts) := by
  induction ps with
  | nil => simp [evaluateAny]
  | cons p ps ih => simp [evaluateAny, ih]

end Condition

end Eligibility
