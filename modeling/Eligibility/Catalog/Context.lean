import Eligibility.Catalog.Operator

/-!
Variables that rules may test, and contexts: the variables and operators of one authoring surface.
-/

set_option autoImplicit false

namespace Eligibility

structure Variable where
  /-- The dotted path of the fact that the variable stands for. -/
  id : String
  name : String
  valueType : ValueType
  category : String
  description : String
  /-- No operators here means the operators of the type. -/
  allowedOperators : List Operator
  deriving DecidableEq, Repr

namespace Variable

def operators (v : Variable) : List Operator :=
  if v.allowedOperators.isEmpty then v.valueType.operators else v.allowedOperators

def allows (v : Variable) (o : Operator) : Bool := v.operators.contains o

end Variable

structure Context where
  id : String
  name : String
  description : String
  vars : List Variable
  operators : List Operator
  deriving DecidableEq, Repr

namespace Context

def firstSeen {α : Type} [BEq α] (xs : List α) : List α :=
  xs.foldl (fun seen x => if seen.contains x then seen else seen ++ [x]) []

/-- The context whose operators are those that some variable of it allows. -/
def ofVars (id name description : String) (vars : List Variable) : Context where
  id := id
  name := name
  description := description
  vars := vars
  operators := firstSeen (vars.flatMap Variable.operators)

def find? (c : Context) (id : String) : Option Variable := c.vars.find? fun v => v.id == id

def allows (c : Context) (o : Operator) : Bool := c.operators.isEmpty || c.operators.contains o

end Context

end Eligibility
