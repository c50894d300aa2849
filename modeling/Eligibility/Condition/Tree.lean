import Eligibility.Condition.Clause

/-!
Condition trees, and the tree that a list of clauses stands for: `&&` binds tighter than `||`, a missing
connective reads as `&&`, and the last clause's connective is not looked at.
-/

set_option autoImplicit false

namespace Eligibility

structure Comparison where
  subject : String
  valueType : ValueType
  operator : Operator
  value : Value

inductive Condition where
  /-- Holds when all parts hold. -/
  | all (parts : List Condition)
  /-- Holds when some part holds. -/
  | any (parts : List Condition)
  | field (comparison : Comparison)
  | literal (b : Bool)

namespace Condition

/-- A clause without a variable, or with an operator that compares nothing, holds always. -/
def ofClause (c : Clause) : Condition :=
  match c.subject? with
  | none => .literal true
  | some v =>
    if c.operator.compares then .field ⟨v.id, v.valueType, c.operator, c.value⟩ else .literal true

def consFirst {α : Type} (x : α) : List (List α) → List (List α)
  | [] => [[x]]
  | g :: gs => (x :: g) :: gs

/-- The clauses between one `||` and the next. -/
def groups : List Clause → List (List Clause)
  | [] => []
  | [c] => [[c]]
  | c :: d :: rest =>
    if c.connective = some .or then [c] :: groups (d :: rest) else consFirst c (groups (d :: rest))

/-- A part that is alone needs no container. -/
def allOf : List Condition → Condition
  | [part] => part
  | parts => .all parts

def anyOf : List Condition → Condition
  | [part] => part
  | parts => .any parts

def ofGroup (g : List Clause) : Condition := allOf (g.map ofClause)

def ofClauses (cs : List Clause) : Condition :=
  match cs with
  | [] => .literal true
  | cs => anyOf ((groups cs).map ofGroup)

def addNew (ids : List String) (id : String) : List String :=
  if ids.contains id then ids else ids ++ [id]

mutual

def collectVars (ids : List String) : Condition → List String
  | .all parts => collectFromParts ids parts
  | .any parts => collectFromParts ids parts
  | .field c => addNew ids c.subject
  | .literal _ => ids

def collectFromParts (ids : List String) : List Condition → List String
  | [] => ids
  | p :: ps => collectFromParts (collectVars ids p) ps

end

/-- The ids of the variables in the tree, each once, in the order in which they are met. -/
def vars (c : Condition) : List String := collectVars [] c

end Condition

def Comparison.display (c : Comparison) : String :=
  c.subject ++ " " ++ c.operator.symbol ++ " " ++ c.value.display

namespace Condition

mutual

def display : Condition → String
  | .all parts => "all(" ++ ", ".intercalate (displayParts parts) ++ ")"
  | .any parts => "any(" ++ ", ".intercalate (displayParts parts) ++ ")"
  | .field c => c.display
  | .literal b => Value.truthText b

def displayParts : List Condition → List String
  | [] => []
  | p :: ps => p.display :: displayParts ps

end

end Condition

end Eligibility
