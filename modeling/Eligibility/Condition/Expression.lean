import Eligibility.Condition.Clause

/-!
Expression text of clauses. Texts stand between double quotes as they are; a quote inside a text is not
escaped. A clause that compares nothing is written as the constant true.
-/

set_option autoImplicit false

namespace Eligibility

namespace Value

mutual

/-- A value under a declared type. The items of a list are written under the same type. -/
def literal (valueType : ValueType) : Value → String
  | .list items => "[" ++ ", ".intercalate (literals valueType items) ++ "]"
  | v => match valueType with
    | .string => "\"" ++ v.plain ++ "\""
    | .boolean => match v.asTruth? with
      | some b => truthText b
      | none => v.plain
    | _ => v.plain

def literals (valueType : ValueType) : List Value → List String
  | [] => []
  | v :: vs => v.literal valueType :: literals valueType vs

end

def asItems : Value → Value
  | .list items => .list items
  | v => .list [v]

end Value

namespace Clause

def comparisonText (v : Variable) (operator : Operator) (value : Value) : String :=
  match operator with
  | .equal | .notEqual | .greater | .greaterOrEqual | .less | .lessOrEqual =>
    v.id ++ " " ++ operator.symbol ++ " " ++ value.literal v.valueType
  | .contains => v.id ++ ".includes(" ++ value.literal v.valueType ++ ")"
  | .startsWith => v.id ++ ".startsWith(" ++ value.literal v.valueType ++ ")"
  | .endsWith => v.id ++ ".endsWith(" ++ value.literal v.valueType ++ ")"
  | .among => value.asItems.literal v.valueType ++ ".includes(" ++ v.id ++ ")"
  | .between =>
    v.id ++ " >= " ++ value.bounds.1.plain ++ " && " ++ v.id ++ " <= " ++ value.bounds.2.plain
  | .inList | .and | .or | .not | .unknown => "true"

def text (c : Clause) : String :=
  match c.subject? with
  | none => "true"
  | some v => comparisonText v c.operator c.value

def joinedText (c : Clause) : String :=
  match c.connective with
  | none => c.text
  | some k => c.text ++ " " ++ k.symbol

/-- The stored text of a list of clauses. The last clause's connective is written too. -/
def expression (cs : List Clause) : String :=
  match cs with
  | [] => "true"
  | cs => " ".intercalate (cs.map joinedText)

end Clause

end Eligibility
