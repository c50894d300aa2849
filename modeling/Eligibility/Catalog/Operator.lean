import Eligibility.Catalog.ValueType

/-!
The operators of conditions, with the symbols that expression text and stored rules use.
-/

set_option autoImplicit false

namespace Eligibility

inductive Operator where
  | equal
  | notEqual
  | greater
  | greaterOrEqual
  | less
  | lessOrEqual
  | contains
  | startsWith
  | endsWith
  /-- The variable is one of a list of values. -/
  | among
  /-- The variable lies between two bounds, both included. -/
  | between
  | inList
  | and
  | or
  | not
  /-- An operator that is not known; it compares nothing. -/
  | unknown
  deriving DecidableEq, Repr

namespace Operator

def parse? (s : String) : Option Operator :=
  match s with
  | "==" | "eq" | "equals" => some .equal
  | "!=" | "ne" | "not_equals" => some .notEqual
  | ">" | "gt" | "greater_than" => some .greater
  | ">=" | "gte" | "greater_than_or_equal" => some .greaterOrEqual
  | "<" | "lt" | "less_than" => some .less
  | "<=" | "lte" | "less_than_or_equal" => some .lessOrEqual
  | "contains" => some .contains
  | "startsWith" | "starts_with" => some .startsWith
  | "endsWith" | "ends_with" => some .endsWith
  | "in" => some .among
  | "between" => some .between
  | "in_list" | "inList" => some .inList
  | "&&" | "and" => some .and
  | "||" | "or" => some .or
  | "!" | "not" => some .not
  | _ => none

def read (s : String) : Operator := (parse? (Text.trim s)).getD .unknown

def symbol : Operator → String
  | .equal => "=="
  | .notEqual => "!="
  | .greater => ">"
  | .greaterOrEqual => ">="
  | .less => "<"
  | .lessOrEqual => "<="
  | .contains => "contains"
  | .startsWith => "startsWith"
  | .endsWith => "endsWith"
  | .among => "in"
  | .between => "between"
  | .inList => "in_list"
  | .and => "&&"
  | .or => "||"
  | .not => "!"
  | .unknown => "unknown"

def isLogical : Operator → Bool
  | .and | .or | .not => true
  | _ => false

def compares (o : Operator) : Bool := !o.isLogical && o != .unknown

theorem read_symbol (o : Operator) : read o.symbol = o := by cases o <;> decide +kernel

end Operator

def ValueType.operators : ValueType → List Operator
  | .string => [.equal, .notEqual, .contains, .startsWith, .endsWith, .among]
  | .number =>
    [.equal, .notEqual, .greater, .greaterOrEqual, .less, .lessOrEqual, .between, .among]
  | .boolean => [.equal, .notEqual]
  | .date => [.equal, .notEqual, .greater, .greaterOrEqual, .less, .lessOrEqual, .between]
  | .array => [.contains, .inList]
  | .object => [.equal, .notEqual]

/-- The operators for a type that an author names. A type that is not known can be tested for equality. -/
def operatorsForType (name : String) : List Operator :=
  match ValueType.read? name with
  | some t => t.operators
  | none => [.equal, .notEqual]

end Eligibility
