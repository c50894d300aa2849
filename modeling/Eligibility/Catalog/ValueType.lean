import Eligibility.Text.Blank
import Eligibility.Text.LowerCase

/-!
The types of values that a rule variable carries.
-/

set_option autoImplicit false

namespace Eligibility

inductive ValueType where
  | string
  | number
  | boolean
  | date
  | array
  | object
  deriving DecidableEq, Repr

namespace ValueType

def all : List ValueType := [.string, .number, .boolean, .date, .array, .object]

def name : ValueType → String
  | .string => "string"
  | .number => "number"
  | .boolean => "boolean"
  | .date => "date"
  | .array => "array"
  | .object => "object"

def ofName? (s : String) : Option ValueType := all.find? fun t => t.name == s

/-- The type that an author means: blanks around it and letter case do not matter, and each type has
a few more names. -/
def read? (s : String) : Option ValueType :=
  match Text.lowerCase (Text.trim s) with
  | "string" | "str" | "text" => some .string
  | "number" | "num" | "int" | "float" => some .number
  | "boolean" | "bool" => some .boolean
  | "date" | "datetime" => some .date
  | "array" | "list" => some .array
  | "object" | "map" => some .object
  | _ => none

theorem ofName?_name (t : ValueType) : ofName? t.name = some t := by cases t <;> rfl

end ValueType

end Eligibility
