import Eligibility.Catalog.Context
import Eligibility.Condition.Value

/-!
Clauses: the conditions of a rule as an author lists them. A clause's connective joins it to the clause
after it.
-/

set_option autoImplicit false

namespace Eligibility

inductive Connective where
  | and
  | or
  deriving DecidableEq, Repr

namespace Connective

def symbol : Connective → String
  | .and => "&&"
  | .or => "||"

def ofName? (s : String) : Option Connective :=
  match s with
  | "&&" | "and" | "AND" => some .and
  | "||" | "or" | "OR" => some .or
  | _ => none

/-- The names of connectives, in the order in which a message lists them. -/
def names : List String := ["&&", "AND", "and", "OR", "or", "||"]

end Connective

structure Clause where
  id : String
  /-- A clause without a variable holds always. -/
  subject? : Option Variable
  operator : Operator
  value : Value
  connective : Option Connective

/-- The bounds of a `between`: the first two items of a list, and zero for what is not there. -/
def Value.bounds : Value → Value × Value
  | .list [] => (.integer 0, .integer 0)
  | .list [low] => (low, .integer 0)
  | .list (low :: high :: _) => (low, high)
  | _ => (.integer 0, .integer 0)

end Eligibility
