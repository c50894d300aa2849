import Eligibility.Condition.Draft
import Eligibility.Condition.Expression
import Eligibility.Condition.Quoting

/-!
Compiled rules: the expression text of a list of clauses and everything that keeps a context from
accepting it.
-/

set_option autoImplicit false

namespace Eligibility

/-- Why a context does not take a clause. -/
inductive ClauseFault where
  | unavailable (variableId contextId : String)
  | unknownOperator
  | disallowed (operator : Operator) (variableId : String) (valueType : ValueType)
  deriving DecidableEq, Repr

inductive RuleFault where
  /-- The draft names a variable that the context does not have. -/
  | unresolved (u : Unresolved)
  | quoting (fault : QuotingFault)
  /-- `place` counts the clauses from zero. -/
  | clause (place : Nat) (id : String) (fault : ClauseFault)
  deriving DecidableEq, Repr

def ClauseFault.message : ClauseFault → String
  | .unavailable variableId contextId =>
    s!"variable '{variableId}' is not available in context '{contextId}'"
  | .unknownOperator => "unknown operator"
  | .disallowed operator variableId valueType =>
    s!"operator '{operator.symbol}' is not allowed for '{variableId}' ({valueType.name})"

def clauseLabel (place : Nat) (id : String) : String :=
  if id.isEmpty then s!"conditions[{place}]" else s!"condition '{id}'"

def RuleFault.message : RuleFault → String
  | .unresolved u => u.message
  | .quoting fault => fault.message
  | .clause place id fault => clauseLabel place id ++ ": " ++ fault.message

namespace Context

/-- What keeps the context from taking a clause. A clause without a variable is always taken. -/
def fault? (c : Context) (clause : Clause) : Option ClauseFault :=
  match clause.subject? with
  | none => none
  | some v =>
    match c.find? v.id with
    | none => some (.unavailable v.id c.id)
    | some known =>
      if clause.operator = .unknown then some .unknownOperator
      else if known.allows clause.operator && c.allows clause.operator then none
      else some (.disallowed clause.operator known.id known.valueType)

def clauseFaults (c : Context) (clauses : List Clause) : List RuleFault :=
  (clauses.mapIdx fun i clause =>
    (c.fault? clause).map (RuleFault.clause i clause.id)).filterMap fun fault => fault

end Context

structure Rule where
  expression : String
  faults : List RuleFault
  deriving DecidableEq, Repr

namespace Rule

def isValid (r : Rule) : Bool := r.faults.isEmpty

def problems (r : Rule) : List String := r.faults.map RuleFault.message

def error? (r : Rule) : Option String := r.problems.head?

def compile (c : Context) (clauses : List Clause) : Rule :=
  let expression := Clause.expression clauses
  { expression := expression
    faults := ((Quoting.fault? expression).map RuleFault.quoting).toList ++ c.clauseFaults clauses }

/-- The rule of a draft in a context. Its unresolved variables come before all other faults. -/
def compileDraft (c : Context) (d : Draft) : Rule :=
  let resolved := d.resolve c
  let rule := compile c resolved.clauses
  { rule with faults := resolved.unresolved.map RuleFault.unresolved ++ rule.faults }

end Rule

end Eligibility
