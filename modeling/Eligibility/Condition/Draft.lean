import Eligibility.Catalog.Basic
import Eligibility.Condition.Clause

/-!
Drafts: what an author submits. A condition of a draft names its variable by an id, which a context
resolves, or brings a definition of its own.
-/

set_option autoImplicit false

namespace Eligibility

inductive VariableReference where
  | id (id : String)
  | definition (v : Variable)
  deriving DecidableEq, Repr

structure DraftCondition where
  id : Option String
  reference? : Option VariableReference
  operator : Operator
  value : Value
  connective : Option Connective

structure Draft where
  context : Option String
  conditions : List DraftCondition

structure Unresolved where
  /-- The id of the condition that names it. -/
  condition : String
  id : String
  suggestions : List String
  deriving DecidableEq, Repr

def Unresolved.message (u : Unresolved) : String :=
  s!"{u.condition}: unknown variable '{u.id}'" ++
    if u.suggestions.isEmpty then ""
    else " (did you mean: " ++ ", ".intercalate u.suggestions ++ ")"

structure Resolved where
  clauses : List Clause
  unresolved : List Unresolved

namespace DraftCondition

/-- The id of the condition at a place, counted from zero: its own, or its number after a `c`. -/
def idAt (d : DraftCondition) (place : Nat) : String := d.id.getD s!"c{place + 1}"

def resolve? (c : Context) (d : DraftCondition) : Option Variable :=
  match d.reference? with
  | none => none
  | some (.definition v) => some v
  | some (.id id) => c.find? id

def clauseAt (c : Context) (d : DraftCondition) (place : Nat) : Clause where
  id := d.idAt place
  subject? := d.resolve? c
  operator := d.operator
  value := d.value
  connective := d.connective

def unresolvedAt (c : Context) (d : DraftCondition) (place : Nat) : Option Unresolved :=
  match d.reference? with
  | some (.id id) =>
    match c.find? id with
    | some _ => none
    | none => some ⟨d.idAt place, id, c.suggest id⟩
  | _ => none

end DraftCondition

/-- The clauses of a draft in a context. An id that the context does not have leaves its clause without
a variable and is listed. -/
def Draft.resolve (c : Context) (d : Draft) : Resolved where
  clauses := d.conditions.mapIdx fun i condition => condition.clauseAt c i
  unresolved := (d.conditions.mapIdx fun i condition => condition.unresolvedAt c i).filterMap fun u => u

end Eligibility
