import Eligibility.Config.Basic

/-!
Verification of configurations that are well formed: ids are there and unique, the operators of
variables are known, and the default context exists. Every fault is collected; a place counts from zero.
-/

set_option autoImplicit false

namespace Eligibility

inductive IdFault where
  | blank
  /-- An earlier one has the same id. -/
  | repeated (id : String)
  deriving DecidableEq, Repr

inductive ConfigFault where
  | contextId (place : Nat) (fault : IdFault)
  | variableId (context place : Nat) (fault : IdFault)
  | unknownOperator (context place : Nat)
  /-- `nearest` is the id of the context that is nearest to the default context's. -/
  | unknownDefault (id : String) (nearest : Option String)
  deriving DecidableEq, Repr

def IdFault.message (noun : String) : IdFault → String
  | .blank => "id must not be empty"
  | .repeated id => s!"duplicate {noun} id '{id}'"

def contextLabel (place : Nat) : String := s!"contexts[{place}]"

def variableLabel (context place : Nat) : String := contextLabel context ++ s!".variables[{place}]"

def ConfigFault.message : ConfigFault → String
  | .contextId place fault => contextLabel place ++ ": " ++ fault.message "context"
  | .variableId context place fault =>
    variableLabel context place ++ ": " ++ fault.message "variable"
  | .unknownOperator context place =>
    variableLabel context place ++ ": allowedOperators contains an unknown operator"
  | .unknownDefault id nearest =>
    s!"settings.default_context: unknown context '{id}'" ++
      match nearest with
      | none => ""
      | some best => s!" (did you mean '{best}'?)"

def idFault? (before : List String) (id : String) : Option IdFault :=
  if Text.allBlank id then some .blank
  else if before.contains id then some (.repeated id)
  else none

/-- Each member of a list with its place and the members before it. -/
def withPlaces {α : Type} (xs : List α) : List (Nat × List α × α) :=
  xs.mapIdx fun i x => (i, xs.take i, x)

namespace Config

def variableFaults (context place : Nat) (before : List Variable) (v : Variable) :
    List ConfigFault :=
  ((idFault? (before.map Variable.id) v.id).map (.variableId context place)).toList ++
    if v.allowedOperators.contains .unknown then [.unknownOperator context place] else []

def contextFaults (place : Nat) (before : List Context) (c : Context) : List ConfigFault :=
  ((idFault? (before.map Context.id) c.id).map (.contextId place)).toList ++
    (withPlaces c.vars).flatMap fun (j, earlier, v) => variableFaults place j earlier v

def defaultFault? (c : Config) : Option ConfigFault :=
  match c.settings.defaultContext with
  | none => none
  | some id =>
    match c.catalog.lookup? id with
    | some _ => none
    | none => some (.unknownDefault id (c.catalog.suggest id).head?)

def faults (c : Config) : List ConfigFault :=
  ((withPlaces c.contexts).flatMap fun (i, earlier, context) => contextFaults i earlier context) ++
    c.defaultFault?.toList

def problems (c : Config) : List String := c.faults.map ConfigFault.message

end Config

end Eligibility
