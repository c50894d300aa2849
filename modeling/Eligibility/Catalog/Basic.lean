import Eligibility.Catalog.Builtin
import Eligibility.Text.EditDistance

/-!
Catalogs: the contexts that rules may be written for, and suggestions for an id that names none.
-/

set_option autoImplicit false

namespace Eligibility

/-- The largest edit distance of a suggestion, on lower-cased ids. -/
def suggestionDistance : Nat := 3

/-- Ids near to a query, by distance and then by the order of characters. -/
def suggestIds (query : String) (ids : List String) : List String :=
  let wanted := (Text.lowerCase query).toList
  let scored := ids.map fun id => (Text.editDistance wanted (Text.lowerCase id).toList, id)
  let near := scored.filter fun (distance, _) => distance ≤ suggestionDistance
  let ordered := near.mergeSort fun (d, a) (e, b) => d < e || (d = e && a ≤ b)
  ordered.map (·.2)

structure Catalog where
  contexts : List Context
  deriving DecidableEq, Repr

namespace Catalog

def builtin : Catalog := ⟨Builtin.contexts⟩

/-- A context with an id that is already there takes that place; another goes to the end. -/
def put (contexts : List Context) (c : Context) : List Context :=
  match contexts with
  | [] => [c]
  | d :: rest => if d.id = c.id then c :: rest else d :: put rest c

def withContexts (extra : List Context) : Catalog := ⟨extra.foldl put Builtin.contexts⟩

def lookup? (k : Catalog) (id : String) : Option Context := k.contexts.find? fun c => c.id == id

def suggest (k : Catalog) (query : String) : List String :=
  suggestIds query (k.contexts.map Context.id)

end Catalog

def Context.suggest (c : Context) (query : String) : List String :=
  suggestIds query (c.vars.map Variable.id)

end Eligibility
