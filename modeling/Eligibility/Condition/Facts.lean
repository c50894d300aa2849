import Eligibility.Condition.Evaluation
import Eligibility.Json.Decoding

/-!
Facts: the known values of variables, with one entry for each. A document gives a fact for every value
in it that is not an object, under the keys that lead to it joined by dots.
-/

set_option autoImplicit false

namespace Eligibility

mutual

/-- The comparison value that a JSON value is. Objects are none; a whole number that is too large for
the integers becomes a double. -/
def Value.ofJson? : Json → Option Value
  | .null => some .null
  | .truth b => some (.truth b)
  | .integer n =>
    if n ≤ Json.Numeral.largestSigned then some (.integer n) else some (.double (.ofInt n))
  | .double x => some (.double x)
  | .text s => some (.text s)
  | .array items => (valuesOfJson? items).map .list
  | .object _ => none

def valuesOfJson? : List Json → Option (List Value)
  | [] => some []
  | v :: vs => do
    let w ← Value.ofJson? v
    let ws ← valuesOfJson? vs
    return w :: ws

end

structure Facts where
  entries : List (String × Value)

namespace Facts

def empty : Facts := ⟨[]⟩

def put (entries : List (String × Value)) (id : String) (v : Value) : List (String × Value) :=
  match entries with
  | [] => [(id, v)]
  | (k, w) :: rest => if k = id then (k, v) :: rest else (k, w) :: put rest id v

def insert (f : Facts) (id : String) (v : Value) : Facts := ⟨put f.entries id v⟩

def find (entries : List (String × Value)) (id : String) : Option Value :=
  match entries with
  | [] => none
  | (k, v) :: rest => if k = id then some v else find rest id

def fact (f : Facts) : FactSource := find f.entries

def size (f : Facts) : Nat := f.entries.length

def dotted (path key : String) : String := path ++ "." ++ key

mutual

/-- The values below `path` that are not objects, with their paths. The members of an object come in
the order of their keys' characters. -/
def leaves (path : String) : Json → List (String × Json)
  | .object members =>
    ((memberLeaves (dotted path) members).mergeSort fun a b => a.1 ≤ b.1).flatMap (·.2)
  | v => [(path, v)]

/-- The leaves of each member with its key. Of members with one key only the last is read. -/
def memberLeaves (pathOf : String → String) :
    List (String × Json) → List (String × List (String × Json))
  | [] => []
  | (k, v) :: rest =>
    let others := memberLeaves pathOf rest
    if rest.any fun (l, _) => l == k then others else (k, leaves (pathOf k) v) :: others

end

/-- The leaves of a document. A document that is not an object has none. -/
def documentLeaves : Json → List (String × Json)
  | .object members => ((memberLeaves id members).mergeSort fun a b => a.1 ≤ b.1).flatMap (·.2)
  | _ => []

/-- The leaves that are values. A list with an object in it is none. -/
def pairs (document : Json) : List (String × Value) :=
  (documentLeaves document).filterMap fun (path, v) => (Value.ofJson? v).map fun w => (path, w)

/-- The facts of a document. Of two values with one path the later stays. -/
def ofJson (document : Json) : Facts :=
  (pairs document).foldl (fun f (path, v) => f.insert path v) empty

def read (s : String) : Except Json.Problem Facts :=
  ofJson <$> Json.decodeStrict Json.decodeJson s

end Facts

end Eligibility
