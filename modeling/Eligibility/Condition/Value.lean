import Eligibility.Binary64.Layout
import Eligibility.Binary64.Reading
import Eligibility.Catalog.ValueType

/-!
Values of comparisons and of facts, and the ways in which two of them are compared.
-/

set_option autoImplicit false

namespace Eligibility

inductive Value where
  | text (s : String)
  | integer (n : Int)
  | double (x : Binary64)
  | truth (b : Bool)
  | list (items : List Value)
  | null
  deriving Inhabited

namespace Value

def isNumeric : Value → Bool
  | .integer _ | .double _ => true
  | _ => false

/-- The value as a double; a text counts when it writes one, blanks around it aside. -/
def asDouble? : Value → Option Binary64
  | .integer n => some (.ofInt n)
  | .double x => some x
  | .text s => Binary64.read? (Text.trim s)
  | _ => none

def asTruth? : Value → Option Bool
  | .truth b => some b
  | .text s => if s = "true" then some true else if s = "false" then some false else none
  | _ => none

def asText? : Value → Option String
  | .text s => some s
  | _ => none

def asList? : Value → Option (List Value)
  | .list items => some items
  | _ => none

def truthText (b : Bool) : String := if b then "true" else "false"

mutual

/-- The value as text without quotes. Lists are joined by commas. -/
def plain : Value → String
  | .text s => s
  | .integer n => toString n
  | .double x => x.plainText
  | .truth b => truthText b
  | .null => "null"
  | .list items => ",".intercalate (plainItems items)

def plainItems : List Value → List String
  | [] => []
  | v :: vs => v.plain :: plainItems vs

end

mutual

/-- The value as text with its texts between quotes and its lists between brackets. -/
def display : Value → String
  | .text s => "\"" ++ s ++ "\""
  | .integer n => toString n
  | .double x => x.plainText
  | .truth b => truthText b
  | .null => "null"
  | .list items => "[" ++ ", ".intercalate (displayItems items) ++ "]"

def displayItems : List Value → List String
  | [] => []
  | v :: vs => v.display :: displayItems vs

end

mutual

def same : Value → Value → Bool
  | .text s, .text t => s == t
  | .integer m, .integer n => m == n
  | .double x, .double y => x.equals y
  | .truth a, .truth b => a == b
  | .list xs, .list ys => sameItems xs ys
  | .null, .null => true
  | _, _ => false

def sameItems : List Value → List Value → Bool
  | [], [] => true
  | x :: xs, y :: ys => x.same y && sameItems xs ys
  | _, _ => false

end

/-- Equality under a declared type. Numbers are compared as numbers when both sides read as numbers,
truth values only when both sides read as such, and all else by its text. -/
def equalAs (valueType : ValueType) (actual expected : Value) : Bool :=
  match valueType with
  | .number => match actual.asDouble?, expected.asDouble? with
    | some x, some y => x.equals y
    | _, _ => actual.same expected
  | .boolean => match actual.asTruth?, expected.asTruth? with
    | some a, some b => a == b
    | _, _ => false
  | _ =>
    if actual.isNumeric && expected.isNumeric then
      match actual.asDouble?, expected.asDouble? with
      | some x, some y => x.equals y
      | _, _ => false
    else actual.plain == expected.plain

/-- The order of two values: as numbers if one of them is a number, and texts by their characters. -/
def order? (actual expected : Value) : Option Ordering :=
  if actual.isNumeric || expected.isNumeric then do
    let x ← actual.asDouble?
    let y ← expected.asDouble?
    x.compare? y
  else match actual, expected with
    | .text s, .text t => some (compareOfLessAndEq s t)
    | _, _ => none

def occursIn (needle : List Char) : List Char → Bool
  | [] => needle.isEmpty
  | c :: cs => needle.isPrefixOf (c :: cs) || occursIn needle cs

def containsAs (valueType : ValueType) (actual needle : Value) : Bool :=
  match actual with
  | .text s => match needle with
    | .text t => occursIn t.toList s.toList
    | _ => false
  | .list items => items.any fun item => equalAs valueType item needle
  | _ => false

end Value

end Eligibility
