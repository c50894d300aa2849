import Eligibility.Json.Basic

/-!
JSON text. The compact form has no blanks; the indented form puts each item on a line of its own, two
spaces deeper than its container, and leaves empty containers closed up. A text is written raw but for
the quote, the backslash and the controls below the space.
-/

set_option autoImplicit false

namespace Eligibility.Json

def hexDigit (n : Nat) : Char := Nat.digitChar n

def escaped (c : Char) : List Char :=
  match c with
  | '"' => ['\\', '"']
  | '\\' => ['\\', '\\']
  | '\x08' => ['\\', 'b']
  | '\x0c' => ['\\', 'f']
  | '\n' => ['\\', 'n']
  | '\r' => ['\\', 'r']
  | '\t' => ['\\', 't']
  | c =>
    if c.toNat < 0x20 then
      ['\\', 'u', '0', '0', hexDigit (c.toNat / 16), hexDigit (c.toNat % 16)]
    else [c]

def writeText (s : String) : List Char := '"' :: s.toList.flatMap escaped ++ ['"']

def writeInteger (n : Int) : List Char :=
  if n < 0 then '-' :: Nat.toDigits 10 n.natAbs else Nat.toDigits 10 n.natAbs

/-- A double that is no number or not finite has no JSON text and is written as null. -/
def writeDouble (x : Binary64) : List Char :=
  if x.isFinite then (x.write .json).toList else "null".toList

mutual

def writeCompact : Json → List Char
  | .null => "null".toList
  | .truth b => if b then "true".toList else "false".toList
  | .integer n => writeInteger n
  | .double x => writeDouble x
  | .text s => writeText s
  | .array items => '[' :: writeItems items ++ [']']
  | .object members => '\x7b' :: writeMembers members ++ ['\x7d']

def writeItems : List Json → List Char
  | [] => []
  | [v] => v.writeCompact
  | v :: w :: vs => v.writeCompact ++ ',' :: writeItems (w :: vs)

def writeMembers : List (String × Json) → List Char
  | [] => []
  | [(k, v)] => writeText k ++ ':' :: v.writeCompact
  | (k, v) :: w :: vs => writeText k ++ ':' :: (v.writeCompact ++ ',' :: writeMembers (w :: vs))

end

/-- The line break before an item at the given depth. -/
def newLine (depth : Nat) : List Char := '\n' :: List.replicate (2 * depth) ' '

mutual

def writeIndented (depth : Nat) : Json → List Char
  | .array (v :: vs) =>
    '[' :: indentedItems (depth + 1) (v :: vs) ++ newLine depth ++ [']']
  | .object (m :: ms) =>
    '\x7b' :: indentedMembers (depth + 1) (m :: ms) ++ newLine depth ++ ['\x7d']
  | .array [] => ['[', ']']
  | .object [] => ['\x7b', '\x7d']
  | .null => "null".toList
  | .truth b => if b then "true".toList else "false".toList
  | .integer n => writeInteger n
  | .double x => writeDouble x
  | .text s => writeText s

def indentedItems (depth : Nat) : List Json → List Char
  | [] => []
  | [v] => newLine depth ++ v.writeIndented depth
  | v :: w :: vs => newLine depth ++ v.writeIndented depth ++ ',' :: indentedItems depth (w :: vs)

def indentedMembers (depth : Nat) : List (String × Json) → List Char
  | [] => []
  | [(k, v)] => newLine depth ++ writeText k ++ ':' :: ' ' :: v.writeIndented depth
  | (k, v) :: w :: vs =>
    newLine depth ++ writeText k ++ ':' :: ' ' :: (v.writeIndented depth ++
      ',' :: indentedMembers depth (w :: vs))

end

def compact (v : Json) : String := String.ofList v.writeCompact

def pretty (v : Json) : String := String.ofList (v.writeIndented 0)

def texts (ss : List String) : Json := .array (ss.map .text)

def optional {α : Type} (key : String) (encode : α → Json) : Option α → List (String × Json)
  | none => []
  | some v => [(key, encode v)]

def nonempty {α : Type} (key : String) (encode : α → Json) : List α → List (String × Json)
  | [] => []
  | v :: vs => [(key, .array ((v :: vs).map encode))]

end Eligibility.Json
