import Eligibility.Json.Basic
import Eligibility.Binary64.Reading

/-!
Numerals of JSON documents. A whole numeral that fits a machine integer is one; any other numeral is a
double. A strict document takes a double in two roundings: as many leading digits as fit 64 bits make a
double, and this is multiplied or divided by the double nearest to the power of ten that is left.
-/

set_option autoImplicit false

namespace Eligibility.Json

structure Numeral where
  negative : Bool
  whole : List Char
  fraction : Option (List Char)
  /-- Whether the exponent is negative, and its digits. -/
  exponent : Option (Bool × List Char)

namespace Numeral

def largestUnsigned : Nat := 18446744073709551615

def largestSigned : Nat := 9223372036854775807

/-- Appends digits while the number fits 64 bits; the second part holds the digits left over. -/
def absorb (start : Nat) : List Char → Nat × List Char
  | [] => (start, [])
  | d :: ds =>
    let next := 10 * start + Binary64.digitValue d
    if next ≤ largestUnsigned then absorb next ds else (start, d :: ds)

def tenTo (e : Nat) : Binary64 := Binary64.ofDecimal false 1 e

/-- Division by a power of ten, by at most 10^308 at a time. -/
def scaledDown (x : Binary64) (e : Nat) : Binary64 :=
  if e ≤ 308 then x.dividedBy (tenTo e)
  else if x.isZero then x
  else scaledDown (x.dividedBy (tenTo 308)) (e - 308)
termination_by e

/-- None when the number is too large for a double. -/
def scaled? (x : Binary64) (e : Int) : Option Binary64 :=
  if e < 0 then some (scaledDown x e.natAbs)
  else if e ≤ 308 then
    let y := x.times (tenTo e.toNat)
    if y.isFinite then some y else none
  else if x.isZero then some x
  else none

def signed (negative : Bool) (x : Binary64) : Binary64 := if negative then x.negate else x

def exponentValue (n : Numeral) : Int :=
  match n.exponent with
  | none => 0
  | some (negative, ds) =>
    let v : Int := Binary64.digitsValue 0 ds
    if negative then -v else v

def double? (n : Numeral) : Option Binary64 :=
  let (significand, dropped) := absorb 0 n.whole
  let fraction := n.fraction.getD []
  let (significand, unused) := absorb significand fraction
  let point : Int := (dropped.length : Int) - (fraction.length - unused.length : Nat)
  (scaled? (Binary64.ofNat significand) (point + n.exponentValue)).map (signed n.negative)

def isWhole (n : Numeral) : Bool := n.fraction.isNone && n.exponent.isNone

/-- What a strict document holds where this numeral stands. A minus before a whole zero makes the double
that is the negative zero. -/
def strictDocument (n : Numeral) : Document :=
  let value := Binary64.digitsValue 0 n.whole
  if n.isWhole && !n.negative && value ≤ largestUnsigned then .integer value
  else if n.isWhole && n.negative && 0 < value && value ≤ largestSigned + 1 then .integer (-value)
  else match n.double? with
    | some x => .double x
    | none => .refused .malformed

/-- What a relaxed document holds: a whole numeral must fit a signed machine integer, and every other
numeral is rounded once. -/
def relaxedDocument (n : Numeral) : Document :=
  let value := Binary64.digitsValue 0 n.whole
  let signedValue : Int := if n.negative then -value else value
  if n.isWhole then
    if -(largestSigned : Int) - 1 ≤ signedValue ∧ signedValue ≤ largestSigned then
      .integer signedValue
    else .refused .notInteger
  else
    let fraction := n.fraction.getD []
    let x := Binary64.ofDecimal n.negative (Binary64.digitsValue value fraction)
      (n.exponentValue - fraction.length)
    if x.isFinite then .double x else .refused .numberTooLarge

end Numeral

end Eligibility.Json
