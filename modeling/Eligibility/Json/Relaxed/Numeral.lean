import Eligibility.Json.Escape
import Eligibility.Json.Numeral

/-!
Numerals of relaxed documents. A numeral with a point or a mark of an exponent is a double, any other a
whole number. Some that are well formed have no value; these are refused where they are read.
-/

set_option autoImplicit false

namespace Eligibility.Json.Relaxed

def hexNumber? (cs : List Char) : Option Nat :=
  cs.foldl (fun n c => do return 16 * (← n) + (← hexValue? c)) (some 0)

def isMark (c : Char) : Bool := c = 'e' || c = 'E'

def exponent? : List Char → Option (Option (Bool × List Char))
  | [] => some none
  | c :: cs =>
    if isMark c then
      let (negative, ds) := Binary64.splitSign cs
      if ds.isEmpty || !ds.all Char.isDigit then none else some (some (negative, ds))
    else none

/-- A decimal numeral after its sign. A whole part has no zero in front unless it is the zero, and a
point has a digit on one side at least. -/
def decimal? (negative : Bool) (cs : List Char) : Option Document :=
  let whole := cs.takeWhile Char.isDigit
  let (fraction, rest) := match cs.dropWhile Char.isDigit with
    | '.' :: r => (some (r.takeWhile Char.isDigit), r.dropWhile Char.isDigit)
    | r => (none, r)
  if (1 < whole.length && whole.head? == some '0') ||
      (whole.isEmpty && (fraction.getD []).isEmpty) then none
  else do
    let e ← exponent? rest
    return Numeral.relaxedDocument ⟨negative, whole, fraction, e⟩

/-- The document of hexadecimal digits. They hold 32 bits at most and take no sign: with one they are
looked at as a decimal numeral, which is a double if it has a mark of an exponent. -/
def hexDocument? (signed : Bool) (ds : List Char) : Option Document := do
  let n ← hexNumber? ds
  return if signed then .refused (if ds.any isMark then .notNumber else .notInteger)
    else if n ≤ 0xffffffff then .integer n
    else .refused .notHexadecimal

/-- The value that a numeral writes. The infinity and the value that is no number take a minus and no
plus. -/
def numeral? (cs : List Char) : Option Document :=
  let (negative, rest) := Binary64.splitSign cs
  let signed := rest.length < cs.length
  match rest with
  | '0' :: x :: ds =>
    if x = 'x' ∨ x = 'X' then if ds.isEmpty then none else hexDocument? signed ds
    else decimal? negative rest
  | _ =>
    let named (x : Binary64) : Document :=
      if signed && !negative then .refused .notInteger else .double x
    if rest = "Infinity".toList then some (named (.infinite negative))
    else if rest = "NaN".toList then some (named .nan)
    else decimal? negative rest

end Eligibility.Json.Relaxed
