import Eligibility.Binary64.Basic

/-!
The fewest decimal digits that read back as a given double. On each decimal grid, coarsest first, only
the two grid points next to the value are tried: if any point of the grid reads back, one of these does.
-/

set_option autoImplicit false

namespace Eligibility.Binary64

/-- Which neighbour wins when both read back and the value lies halfway between them. -/
inductive Tie where
  | up
  | even
  deriving DecidableEq, Repr

/-- `digits * 10 ^ exponent`. -/
structure Scientific where
  digits : Nat
  exponent : Int
  deriving DecidableEq, Repr

def decimalLength (n : Nat) : Nat := (Nat.toDigits 10 n).length

/-- The exponent of the first digit of a positive number of units: 10^e ≤ value < 10^(e+1). The shift
by 400 places makes every positive double at least one. -/
def leadingExponent (units : Nat) : Int := (decimalLength (units * tenPow 400 / one) : Int) - 401

def readsBack (units : Nat) (s : Scientific) : Bool :=
  ofDecimal false s.digits s.exponent == .finite false units

def onGrid (units : Nat) (exponent : Int) : Nat × Nat :=
  if 0 ≤ exponent then (units, one * tenPow exponent.toNat) else (units * tenPow (-exponent).toNat, one)

/-- The grid point that stands for the value, if one reads back. -/
def gridPoint (tie : Tie) (units : Nat) (exponent : Int) : Option Scientific :=
  let (num, den) := onGrid units exponent
  let low : Scientific := ⟨num / den, exponent⟩
  let high : Scientific := ⟨num / den + 1, exponent⟩
  let twice := 2 * (num % den)
  let preferHigh := den < twice || (twice = den && (tie = .up || low.digits % 2 = 1))
  match readsBack units low, readsBack units high with
  | true, true => some (if preferHigh then high else low)
  | true, false => some low
  | false, true => some high
  | false, false => none

def Scientific.stripped (s : Scientific) : Nat → Scientific
  | 0 => s
  | fuel + 1 =>
    if s.digits ≠ 0 ∧ s.digits % 10 = 0 then
      Scientific.stripped ⟨s.digits / 10, s.exponent + 1⟩ fuel
    else s

/-- Seventeen digits always read back, so the last alternative is never reached. -/
def shortest (tie : Tie) (units : Nat) : Scientific :=
  let lead := leadingExponent units
  let found := (List.range 17).findSome? fun (k : Nat) => gridPoint tie units (lead - k)
  let s := found.getD ⟨units, -1074⟩
  s.stripped (decimalLength s.digits)

end Eligibility.Binary64
