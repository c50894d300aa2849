/-!
Doubles, exactly. Every finite double is a whole number of units of 2^-1074, so it is kept as that
number and a sign, and each operation rounds an exact quotient once, to the nearest double with ties to
the even significand. Nothing here calls the machine's floating point.
-/

set_option autoImplicit false

namespace Eligibility

inductive Binary64 where
  | finite (negative : Bool) (units : Nat)
  | infinite (negative : Bool)
  | nan
  deriving DecidableEq, Repr

namespace Binary64

def tenPow (n : Nat) : Nat := Nat.pow 10 n

def one : Nat := Nat.pow 2 1074

/-- The first number of units too large for a finite double. -/
def limit : Nat := Nat.pow 2 2098

/-- The distance between neighbouring doubles at `units`: 53 binary digits are kept. -/
def spacing (units : Nat) : Nat := Nat.pow 2 (units.log2 - 52)

/-- The nearest whole number to a quotient; a half goes to the even neighbour. -/
def roundHalfEven (num den : Nat) : Nat :=
  let q := num / den
  let r := 2 * (num % den)
  if r < den then q else if den < r then q + 1 else if q % 2 = 0 then q else q + 1

def nearest (negative : Bool) (num den : Nat) : Binary64 :=
  let step := spacing (num / den)
  let units := roundHalfEven num (den * step) * step
  if units < limit then .finite negative units else .infinite negative

def ofNat (n : Nat) : Binary64 := nearest false (n * one) 1

def ofInt (n : Int) : Binary64 := nearest (n < 0) (n.natAbs * one) 1

/-- The double nearest to `digits * 10 ^ exponent`. A value of 10^310 or more is infinite and one below
10^-330 is zero, so those powers are never computed. -/
def ofDecimal (negative : Bool) (digits : Nat) (exponent : Int) : Binary64 :=
  if digits = 0 then .finite negative 0
  else
    let size : Int := (Nat.toDigits 10 digits).length + exponent
    if 310 < size then .infinite negative
    else if size < -330 then .finite negative 0
    else if 0 ≤ exponent then nearest negative (digits * tenPow exponent.toNat * one) 1
    else nearest negative (digits * one) (tenPow (-exponent).toNat)

def negate : Binary64 → Binary64
  | .finite s u => .finite (!s) u
  | .infinite s => .infinite (!s)
  | .nan => .nan

def times : Binary64 → Binary64 → Binary64
  | .finite s u, .finite t v => nearest (s != t) (u * v) one
  | .finite s u, .infinite t | .infinite s, .finite t u => if u = 0 then .nan else .infinite (s != t)
  | .infinite s, .infinite t => .infinite (s != t)
  | .nan, _ | _, .nan => .nan

def dividedBy : Binary64 → Binary64 → Binary64
  | .finite s u, .finite t v =>
    if v = 0 then if u = 0 then .nan else .infinite (s != t) else nearest (s != t) (u * one) v
  | .finite s _, .infinite t => .finite (s != t) 0
  | .infinite s, .finite t _ => .infinite (s != t)
  | .infinite _, .infinite _ | .nan, _ | _, .nan => .nan

def isZero : Binary64 → Bool
  | .finite _ 0 => true
  | _ => false

def isFinite : Binary64 → Bool
  | .finite _ _ => true
  | _ => false

/-- Position on the number line in units, an infinity standing at the limit. -/
def key : Binary64 → Option Int
  | .finite s u => some (if s then -(u : Int) else u)
  | .infinite s => some (if s then -(limit : Int) else limit)
  | .nan => none

/-- Nothing is comparable with `nan`; the two zeros are equal. -/
def compare? (x y : Binary64) : Option Ordering := do
  let a ← x.key
  let b ← y.key
  return compare a b

def equals (x y : Binary64) : Bool := x.compare? y == some .eq

theorem key_eq_none_iff (x : Binary64) : x.key = none ↔ x = .nan := by
  cases x <;> simp only [key, reduceCtorEq]

theorem compare?_eq_none_iff (x y : Binary64) : x.compare? y = none ↔ x = .nan ∨ y = .nan := by
  rw [← key_eq_none_iff, ← key_eq_none_iff, compare?]
  cases x.key <;> cases y.key <;> simp

example : ofInt 9007199254740993 = ofInt 9007199254740992 := by decide +kernel
example : equals (.finite true 0) (.finite false 0) = true := by decide +kernel

end Binary64

end Eligibility
