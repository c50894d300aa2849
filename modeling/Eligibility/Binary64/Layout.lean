import Eligibility.Binary64.Shortest

/-!
Doubles as text. A layout is what a format decides once the digits are known.
-/

set_option autoImplicit false

namespace Eligibility.Binary64

structure Layout where
  /-- Exponents of the first digit at which no exponent is written. -/
  positional : Int → Bool
  /-- What follows a whole number. -/
  whole : String
  tie : Tie

def Layout.plain : Layout := ⟨fun _ => true, "", .up⟩

def Layout.pointed : Layout := ⟨fun _ => true, ".0", .up⟩

/-- An exponent from 10^16 on and below 10^-5; a whole number keeps a point and a zero. -/
def Layout.json : Layout := ⟨fun e => -5 ≤ e && e ≤ 15, ".0", .even⟩

def zeros (n : Nat) : List Char := List.replicate n '0'

/-- The digits around a point that stands after the digit of 10^0. -/
def positionalText (layout : Layout) (ds : List Char) (lead : Int) : List Char :=
  if lead < 0 then '0' :: '.' :: zeros (-lead - 1).toNat ++ ds
  else
    let width := lead.toNat + 1
    if ds.length ≤ width then ds ++ zeros (width - ds.length) ++ layout.whole.toList
    else ds.take width ++ '.' :: ds.drop width

def exponentText (e : Int) : List Char :=
  'e' :: (if e < 0 then '-' else '+') :: (Nat.toDigits 10 e.natAbs)

def scientificText (ds : List Char) (lead : Int) : List Char :=
  match ds with
  | [] => []
  | [d] => d :: exponentText lead
  | d :: rest => d :: '.' :: rest ++ exponentText lead

def magnitudeText (layout : Layout) (units : Nat) : List Char :=
  if units = 0 then '0' :: layout.whole.toList
  else
    let s := shortest layout.tie units
    let ds := Nat.toDigits 10 s.digits
    let lead := s.exponent + ds.length - 1
    if layout.positional lead then positionalText layout ds lead else scientificText ds lead

def write (layout : Layout) (x : Binary64) : String :=
  match x with
  | .finite s u => String.ofList ((if s then ['-'] else []) ++ magnitudeText layout u)
  | .infinite s => if s then "-inf" else "inf"
  | .nan => "NaN"

def plainText (x : Binary64) : String := x.write .plain

end Eligibility.Binary64
