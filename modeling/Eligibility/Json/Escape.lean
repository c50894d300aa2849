/-!
Escapes by number. They hold 16 bits; a character beyond is written as two halves, a high one and then
a low one.
-/

set_option autoImplicit false

namespace Eligibility.Json

def hexValue? (c : Char) : Option Nat :=
  if '0' ≤ c && c ≤ '9' then some (c.toNat - 48)
  else if 'a' ≤ c && c ≤ 'f' then some (c.toNat - 87)
  else if 'A' ≤ c && c ≤ 'F' then some (c.toNat - 55)
  else none

def isHighHalf (n : Nat) : Bool := 0xd800 ≤ n && n ≤ 0xdbff

def isLowHalf (n : Nat) : Bool := 0xdc00 ≤ n && n ≤ 0xdfff

/-- The twenty bits of two halves. -/
def bitsOf (high low : Nat) : Nat := (high - 0xd800) * 0x400 + (low - 0xdc00)

end Eligibility.Json
