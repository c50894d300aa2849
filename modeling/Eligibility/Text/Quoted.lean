import Eligibility.Text.LowerCase
import Eligibility.Text.HiddenTable

/-!
A text as a message quotes it: between double quotes, with short escapes for the quote, the backslash
and the common controls, and a number in braces for every other character that would not show.
-/

set_option autoImplicit false

namespace Eligibility.Text

def isHidden (c : Char) : Bool := c.toNat < 0x20 || inRanges hiddenRanges c

def hexDigits (n : Nat) : List Char := Nat.toDigits 16 n

def quotedChar (c : Char) : List Char :=
  match c with
  | '"' => ['\\', '"']
  | '\\' => ['\\', '\\']
  | '\n' => ['\\', 'n']
  | '\r' => ['\\', 'r']
  | '\t' => ['\\', 't']
  | '\x00' => ['\\', '0']
  | c => if isHidden c then ['\\', 'u', '\x7b'] ++ hexDigits c.toNat ++ ['\x7d'] else [c]

def quoted (s : String) : String := String.ofList ('"' :: s.toList.flatMap quotedChar ++ ['"'])

end Eligibility.Text
