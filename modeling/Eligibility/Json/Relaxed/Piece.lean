import Eligibility.Json.Escape
import Eligibility.Json.Problem

/-!
Pieces of texts and of bare names. Escapes are kept as numbers until the text is read, because their
halves are only then put together.
-/

set_option autoImplicit false

namespace Eligibility.Json.Relaxed

/-- What a text or a bare name has at one place. -/
inductive Piece where
  /-- The character `meant`, which the character `letter` writes, alone or after a backslash. -/
  | character (letter meant : Char)
  /-- An escape of two hexadecimal digits. -/
  | byte (n : Nat)
  /-- An escape of four hexadecimal digits. -/
  | unit (n : Nat)

def Piece.plain (c : Char) : Piece := .character c c

def Piece.number? : Piece → Option Nat
  | .character letter _ => hexValue? letter
  | .byte n | .unit n => some n

/-- The character of two halves. The bit of 0x10000 is set and not added, so every pair writes a
character of a plane with an odd number. -/
def joined (high low : Nat) : Char := Char.ofNat (bitsOf high low ||| 0x10000)

/-- The characters that pieces write. After a high half the next piece is taken for the low half, of
whatever kind it is. -/
def charsOf : List Piece → Except Problem (List Char)
  | [] => .ok []
  | .character _ c :: rest => (c :: ·) <$> charsOf rest
  | .byte n :: rest => (Char.ofNat n :: ·) <$> charsOf rest
  | .unit n :: rest =>
    if isLowHalf n then .error .lateHalf
    else if isHighHalf n then
      match rest with
      | [] => .error .halfMissing
      | p :: rest => match p.number? with
        | none => .error .notHexadecimal
        | some low => if isLowHalf low then (joined n low :: ·) <$> charsOf rest else .error .halfExpected
    else (Char.ofNat n :: ·) <$> charsOf rest

def textOf (pieces : List Piece) : Except Problem String := String.ofList <$> charsOf pieces.reverse

end Eligibility.Json.Relaxed
