import Eligibility.Json.Escape
import Eligibility.Json.Token
import Eligibility.Json.Numeral

/-!
Strict JSON. The characters are read one at a time; each mode says what the characters so far have
begun. Blanks are the space, the tab, the line feed and the carriage return, and nothing else.
-/

set_option autoImplicit false

namespace Eligibility.Json

/-- The characters of a text so far, last first. -/
structure Gathered where
  chars : List Char
  /-- The first half of a pair of escapes that write one character. -/
  high : Option Nat
  /-- False once a half stands without its other half. -/
  paired : Bool

namespace Gathered

def empty : Gathered := ⟨[], none, true⟩

def add (g : Gathered) (c : Char) : Gathered := ⟨c :: g.chars, none, g.paired && g.high.isNone⟩

def addUnit (g : Gathered) (n : Nat) : Gathered :=
  match g.high with
  | some h =>
    if isLowHalf n then ⟨Char.ofNat (0x10000 + bitsOf h n) :: g.chars, none, g.paired⟩
    else ⟨g.chars, none, false⟩
  | none =>
    if isHighHalf n then ⟨g.chars, some n, g.paired⟩
    else if isLowHalf n then ⟨g.chars, none, false⟩
    else g.add (Char.ofNat n)

def finish (g : Gathered) : Except Problem String :=
  if g.paired && g.high.isNone then .ok (String.ofList g.chars.reverse) else .error .malformed

end Gathered

namespace Strict

inductive Phase where
  | minus
  | zero
  | whole
  | point
  | fraction
  | exponentMark
  | exponentSign
  | exponent
  deriving DecidableEq, Repr

def Phase.complete : Phase → Bool
  | .zero | .whole | .fraction | .exponent => true
  | _ => false

structure Digits where
  negative : Bool
  whole : List Char
  fraction : List Char
  exponentNegative : Bool
  exponent : List Char

def Digits.none (negative : Bool) : Digits := ⟨negative, [], [], false, []⟩

/-- The numeral of the digits. Where a fraction or an exponent is begun it has a digit. -/
def Digits.numeral (d : Digits) : Numeral where
  negative := d.negative
  whole := d.whole.reverse
  fraction := if d.fraction.isEmpty then Option.none else some d.fraction.reverse
  exponent := if d.exponent.isEmpty then Option.none else some (d.exponentNegative, d.exponent.reverse)

inductive Mode where
  | between
  /-- Inside a word: the letters still to come and what it stands for. -/
  | word (rest : List Char) (meaning : Document)
  | string (g : Gathered)
  | escape (g : Gathered)
  /-- Inside an escape by number: the digits still to come and the value so far. -/
  | unicode (g : Gathered) (left value : Nat)
  | numeral (phase : Phase) (digits : Digits)
  | dead

/-- `tokens` is kept last first. -/
structure Lexing where
  mode : Mode
  tokens : List Token

namespace Lexing

def start : Lexing := ⟨.between, []⟩

def emit (x : Lexing) (t : Token) : Lexing := ⟨.between, t :: x.tokens⟩

def refuse (x : Lexing) : Lexing := ⟨.dead, .broken :: x.tokens⟩

def enter (x : Lexing) (m : Mode) : Lexing := ⟨m, x.tokens⟩

def stepBetween (x : Lexing) (c : Char) : Lexing :=
  match c with
  | ' ' | '\t' | '\n' | '\r' => x.enter .between
  | '[' => x.emit .openArray
  | ']' => x.emit .closeArray
  | '\x7b' => x.emit .openObject
  | '\x7d' => x.emit .closeObject
  | ',' => x.emit .comma
  | ':' => x.emit .colon
  | '"' => x.enter (.string .empty)
  | 'n' => x.enter (.word ['u', 'l', 'l'] .null)
  | 't' => x.enter (.word ['r', 'u', 'e'] (.truth true))
  | 'f' => x.enter (.word ['a', 'l', 's', 'e'] (.truth false))
  | '-' => x.enter (.numeral .minus (.none true))
  | '0' => x.enter (.numeral .zero ⟨false, ['0'], [], false, []⟩)
  | c => if c.isDigit then x.enter (.numeral .whole ⟨false, [c], [], false, []⟩) else x.refuse

/-- The numeral after one more character; none when the character is not part of it. -/
def extend? (phase : Phase) (d : Digits) (c : Char) : Option (Phase × Digits) :=
  match phase with
  | .minus =>
    if c = '0' then some (.zero, { d with whole := ['0'] })
    else if c.isDigit then some (.whole, { d with whole := [c] })
    else none
  | .zero =>
    if c = '.' then some (.point, d)
    else if c = 'e' ∨ c = 'E' then some (.exponentMark, d)
    else none
  | .whole =>
    if c.isDigit then some (.whole, { d with whole := c :: d.whole })
    else if c = '.' then some (.point, d)
    else if c = 'e' ∨ c = 'E' then some (.exponentMark, d)
    else none
  | .point => if c.isDigit then some (.fraction, { d with fraction := [c] }) else none
  | .fraction =>
    if c.isDigit then some (.fraction, { d with fraction := c :: d.fraction })
    else if c = 'e' ∨ c = 'E' then some (.exponentMark, d)
    else none
  | .exponentMark =>
    if c.isDigit then some (.exponent, { d with exponent := [c] })
    else if c = '+' then some (.exponentSign, d)
    else if c = '-' then some (.exponentSign, { d with exponentNegative := true })
    else none
  | .exponentSign => if c.isDigit then some (.exponent, { d with exponent := [c] }) else none
  | .exponent => if c.isDigit then some (.exponent, { d with exponent := c :: d.exponent }) else none

/-- Ends a numeral. A zero must not go on with a digit. -/
def stepNumeral (x : Lexing) (phase : Phase) (d : Digits) (c : Char) : Lexing :=
  match extend? phase d c with
  | some (phase, d) => x.enter (.numeral phase d)
  | none =>
    if phase.complete && !(phase = .zero && c.isDigit) then
      (x.emit (.scalar d.numeral.strictDocument)).stepBetween c
    else x.refuse

def stepEscape (x : Lexing) (g : Gathered) (c : Char) : Lexing :=
  match c with
  | '"' => x.enter (.string (g.add '"'))
  | '\\' => x.enter (.string (g.add '\\'))
  | '/' => x.enter (.string (g.add '/'))
  | 'b' => x.enter (.string (g.add '\x08'))
  | 'f' => x.enter (.string (g.add '\x0c'))
  | 'n' => x.enter (.string (g.add '\n'))
  | 'r' => x.enter (.string (g.add '\r'))
  | 't' => x.enter (.string (g.add '\t'))
  | 'u' => x.enter (.unicode g 4 0)
  | _ => x.refuse

def stepString (x : Lexing) (g : Gathered) (c : Char) : Lexing :=
  if c = '"' then x.emit (.text g.finish)
  else if c = '\\' then x.enter (.escape g)
  else if c.toNat < 0x20 then x.refuse
  else x.enter (.string (g.add c))

def stepUnicode (x : Lexing) (g : Gathered) (left value : Nat) (c : Char) : Lexing :=
  match hexValue? c with
  | none => x.refuse
  | some h =>
    let value := 16 * value + h
    if left ≤ 1 then x.enter (.string (g.addUnit value)) else x.enter (.unicode g (left - 1) value)

def stepWord (x : Lexing) (rest : List Char) (meaning : Document) (c : Char) : Lexing :=
  match rest with
  | [] => (x.emit (.scalar meaning)).stepBetween c
  | [e] => if c = e then x.emit (.scalar meaning) else x.refuse
  | e :: rest => if c = e then x.enter (.word rest meaning) else x.refuse

def step (x : Lexing) (c : Char) : Lexing :=
  match x.mode with
  | .between => x.stepBetween c
  | .word rest meaning => x.stepWord rest meaning c
  | .string g => x.stepString g c
  | .escape g => x.stepEscape g c
  | .unicode g left value => x.stepUnicode g left value c
  | .numeral phase d => x.stepNumeral phase d c
  | .dead => x

def finish (x : Lexing) : List Token :=
  match x.mode with
  | .between | .dead => x.tokens.reverse
  | .numeral phase d =>
    if phase.complete then (x.emit (.scalar d.numeral.strictDocument)).tokens.reverse
    else x.refuse.tokens.reverse
  | _ => x.refuse.tokens.reverse

end Lexing

def tokens (cs : List Char) : List Token := (cs.foldl Lexing.step Lexing.start).finish

end Strict

def readStrict (s : String) : Document × Bool := readTokens .strict (Strict.tokens s.toList)

end Eligibility.Json
