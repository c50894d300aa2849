import Eligibility.Json.Relaxed.Numeral
import Eligibility.Json.Relaxed.Piece
import Eligibility.Json.Token
import Eligibility.Text.Letter

/-!
Relaxed JSON, the JSON5 form of configuration files: comments, commas before a closing bracket, bare
keys, texts in either quote with more escapes and continued lines, and numerals with a sign, a bare
point, hexadecimal digits or the names of the values that are no numbers. A relaxed document is
well formed as a whole or not at all. One that is may still hold numerals without a value and texts
whose escapes do not pair; they are refused where they are read.
-/

set_option autoImplicit false

namespace Eligibility.Json

namespace Relaxed

def isLineEnd (c : Char) : Bool := c = '\n' || c = '\r' || c.toNat = 0x2028 || c.toNat = 0x2029

/-- The blanks of a relaxed document: the byte order mark is one. -/
def isBlank (c : Char) : Bool :=
  let n := c.toNat
  isLineEnd c || n = 9 || n = 0xb || n = 0xc || n = 0x20 || n = 0xa0 || n = 0xfeff || n = 0x1680 ||
    (0x2000 ≤ n && n ≤ 0x200a) || n = 0x202f || n = 0x205f || n = 0x3000

/-- What a bare name stands for where a value is wanted. -/
def meaning? (name : String) : Option Document :=
  match name with
  | "null" => some .null
  | "true" => some (.truth true)
  | "false" => some (.truth false)
  | "Infinity" => some (.double (.infinite false))
  | "NaN" => some (.double .nan)
  | _ => none

inductive Mode where
  | between
  | slash
  | lineComment
  /-- Inside a comment between marks; `star` is set after a star. -/
  | blockComment (star : Bool)
  /-- Inside a text, with its pieces last first. -/
  | string (quote : Char) (pieces : List Piece)
  | escape (quote : Char) (pieces : List Piece)
  | byte (quote : Char) (pieces : List Piece) (left value : Nat)
  | unit (quote : Char) (pieces : List Piece) (left value : Nat)
  /-- After a carriage return that continues a line: a line feed belongs to it. -/
  | continued (quote : Char) (pieces : List Piece)
  /-- Inside a bare name, with its pieces last first. -/
  | name (pieces : List Piece)
  | nameEscape (pieces : List Piece)
  | nameUnit (pieces : List Piece) (left value : Nat)
  | numeral (chars : List Char)
  | dead

/-- `tokens` is kept last first. -/
structure Lexing where
  mode : Mode
  tokens : List Token

namespace Lexing

def start : Lexing := ⟨.between, []⟩

def emit (x : Lexing) (t : Token) : Lexing := ⟨.between, t :: x.tokens⟩

def refuse (x : Lexing) : Lexing := ⟨.dead, .broken :: x.tokens⟩

def enter (x : Lexing) (m : Mode) : Lexing := ⟨m, x.tokens⟩

def stepBetween (x : Lexing) (c : Char) : Lexing :=
  match c with
  | '[' => x.emit .openArray
  | ']' => x.emit .closeArray
  | '\x7b' => x.emit .openObject
  | '\x7d' => x.emit .closeObject
  | ',' => x.emit .comma
  | ':' => x.emit .colon
  | '"' => x.enter (.string '"' [])
  | '\'' => x.enter (.string '\'' [])
  | '/' => x.enter .slash
  | '\\' => x.enter (.nameEscape [])
  | '+' | '-' | '.' => x.enter (.numeral [c])
  | c =>
    if isBlank c then x.enter .between
    else if c.isDigit then x.enter (.numeral [c])
    else if Text.startsName c then x.enter (.name [.plain c])
    else x.refuse

/-- What the pieces of a bare name stand for where a value is wanted; with an escape, nothing. -/
def meaningOf (pieces : List Piece) : Option Document := do
  let chars ← pieces.reverse.mapM fun
    | .character _ c => some c
    | _ => none
  meaning? (String.ofList chars)

def emitName (x : Lexing) (pieces : List Piece) : Lexing :=
  x.emit (.name (textOf pieces) (meaningOf pieces))

def emitNumeral (x : Lexing) (chars : List Char) : Lexing :=
  match numeral? chars.reverse with
  | some d => x.emit (.scalar d)
  | none => x.refuse

def stepString (x : Lexing) (quote : Char) (pieces : List Piece) (c : Char) : Lexing :=
  if c = quote then x.emit (.text (textOf pieces))
  else if c = '\\' then x.enter (.escape quote pieces)
  else if isLineEnd c then x.refuse
  else x.enter (.string quote (.plain c :: pieces))

def escaped (c : Char) : Char :=
  match c with
  | '0' => '\x00'
  | 'b' => '\x08'
  | 'f' => '\x0c'
  | 'n' => '\n'
  | 'r' => '\r'
  | 't' => '\t'
  | 'v' => '\x0b'
  | c => c

/-- A digit but the zero is no escape, and a line end after a backslash writes nothing. -/
def stepEscape (x : Lexing) (quote : Char) (pieces : List Piece) (c : Char) : Lexing :=
  if c = '\r' then x.enter (.continued quote pieces)
  else if isLineEnd c then x.enter (.string quote pieces)
  else if c = 'x' then x.enter (.byte quote pieces 2 0)
  else if c = 'u' then x.enter (.unit quote pieces 4 0)
  else if c.isDigit && c != '0' then x.refuse
  else x.enter (.string quote (.character c (escaped c) :: pieces))

/-- One more digit of an escape by number: `go` if others follow it, `finish` if it is the last. -/
def stepDigit (x : Lexing) (go finish : Nat → Mode) (left value : Nat) (c : Char) : Lexing :=
  match hexValue? c with
  | none => x.refuse
  | some h =>
    let value := 16 * value + h
    x.enter (if left ≤ 1 then finish value else go value)

/-- Whether a numeral may go on with `c`; a sign belongs to it after the mark of an exponent. -/
def extendsNumeral (chars : List Char) (c : Char) : Bool :=
  c.isAlphanum || c = '.' ||
    ((c = '+' || c = '-') && chars.head?.any isMark &&
      !chars.any fun d => d = 'x' || d = 'X')

def step (x : Lexing) (c : Char) : Lexing :=
  match x.mode with
  | .between => x.stepBetween c
  | .slash =>
    if c = '*' then x.enter (.blockComment false)
    else if c = '/' then x.enter .lineComment
    else x.refuse
  | .lineComment => if isLineEnd c then x.enter .between else x
  | .blockComment star =>
    if star && c = '/' then x.enter .between else x.enter (.blockComment (c = '*'))
  | .string quote ps => x.stepString quote ps c
  | .escape quote ps => x.stepEscape quote ps c
  | .byte quote ps left value =>
    x.stepDigit (.byte quote ps (left - 1)) (fun n => .string quote (.byte n :: ps)) left value c
  | .unit quote ps left value =>
    x.stepDigit (.unit quote ps (left - 1)) (fun n => .string quote (.unit n :: ps)) left value c
  | .continued quote ps =>
    if c = '\n' then x.enter (.string quote ps) else x.stepString quote ps c
  | .name ps =>
    if Text.continuesName c then x.enter (.name (.plain c :: ps))
    else if c = '\\' then x.enter (.nameEscape ps)
    else (x.emitName ps).stepBetween c
  | .nameEscape ps => if c = 'u' then x.enter (.nameUnit ps 4 0) else x.refuse
  | .nameUnit ps left value =>
    x.stepDigit (.nameUnit ps (left - 1)) (fun n => .name (.unit n :: ps)) left value c
  | .numeral chars =>
    if extendsNumeral chars c then x.enter (.numeral (c :: chars))
    else match numeral? chars.reverse with
      | some d => (x.emit (.scalar d)).stepBetween c
      | none => x.refuse
  | .dead => x

def finish (x : Lexing) : List Token :=
  match x.mode with
  | .between | .lineComment | .dead => x.tokens.reverse
  | .name ps => (x.emitName ps).tokens.reverse
  | .numeral chars => (x.emitNumeral chars).tokens.reverse
  | _ => x.refuse.tokens.reverse

end Lexing

def tokens (cs : List Char) : List Token := (cs.foldl Lexing.step Lexing.start).finish

end Relaxed

/-- The document of the tokens of a relaxed text, none when the text is not well formed. -/
def wholeDocument? (ts : List Token) : Option Document :=
  let (document, clean) := readTokens .relaxed ts
  if clean && document.skippable then some document else none

def readRelaxed? (s : String) : Option Document := wholeDocument? (Relaxed.tokens s.toList)

end Eligibility.Json
