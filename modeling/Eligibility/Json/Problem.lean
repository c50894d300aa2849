import Eligibility.Binary64.Layout
import Eligibility.Text.Quoted

/-!
Why a document is not taken. The causes are data; `Problem.message` words them. Two forms of documents
are read, strict JSON and the relaxed form of configuration files, and they differ in a few words.
-/

set_option autoImplicit false

namespace Eligibility.Json

inductive Form where
  | strict
  | relaxed
  deriving DecidableEq, Repr

/-- What stood in the document where something else was wanted. -/
inductive Found where
  | null
  | truth (b : Bool)
  | integer (n : Int)
  | double (x : Binary64)
  | text (s : String)
  | sequence
  | map
  deriving DecidableEq, Repr

inductive Wanted where
  | text
  | truth
  | sequence
  | unit
  | record (name : String)
  deriving DecidableEq, Repr

inductive Problem where
  /-- The text is not a document of its form. -/
  | malformed
  | wrongType (found : Found) (wanted : Wanted)
  | missingField (name : String)
  | repeatedField (name : String)
  | unknownVariant (given : String) (known : List String)
  /-- A record written as a list breaks off before a field that must be there. -/
  | tooShort (length : Nat) (record : String) (fields : Nat)
  /-- None of the shapes of a value with several shapes fits. -/
  | noShape (name : String)
  /-- A numeral that should be whole is none, or one beyond 64 bits. -/
  | notInteger
  /-- A numeral that should be a double is none. -/
  | notNumber
  | numberTooLarge
  /-- A hexadecimal numeral takes more than 32 bits, or half a pair of escapes is followed by something
  that is no hexadecimal digit. -/
  | notHexadecimal
  /-- The second half of a pair of escapes stands without the first. -/
  | lateHalf
  /-- The text ends after the first half of a pair of escapes. -/
  | halfMissing
  /-- The first half of a pair of escapes is followed by something else than the second. -/
  | halfExpected
  | variantExpected
  | variantEmpty
  deriving DecidableEq, Repr

def Found.describe (form : Form) : Found → String
  | .null => match form with
    | .strict => "null"
    | .relaxed => "unit value"
  | .truth b => s!"boolean `{b}`"
  | .integer n => s!"integer `{n}`"
  | .double x => match form with
    | .strict => s!"floating point `{x.write .json}`"
    | .relaxed => s!"floating point `{x.write .pointed}`"
  | .text s => "string " ++ Text.quoted s
  | .sequence => "sequence"
  | .map => "map"

def Wanted.describe : Wanted → String
  | .text => "a string"
  | .truth => "a boolean"
  | .sequence => "a sequence"
  | .unit => "unit"
  | .record name => "struct " ++ name

def listed (known : List String) : String :=
  ", ".intercalate (known.map fun k => s!"`{k}`")

def Problem.message (form : Form) : Problem → String
  | .malformed => "the document is not well formed"
  | .wrongType found wanted =>
    s!"invalid type: {found.describe form}, expected {wanted.describe}"
  | .missingField name => s!"missing field `{name}`"
  | .repeatedField name => s!"duplicate field `{name}`"
  | .unknownVariant given known => s!"unknown variant `{given}`, expected one of {listed known}"
  | .tooShort length record fields =>
    s!"invalid length {length}, expected struct {record} with {fields} elements"
  | .noShape name => s!"data did not match any variant of untagged enum {name}"
  | .notInteger => "error parsing integer"
  | .notNumber => "error parsing number"
  | .numberTooLarge => "error parsing number: too large"
  | .notHexadecimal => "error parsing hex"
  | .lateHalf => "unexpected unicode trail surrogate"
  | .halfMissing => "missing unicode trail surrogate"
  | .halfExpected => "expecting unicode trail surrogate"
  | .variantExpected => "expected a string or an object"
  | .variantEmpty => "expected a nonempty object"

end Eligibility.Json
