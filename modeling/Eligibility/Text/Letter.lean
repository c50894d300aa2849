import Eligibility.Text.LowerCase
import Eligibility.Text.LetterTable

/-!
Characters of names: a name starts with a letter, a dollar sign or an underscore, and goes on with
these, digits, marks that take no room, accents, connecting punctuation and the two joiners. An accent
need not be a mark: the circumflex and the grave accent of ASCII are two.
-/

set_option autoImplicit false

namespace Eligibility.Text

def startsName (c : Char) : Bool :=
  c.isAlpha || c = '$' || c = '_' || (0x80 ≤ c.toNat && inRanges letterRanges c)

def continuesName (c : Char) : Bool :=
  startsName c || c.isDigit || c = '^' || c.toNat = 0x60 || (0x80 ≤ c.toNat && inRanges continuationRanges c)

end Eligibility.Text
