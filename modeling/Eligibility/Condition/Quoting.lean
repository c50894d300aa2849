/-!
The shallow check of expression text: quotes are closed and parentheses outside quotes are as many
closed as opened. A quoted span ends at the quote that began it, and nothing in it is counted.
-/

set_option autoImplicit false

namespace Eligibility

inductive QuotingFault where
  | unbalancedParentheses
  | unclosedQuote
  deriving DecidableEq, Repr

namespace QuotingFault

def message : QuotingFault → String
  | .unbalancedParentheses => "Unbalanced parentheses"
  | .unclosedQuote => "Unclosed quote"

end QuotingFault

namespace Quoting

/-- How far a scan has come: parentheses opened less those closed, and the quote that is open. -/
structure Scan where
  depth : Int
  quote : Option Char
  deriving DecidableEq, Repr

def isQuote (c : Char) : Bool := c = '"' || c = '\''

def Scan.start : Scan := ⟨0, none⟩

def Scan.step (s : Scan) (c : Char) : Scan :=
  match s.quote with
  | some q => if c = q then ⟨s.depth, none⟩ else s
  | none =>
    if isQuote c then ⟨s.depth, some c⟩
    else if c = '(' then ⟨s.depth + 1, none⟩
    else if c = ')' then ⟨s.depth - 1, none⟩
    else s

def scan (cs : List Char) : Scan := cs.foldl Scan.step .start

def Scan.fault? (s : Scan) : Option QuotingFault :=
  if s.depth ≠ 0 then some .unbalancedParentheses
  else if s.quote.isSome then some .unclosedQuote
  else none

/-- What is wrong with the text. Parentheses are reported before quotes. -/
def fault? (text : String) : Option QuotingFault := (scan text.toList).fault?

end Quoting

end Eligibility
