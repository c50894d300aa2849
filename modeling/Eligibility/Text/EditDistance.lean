/-!
Edit distance on lists of characters: the least number of insertions, deletions and substitutions of
one character that turn one list into the other. A row holds the distances to every ending of the
target, the whole target first, so each row is made from the row for one character less.
-/

set_option autoImplicit false

namespace Eligibility.Text

/-- The distances from the empty list: every character is inserted. -/
def emptyRow : List Char → List Nat
  | [] => [0]
  | _ :: ds => (ds.length + 1) :: emptyRow ds

/-- The row with `c` in front, from the row `below` without it. -/
def nextRow (c : Char) : List Char → List Nat → List Nat
  | [], below => [below.headD 0 + 1]
  | d :: ds, below =>
    let rest := nextRow c ds below.tail
    min (min (below.headD 0) (rest.headD 0) + 1) (below.tail.headD 0 + if c = d then 0 else 1) :: rest

def distanceRow (target : List Char) : List Char → List Nat
  | [] => emptyRow target
  | c :: cs => nextRow c target (distanceRow target cs)

def editDistance (source target : List Char) : Nat := (distanceRow target source).headD 0

example : editDistance "kitten".toList "sitting".toList = 3 := by decide
example : editDistance [] "abc".toList = 3 := by decide

end Eligibility.Text
