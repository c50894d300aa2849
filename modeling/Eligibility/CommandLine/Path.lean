/-!
Paths of files. A path is cut at its slashes; empty pieces say nothing, and neither does a single dot.
-/

set_option autoImplicit false

namespace Eligibility.Path

def piecesOf : List Char → List (List Char)
  | [] => [[]]
  | c :: cs =>
    if c = '/' then [] :: piecesOf cs
    else match piecesOf cs with
      | [] => [[c]]
      | p :: ps => (c :: p) :: ps

def pieces (s : String) : List String := (piecesOf s.toList).map String.ofList

def ofPieces (ps : List String) : String := "/".intercalate ps

def isAbsolute (s : String) : Bool := s.toList.head? == some '/'

def isName (piece : String) : Bool := piece != "" && piece != "."

/-- The beginnings of a path that end at a name, the shortest first; `before` holds the pieces that are
passed. -/
def stations (before : List String) : List String → List (List String)
  | [] => []
  | p :: ps =>
    let here := before ++ [p]
    if isName p then here :: stations here ps else stations here ps

/-- The folders on the way to what a path names, the nearest first. Each is written as in the path. -/
def folders (path : String) : List String :=
  ((stations [] (pieces path)).dropLast.map ofPieces).reverse

def child (folder name : String) : String :=
  if folder.isEmpty || folder.toList.getLast? == some '/' then folder ++ name
  else folder ++ "/" ++ name

end Eligibility.Path
