import Eligibility.CommandLine.Host

/-!
Files in memory, and sessions: a file tree, a standard input and a clock that stands still. Commands can be
run in a session without touching a disk.
-/

set_option autoImplicit false

namespace Eligibility

inductive FileEntry where
  | folder
  /-- No content here means bytes that are no text. -/
  | file (content : Option String)
  deriving DecidableEq, Repr

structure FileTree where
  /-- The folder from which relative paths start. -/
  here : List String
  entries : List (List String × FileEntry)
  deriving DecidableEq, Repr

namespace FileTree

/-- The longest name and the longest path in bytes. -/
def longestName : Nat := 255

def longestPath : Nat := 4095

def entry? (t : FileTree) (place : List String) : Option FileEntry :=
  if place.isEmpty then some .folder else t.entries.lookup place

def isFolder (t : FileTree) (place : List String) : Bool := t.entry? place == some .folder

/-- The place at the end of a way. Everything on the way must be a folder; what is at its end may be
missing. -/
def walk (t : FileTree) (place : List String) : List String → Except FileFault (List String)
  | [] => .ok place
  | piece :: rest =>
    match t.entry? place with
    | none => .error .absent
    | some (.file _) => .error .notFolder
    | some .folder =>
      if !Path.isName piece then t.walk place rest
      else if piece = ".." then t.walk place.dropLast rest
      else if longestName < piece.utf8ByteSize then .error .nameTooLong
      else t.walk (place ++ [piece]) rest

def walkPath (t : FileTree) (path : String) (way : List String) : Except FileFault (List String) :=
  if path.isEmpty then .error .absent
  else if longestPath < path.utf8ByteSize then .error .nameTooLong
  else t.walk (if Path.isAbsolute path then [] else t.here) way

def find (t : FileTree) (path : String) : Except FileFault FileEntry := do
  let place ← t.walkPath path (Path.pieces path)
  match t.entry? place with
  | some e => return e
  | none => throw .absent

def read (t : FileTree) (path : String) : Except FileFault String := do
  match ← t.find path with
  | .folder => throw .isFolder
  | .file none => throw .notText
  | .file (some content) => return content

def put (entries : List (List String × FileEntry)) (place : List String) (e : FileEntry) :
    List (List String × FileEntry) :=
  match entries with
  | [] => [(place, e)]
  | (p, d) :: rest => if p = place then (p, e) :: rest else (p, d) :: put rest place e

def insert (t : FileTree) (place : List String) (e : FileEntry) : FileTree :=
  { t with entries := put t.entries place e }

def unslashed (pieces : List String) : List String :=
  (pieces.reverse.dropWhile String.isEmpty).reverse

/-- A path that ends with a slash means a folder, whatever its last name is, and folders are not
written. -/
def write (t : FileTree) (path content : String) : Except FileFault FileTree := do
  let pieces := Path.pieces path
  let way := unslashed pieces
  if way = pieces then
    let place ← t.walkPath path way
    if t.isFolder place then throw .isFolder
    return t.insert place (.file (some content))
  else
    let _ ← t.walkPath path (way.dropLast ++ [""])
    throw .isFolder

/-- Makes one folder. A folder that is there already is as good. -/
def makeFolder (t : FileTree) (path : String) : Except FileFault FileTree := do
  let place ← t.walkPath path (unslashed (Path.pieces path))
  match t.entry? place with
  | none => return t.insert place .folder
  | some .folder => return t
  | some (.file _) => throw .alreadyThere

def onWay (place : List String) : List (List String) :=
  (List.range place.length).map fun n => place.take (n + 1)

/-- A tree with the given files below the folder `here`, and the folders that they need. -/
def ofFiles (here : List String) (files : List (List String × Option String)) : FileTree :=
  let folders := onWay here ++ files.flatMap fun (place, _) => onWay (here ++ place.dropLast)
  let bare := folders.foldl (fun t place => t.insert place .folder) ⟨here, []⟩
  files.foldl (fun t (place, content) => t.insert (here ++ place) (.file content)) bare

end FileTree

structure Session where
  tree : FileTree
  /-- What is left of the standard input. -/
  input : Option String

namespace Session

def change (edit : FileTree → Except FileFault FileTree) :
    StateM Session (Except FileFault Unit) := do
  let s ← get
  match edit s.tree with
  | .ok tree => do
    set { s with tree := tree }
    return .ok ()
  | .error fault => return .error fault

def readInput : StateM Session (Except FileFault String) := do
  let s ← get
  set { s with input := some "" }
  match s.input with
  | some text => return .ok text
  | none => return .error .notText

def host (now : Instant) (configVariable home : Option String) : Host (StateM Session) where
  readFile path := do return (← get).tree.read path
  readInput := readInput
  isThere path := do return ((← get).tree.find path).toBool
  writeFile path content := change fun t => t.write path content
  makeFolder path := change fun t => t.makeFolder path
  now := return now
  configVariable := configVariable
  home := home

end Session

end Eligibility
