import Eligibility.Calendar.Instant
import Eligibility.CommandLine.Path

/-!
What commands ask of the machine that they run on. Commands are written against a `Host` in any monad, so
that they can be run on a machine and on a session in memory alike.
-/

set_option autoImplicit false

namespace Eligibility

inductive FileFault where
  | absent
  | alreadyThere
  | notFolder
  | isFolder
  | nameTooLong
  /-- The bytes are no UTF-8 text. -/
  | notText
  | other (message : String)
  deriving DecidableEq, Repr

def FileFault.message : FileFault → String
  | .absent => "No such file or directory (os error 2)"
  | .alreadyThere => "File exists (os error 17)"
  | .notFolder => "Not a directory (os error 20)"
  | .isFolder => "Is a directory (os error 21)"
  | .nameTooLong => "File name too long (os error 36)"
  | .notText => "stream did not contain valid UTF-8"
  | .other message => message

structure Host (m : Type → Type) where
  readFile : String → m (Except FileFault String)
  /-- The rest of the standard input. -/
  readInput : m (Except FileFault String)
  isThere : String → m Bool
  writeFile : String → String → m (Except FileFault Unit)
  /-- Makes a folder in a folder that is there. A folder that is there already is as good. -/
  makeFolder : String → m (Except FileFault Unit)
  now : m Instant
  /-- The path of the configuration that the environment names. -/
  configVariable : Option String
  home : Option String

/-- Makes the first of the given folders, each of which lies in the next, and those of the others that
are missing. What was made stays when a later folder cannot be made. -/
def Host.makeFolders {m : Type → Type} [Monad m] (host : Host m) :
    List String → m (Except FileFault Unit)
  | [] => return .ok ()
  | path :: above => do
    match ← host.makeFolder path with
    | .error .absent =>
      match ← host.makeFolders above with
      | .ok () => host.makeFolder path
      | fault => return fault
    | result => return result

/-- The path of the configuration: the one that is given, the environment's, or the one in the home
folder. -/
def Host.configPath {m : Type → Type} (host : Host m) (given : Option String) : String :=
  match given, host.configVariable with
  | some path, _ => path
  | none, some path => path
  | none, none => Path.child (Path.child (host.home.getD "") ".fleetrule") "config.json"

end Eligibility
