import Std.Time.Zoned
import Eligibility.CommandLine.Arguments
import Eligibility.CommandLine.Run

/-!
The program: it reads the arguments, runs the command on the machine and prints the output.
-/

set_option autoImplicit false

namespace Eligibility.Machine

/-- The number of a fault. Some operations give it below zero. -/
def faultNumber (code : UInt32) : UInt32 := if code < 0x80000000 then code else 0 - code

def faultOf (e : IO.Error) : FileFault :=
  match e with
  | .noFileOrDirectory _ _ _ => .absent
  | .alreadyExists _ _ _ => .alreadyThere
  | .inappropriateType _ code _ => if faultNumber code = 20 then .notFolder else .isFolder
  | .invalidArgument _ code _ =>
    if faultNumber code = 36 then .nameTooLong else .other (toString e)
  | .permissionDenied _ _ _ => .other "Permission denied (os error 13)"
  | e => .other (toString e)

def attempt {α : Type} (action : IO α) : IO (Except FileFault α) := do
  try
    return .ok (← action)
  catch e =>
    return .error (faultOf e)

def textOf (bytes : ByteArray) : Except FileFault String :=
  match String.fromUTF8? bytes with
  | some text => .ok text
  | none => .error .notText

def readText (read : IO ByteArray) : IO (Except FileFault String) := do
  match ← attempt read with
  | .ok bytes => return textOf bytes
  | .error fault => return .error fault

def isThere (path : String) : IO Bool := do
  match ← attempt (IO.FS.readBinFile path) with
  | .error .absent | .error .notFolder | .error .nameTooLong => return false
  | _ => return true

def makeFolder (path : String) : IO (Except FileFault Unit) := do
  match ← attempt (IO.FS.createDir path) with
  | .error .alreadyThere =>
    match ← attempt (IO.FS.readBinFile path) with
    | .error .isFolder => return .ok ()
    | _ => return .error .alreadyThere
  | result => return result

def now : IO Instant := do
  let t ← Std.Time.PlainDateTime.now
  let civil : CivilDate := ⟨t.date.year.toInt, t.date.month.toNat, t.date.day.toNat⟩
  match Instant.ofParts? civil t.time.hour.toNat t.time.minute.toNat t.time.second.toNat with
  | some instant => return instant
  | none => throw (IO.userError "the clock shows no instant")

def host (configVariable home : Option String) : Host IO where
  readFile path := readText (IO.FS.readBinFile path)
  readInput := do readText (← IO.getStdin).readBinToEnd
  isThere := isThere
  writeFile path content := attempt (IO.FS.writeFile path content)
  makeFolder := makeFolder
  now := now
  configVariable := configVariable
  home := home

end Eligibility.Machine

open Eligibility in
def main (arguments : List String) : IO UInt32 := do
  let stdout ← IO.getStdout
  let stderr ← IO.getStderr
  match Arguments.invocation (← stdout.isTty) arguments with
  | .error .version =>
    stdout.putStr (programVersion ++ "\n")
    return 0
  | .error (.usage fault) =>
    stderr.putStr ("error: " ++ fault.message ++ "\n")
    return 2
  | .ok invocation =>
    let host := Machine.host (← IO.getEnv "FLEETRULE_CONFIG") (← IO.getEnv "HOME")
    let o ← host.run Failure.notice invocation
    stdout.putStr o.stdout
    stderr.putStr o.stderr
    return o.code.toUInt32
