import Eligibility.CommandLine.Output
import Eligibility.Schedule.Activity
import Eligibility.Schedule.Coverage
import Eligibility.Schedule.Description
import Eligibility.Schedule.Json
import Eligibility.Schedule.Opening

/-!
Running an invocation. Documents are read before the configuration, and the configuration before a
context is looked up; of several faults the first in this order is told.
-/

set_option autoImplicit false

namespace Eligibility

def Config.context (c : Config) (id : String) : Except Failure Context :=
  match c.catalog.lookup? id with
  | some context => .ok context
  | none => .error (.contextNotFound id (c.catalog.suggest id))

/-- The context that a rule is written for: the one that is asked for, else the draft's own, else the
configuration's. -/
def Config.contextFor (c : Config) (asked : Option String) (draft : Draft) :
    Except Failure Context :=
  match asked <|> draft.context <|> c.settings.defaultContext with
  | none => .error (.noContext (c.catalog.contexts.map Context.id))
  | some id => c.context id

def instantOf (text : String) : Except Failure Instant :=
  match Instant.read? text with
  | some t => .ok t
  | none => .error (.instant text)

/-- A computation on a machine that may be interrupted. -/
abbrev Task (m : Type → Type) := ExceptT Interruption m

namespace Task

variable {m : Type → Type} [Monad m] {α ε : Type}

def ofExcept (failure : ε → Failure) (r : Except ε α) : Task m α :=
  ExceptT.mk (pure (r.mapError fun e => .failed (failure e)))

/-- A computation whose failures end the whole program. -/
def aborting (task : Task m α) : Task m α :=
  tryCatch task fun
    | .failed f => throw (.aborted f)
    | i => throw i

end Task

namespace Host

variable {m : Type → Type} [Monad m] (host : Host m)

/-- The text of a file; a dash stands for the standard input. -/
def readText (path : String) : Task m String := do
  if path = "-" then .ofExcept (.unreadable "stdin") (← host.readInput)
  else .ofExcept (.unreadable path) (← host.readFile path)

def readDraft (path : String) : Task m Draft := do
  .ofExcept (.draft path) (Draft.read (← host.readText path))

def readFacts (path : String) : Task m Facts := do
  .ofExcept (.facts path) (Facts.read (← host.readText path))

def readSchedule (path : String) : Task m Schedule := do
  .ofExcept (.schedule path) (Schedule.read (← host.readText path))

/-- The configuration at a path. Where there is none, it is empty. -/
def readConfig (path : String) : Task m Config := do
  if ← host.isThere path then
    let text ← .ofExcept (.configUnreadable path) (← host.readFile path)
    .ofExcept (.configUnfit path) (Config.read text)
  else return .empty

def verifyConfig (path : String) : Task m (List ConfigFault) := do
  if ← host.isThere path then
    let text ← .ofExcept (.verifiedUnreadable path) (← host.readFile path)
    let config ← .ofExcept .verifiedUnfit (Config.read text)
    return config.faults
  else throw (.failed (.verifiedAbsent path))

def writeConfig (path : String) (c : Config) : Task m Unit := do
  .ofExcept .configFolder (← host.makeFolders (Path.folders path))
  .ofExcept (.configUnwritable path) (← host.writeFile path c.text)

def instantOrNow (given : Option String) : Task m Instant :=
  match given with
  | none => ExceptT.lift host.now
  | some text => .ofExcept id (instantOf text)

def answer (path : String) : Command → Task m Report
  | .compile file context => do
    let draft ← host.readDraft file
    let config ← host.readConfig path
    let c ← .ofExcept id (config.contextFor context draft)
    return .compiled c.id (Rule.compileDraft c draft) (draft.resolve c).unresolved
  | .evaluate file factsFile context => do
    let draft ← host.readDraft file
    let facts ← host.readFacts factsFile
    let config ← host.readConfig path
    let c ← .ofExcept id (config.contextFor context draft)
    let resolved := draft.resolve c
    let condition := Condition.ofClauses resolved.clauses
    return .evaluated c.id condition (condition.evaluate facts.fact) facts.size resolved.unresolved
  | .checkExpression text =>
    match Quoting.fault? text with
    | none => return .expressionValid
    | some fault => throw (.failed (.expression fault))
  | .operators typeName => return .operators typeName (operatorsForType typeName)
  | .contexts none => do return .contexts (← host.readConfig path).catalog.contexts
  | .contexts (some id) => do
    let config ← host.readConfig path
    return .context (← .ofExcept (fun f => f) (config.context id))
  | .scheduleActive file given => do
    let s ← host.readSchedule file
    let now ← host.instantOrNow given
    let config ← host.readConfig path
    return .active (s.isActive now) now s.description (s.timezone <|> config.settings.timezone)
  | .scheduleDescription file => do
    let s ← host.readSchedule file
    return .description s.description s.coverage
  | .scheduleCoverage file => do return .coverage (← host.readSchedule file).coverage
  | .scheduleOpening file given => do
    let s ← host.readSchedule file
    let now ← host.instantOrNow given
    match s.nextOpening now with
    | .ok next => return .opening now next
    | .error ⟨⟩ => throw .crashed
  | .scheduleFaults file => do
    let s ← host.readSchedule file
    if s.isValid then return .scheduleValid else throw (.failed (.scheduleFaults s.faults))
  | .configText => do return .configText (← (host.readConfig path).aborting)
  | .configPath => return .configPath path
  | .configFaults => do
    let faults ← host.verifyConfig path
    if faults.isEmpty then return .configValid path
    else throw (.failed (.configFaults path faults))
  | .configReset => do
    (host.writeConfig path .empty).aborting
    return .configReset path
  | .configExample => return .configText .withExample

def run (words : Failure → Notice) (i : Invocation) : m Output := do
  return output words i.mode (← (host.answer (host.configPath i.config) i.command).run)

end Host

end Eligibility
