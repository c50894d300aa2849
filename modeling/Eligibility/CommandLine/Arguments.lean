import Eligibility.CommandLine.Command

/-!
Arguments of an invocation. The name of a command leads from one level of the command line to the next,
and each level takes its own options, in any place; after a double dash there are no options. What is
common to all commands may be given on any level: then the last level that has it counts. An option
stands once on a level at most.
-/

set_option autoImplicit false

namespace Eligibility.Arguments

inductive Flag where
  | json
  | noJson
  | quiet
  /-- Concerns the log, which is not kept here. -/
  | verbose
  | version
  deriving DecidableEq, Repr

inductive Setting where
  | config
  | context
  | facts
  | instant
  deriving DecidableEq, Repr

inductive Verb where
  | compile
  | evaluate
  | checkExpression
  | operators
  | contexts
  | scheduleActive
  | scheduleDescription
  | scheduleCoverage
  | scheduleOpening
  | scheduleFaults
  | configText
  | configPath
  | configFaults
  | configReset
  | configExample
  deriving DecidableEq, Repr

inductive Level where
  | top
  | schedule
  | config
  | verb (v : Verb)
  deriving DecidableEq, Repr

/-- What stands at a place of a command. A path is never empty. -/
inductive Place where
  | path
  | text
  deriving DecidableEq, Repr

inductive UsageFault where
  | unexpected (argument : String)
  | repeated (option : String)
  | valueMissing (option : String)
  | valueUnwanted (option : String)
  | emptyPath
  | argumentMissing
  | commandMissing
  /-- The answer is to be JSON and is not to be JSON. -/
  | opposed
  deriving DecidableEq, Repr

/-- Why arguments are no invocation: the version is asked for, or they are faulty. -/
inductive Stop where
  | version
  | usage (fault : UsageFault)
  deriving DecidableEq, Repr

def UsageFault.message : UsageFault → String
  | .unexpected argument => s!"unexpected argument '{argument}'"
  | .repeated option => s!"the option '{option}' is given more than once"
  | .valueMissing option => s!"the option '{option}' needs a value"
  | .valueUnwanted option => s!"the option '{option}' takes no value"
  | .emptyPath => "a path must not be empty"
  | .argumentMissing => "an argument is missing"
  | .commandMissing => "a command is missing"
  | .opposed => "the options '--json' and '--no-json' exclude each other"

namespace Flag

def name : Flag → String
  | .json => "json"
  | .noJson => "no-json"
  | .quiet => "quiet"
  | .verbose => "verbose"
  | .version => "version"

def letter? : Flag → Option Char
  | .json => some 'j'
  | .noJson => none
  | .quiet => some 'q'
  | .verbose => some 'v'
  | .version => some 'V'

end Flag

namespace Setting

def name : Setting → String
  | .config => "config"
  | .context => "context"
  | .facts => "facts"
  | .instant => "at"

def letter? : Setting → Option Char
  | .context => some 'c'
  | _ => none

def place : Setting → Place
  | .config | .facts => .path
  | .context | .instant => .text

end Setting

namespace Verb

def places : Verb → List Place
  | .compile | .evaluate | .scheduleActive | .scheduleDescription | .scheduleCoverage
  | .scheduleOpening | .scheduleFaults => [.path]
  | .checkExpression | .operators | .contexts => [.text]
  | _ => []

def settings : Verb → List Setting
  | .compile => [.context]
  | .evaluate => [.context, .facts]
  | .scheduleActive | .scheduleOpening => [.instant]
  | _ => []

end Verb

namespace Level

def names : Level → List (String × Level)
  | .top => [("compile", .verb .compile), ("eval", .verb .evaluate),
    ("check-expr", .verb .checkExpression), ("operators", .verb .operators),
    ("contexts", .verb .contexts), ("schedule", .schedule), ("config", .config)]
  | .schedule => [("active", .verb .scheduleActive), ("describe", .verb .scheduleDescription),
    ("coverage", .verb .scheduleCoverage), ("next", .verb .scheduleOpening),
    ("validate", .verb .scheduleFaults)]
  | .config => [("show", .verb .configText), ("path", .verb .configPath),
    ("verify", .verb .configFaults), ("reset", .verb .configReset),
    ("default", .verb .configExample)]
  | .verb _ => []

def flags : Level → List Flag
  | .top => [.json, .noJson, .quiet, .verbose, .version]
  | _ => [.json, .noJson, .quiet, .verbose]

def settings : Level → List Setting
  | .verb v => .config :: v.settings
  | _ => [.config]

def places : Level → List Place
  | .verb v => v.places
  | _ => []

end Level

structure Given where
  flags : List Flag
  settings : List (Setting × String)
  places : List String
  deriving DecidableEq, Repr

def Given.none : Given := ⟨[], [], []⟩

structure Reading where
  level : Level
  given : Given
  /-- What was given on the levels before, the last of them first. -/
  outer : List Given
  /-- The option whose value comes next. -/
  waiting : Option Setting
  /-- There are no options any more. -/
  plain : Bool
  deriving DecidableEq, Repr

namespace Reading

def start : Reading := ⟨.top, .none, [], none, false⟩

def usage {α : Type} (fault : UsageFault) : Except Stop α := .error (.usage fault)

def checkPlace (place : Place) (s : String) : Except Stop Unit :=
  if place = .path ∧ s = "" then usage .emptyPath else .ok ()

def addFlag (r : Reading) (f : Flag) : Except Stop Reading :=
  if f = .version then .error .version
  else if r.given.flags.contains f then usage (.repeated f.name)
  else .ok { r with given := { r.given with flags := r.given.flags ++ [f] } }

def addSetting (r : Reading) (s : Setting) (value : String) : Except Stop Reading := do
  if (r.given.settings.lookup s).isSome then usage (.repeated s.name)
  checkPlace s.place value
  let settings := r.given.settings ++ [(s, value)]
  return { r with given := { r.given with settings := settings }, waiting := none }

def addPlace (r : Reading) (s : String) : Except Stop Reading := do
  match r.level.places[r.given.places.length]? with
  | none => usage (.unexpected s)
  | some place =>
    checkPlace place s
    return { r with given := { r.given with places := r.given.places ++ [s] } }

def enter (r : Reading) (level : Level) : Reading :=
  { r with level := level, given := .none, outer := r.given :: r.outer }

/-- Reads what follows two dashes: a name, and a value after an equals sign. -/
def long (r : Reading) (cs : List Char) : Except Stop Reading :=
  let name := String.ofList (cs.takeWhile fun c => c ≠ '=')
  let value := match cs.dropWhile fun c => c ≠ '=' with
    | [] => none
    | _ :: rest => some (String.ofList rest)
  match r.level.flags.find? fun f => f.name == name with
  | some f => if value.isSome then usage (.valueUnwanted name) else r.addFlag f
  | none =>
    match r.level.settings.find? fun s => s.name == name with
    | some s => match value with
      | some v => r.addSetting s v
      | none => .ok { r with waiting := some s }
    | none => usage (.unexpected name)

/-- Reads the letters after one dash. What follows the letter of an option with a value is the value,
with or without an equals sign. -/
def short (r : Reading) : List Char → Except Stop Reading
  | [] => .ok r
  | c :: cs =>
    match r.level.flags.find? fun f => f.letter? == some c with
    | some f => do
      let r ← r.addFlag f
      r.short cs
    | none =>
      match r.level.settings.find? fun s => s.letter? == some c with
      | some s => match cs with
        | [] => .ok { r with waiting := some s }
        | '=' :: value => r.addSetting s (String.ofList value)
        | value => r.addSetting s (String.ofList value)
      | none => usage (.unexpected (String.ofList [c]))

/-- A lone dash is no option. -/
def looksLikeOption (s : String) : Bool :=
  match s.toList with
  | '-' :: _ :: _ => true
  | _ => false

/-- Reads one argument that is neither a value nor behind the double dash. -/
def readFree (r : Reading) (s : String) : Except Stop Reading :=
  match r.level.names.lookup s with
  | some level => .ok (r.enter level)
  | none =>
    match s.toList with
    | ['-', '-'] => .ok { r with plain := true }
    | '-' :: '-' :: name => r.long name
    | '-' :: c :: letters => r.short (c :: letters)
    | _ => r.addPlace s

def read (r : Reading) (s : String) : Except Stop Reading :=
  match r.waiting with
  | some setting =>
    if looksLikeOption s then usage (.valueMissing setting.name) else r.addSetting setting s
  | none => if r.plain then r.addPlace s else r.readFree s

def levels (r : Reading) : List Given := r.given :: r.outer

def has (r : Reading) (f : Flag) : Bool := r.levels.any fun g => g.flags.contains f

/-- Quiet comes before JSON, and JSON before text. When nothing is said, text goes to a terminal and
JSON elsewhere. -/
def mode (r : Reading) (terminal : Bool) : OutputMode :=
  if r.has .quiet then .quiet
  else if r.has .json then .json
  else if r.has .noJson || terminal then .text
  else .json

end Reading

/-- The command of a verb and what it was given, if nothing is missing. -/
def command? (v : Verb) (g : Given) : Option Command :=
  let context := g.settings.lookup .context
  let instant := g.settings.lookup .instant
  match v, g.places with
  | .compile, [file] => some (.compile file context)
  | .evaluate, [file] => (g.settings.lookup .facts).map fun facts => .evaluate file facts context
  | .checkExpression, [text] => some (.checkExpression text)
  | .operators, [name] => some (.operators name)
  | .contexts, places => some (.contexts places.head?)
  | .scheduleActive, [file] => some (.scheduleActive file instant)
  | .scheduleDescription, [file] => some (.scheduleDescription file)
  | .scheduleCoverage, [file] => some (.scheduleCoverage file)
  | .scheduleOpening, [file] => some (.scheduleOpening file instant)
  | .scheduleFaults, [file] => some (.scheduleFaults file)
  | .configText, _ => some .configText
  | .configPath, _ => some .configPath
  | .configFaults, _ => some .configFaults
  | .configReset, _ => some .configReset
  | .configExample, _ => some .configExample
  | _, _ => none

def Reading.finish (r : Reading) (terminal : Bool) : Except Stop Invocation :=
  match r.waiting, r.level with
  | some setting, _ => usage (.valueMissing setting.name)
  | none, .verb v =>
    if r.levels.any fun g => g.flags.contains .json && g.flags.contains .noJson then usage .opposed
    else match command? v r.given with
      | some command =>
        .ok ⟨r.mode terminal, r.levels.findSome? fun g => g.settings.lookup .config, command⟩
      | none => usage .argumentMissing
  | none, _ => usage .commandMissing

/-- The invocation that arguments write, for output to a terminal or elsewhere. -/
def invocation (terminal : Bool) (arguments : List String) : Except Stop Invocation := do
  (← arguments.foldlM Reading.read Reading.start).finish terminal

end Eligibility.Arguments
