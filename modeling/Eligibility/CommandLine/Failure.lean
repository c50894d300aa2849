import Eligibility.CommandLine.Host
import Eligibility.Condition.Quoting
import Eligibility.Config.Verification
import Eligibility.Json.Problem
import Eligibility.Schedule.Validation

/-!
Why a command does not answer, and the words for it.
-/

set_option autoImplicit false

namespace Eligibility

inductive ExitCode where
  | success
  | error
  | arguments
  | config
  | contextNotFound
  | expression
  | schedule
  deriving DecidableEq, Repr

def ExitCode.value : ExitCode → Nat
  | .success => 0
  | .error => 1
  | .arguments => 2
  | .config => 3
  | .contextNotFound => 4
  | .expression => 5
  | .schedule => 6

inductive Failure where
  | unreadable (source : String) (fault : FileFault)
  | draft (path : String) (problem : Json.Problem)
  | facts (path : String) (problem : Json.Problem)
  | schedule (path : String) (problem : Json.Problem)
  | instant (text : String)
  | configUnreadable (path : String) (fault : FileFault)
  | configUnfit (path : String) (problem : Json.Problem)
  /-- The next three arise when a configuration is verified. -/
  | verifiedAbsent (path : String)
  | verifiedUnreadable (path : String) (fault : FileFault)
  | verifiedUnfit (problem : Json.Problem)
  | configFaults (path : String) (faults : List ConfigFault)
  /-- The folder of the configuration is not there and was not made. -/
  | configFolder (fault : FileFault)
  | configUnwritable (path : String) (fault : FileFault)
  | noContext (known : List String)
  | contextNotFound (id : String) (suggestions : List String)
  | expression (fault : QuotingFault)
  | scheduleFaults (faults : List ScheduleFault)
  deriving DecidableEq, Repr

structure Notice where
  code : ExitCode
  summary : String
  cause : Option String
  /-- What does not fit in a document. It follows a summary or a cause that ends with a colon. -/
  explanation : Option String
  suggestions : List String
  details : List String
  deriving DecidableEq, Repr

namespace Notice

def plain (code : ExitCode) (summary : String) : Notice := ⟨code, summary, none, none, [], []⟩

def explained (code : ExitCode) (summary explanation : String) : Notice :=
  { plain code summary with explanation := some explanation }

def caused (code : ExitCode) (summary cause : String) : Notice :=
  { plain code summary with cause := some cause }

def explain (n : Notice) (s : String) : String :=
  match n.explanation with
  | none => s
  | some explanation => s ++ " " ++ explanation

def message (n : Notice) : String :=
  n.explain (": ".intercalate (n.summary :: n.cause.toList))

end Notice

namespace Failure

def notice : Failure → Notice
  | .unreadable source fault => .caused .arguments s!"Failed to read {source}" fault.message
  | .draft path problem =>
    .explained .arguments s!"invalid rule draft {path}:" (problem.message .strict)
  | .facts path problem => .explained .arguments s!"invalid facts {path}:" (problem.message .strict)
  | .schedule path problem =>
    .explained .arguments s!"invalid schedule {path}:" (problem.message .strict)
  | .instant text => .plain .arguments s!"invalid --at '{text}', expected YYYY-MM-DDTHH:MM[:SS]"
  | .configUnreadable path fault =>
    .caused .config s!"Failed to read config file: {path}" fault.message
  | .configUnfit path problem =>
    { Notice.caused .config s!"Failed to parse config file: {path}" "invalid config:" with
      explanation := some (problem.message .relaxed) }
  | .verifiedAbsent path => .plain .config s!"config file not found: {path}"
  | .verifiedUnreadable path fault =>
    .caused .config s!"failed to read config file: {path}" fault.message
  | .verifiedUnfit problem => .explained .config "invalid config:" (problem.message .relaxed)
  | .configFaults path faults =>
    { Notice.plain .config s!"Configuration has {faults.length} error(s): {path}" with
      details := faults.map ConfigFault.message }
  | .configFolder fault => .plain .config fault.message
  | .configUnwritable path fault =>
    .caused .config s!"Failed to write config file: {path}" fault.message
  | .noContext known =>
    { Notice.plain .arguments
        "no rule context given (use --context, a \"context\" field, or settings.default_context)" with
      suggestions := known }
  | .contextNotFound id suggestions =>
    { Notice.plain .contextNotFound s!"context '{id}' not found" with suggestions := suggestions }
  | .expression fault => .plain .expression fault.message
  | .scheduleFaults faults =>
    { Notice.plain .schedule s!"Schedule has {faults.length} error(s)" with
      details := faults.map ScheduleFault.message }

end Failure

end Eligibility
