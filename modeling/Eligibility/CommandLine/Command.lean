/-!
What an invocation asks for: a command with its arguments, the form of the answer and the path of the
configuration.
-/

set_option autoImplicit false

namespace Eligibility

inductive Command where
  /-- A draft's expression text. -/
  | compile (draft : String) (context : Option String)
  /-- Whether a draft's rule matches facts. -/
  | evaluate (draft facts : String) (context : Option String)
  | checkExpression (text : String)
  | operators (typeName : String)
  | contexts (id : Option String)
  | scheduleActive (schedule : String) (instant : Option String)
  | scheduleDescription (schedule : String)
  | scheduleCoverage (schedule : String)
  | scheduleOpening (schedule : String) (instant : Option String)
  | scheduleFaults (schedule : String)
  | configText
  | configPath
  | configFaults
  | configReset
  /-- A configuration to start from. -/
  | configExample
  deriving DecidableEq, Repr

def programVersion : String := "fleetrule 0.1.0"

inductive OutputMode where
  | text
  | json
  /-- Nothing but failures. -/
  | quiet
  deriving DecidableEq, Repr

structure Invocation where
  mode : OutputMode
  config : Option String
  command : Command
  deriving DecidableEq, Repr

end Eligibility
