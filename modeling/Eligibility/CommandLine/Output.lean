import Eligibility.CommandLine.Command
import Eligibility.CommandLine.Failure
import Eligibility.CommandLine.Report

/-!
What an invocation prints and how it ends. JSON answers are replies of JSON-RPC 2.0 without an id, and
they go to the standard output whether a command answers or fails.
-/

set_option autoImplicit false

namespace Eligibility

inductive Interruption where
  | failed (f : Failure)
  /-- The program ends as a whole, whatever the form of answers. -/
  | aborted (f : Failure)
  /-- A search came to a day after the last date. -/
  | crashed
  deriving DecidableEq, Repr

structure Output where
  code : Nat
  out : List String
  err : List String
  deriving DecidableEq, Repr

namespace Output

def printed (lines : List String) : String := String.join (lines.map fun line => line ++ "\n")

def stdout (o : Output) : String := printed o.out

def stderr (o : Output) : String := printed o.err

end Output

def reply (member : String × Json) : String :=
  (Json.object [("jsonrpc", .text "2.0"), member, ("id", .null)]).compact

/-- Application errors count down from here. -/
def replyCode (code : ExitCode) : Int := -32000 - code.value

namespace Notice

/-- Details come before suggestions; a reply never has both. -/
def data (n : Notice) : List (String × Json) :=
  if !n.details.isEmpty then [("data", .object [("details", Json.texts n.details)])]
  else if !n.suggestions.isEmpty then [("data", .object [("suggestions", Json.texts n.suggestions)])]
  else []

def reply (n : Notice) : String :=
  Eligibility.reply ("error", .object ([("code", .integer (replyCode n.code)),
    ("message", .text n.message)] ++ n.data))

def lines (n : Notice) : List String :=
  ["error: " ++ n.message] ++ n.details.map (fun detail => "  - " ++ detail) ++
    if n.suggestions.isEmpty then []
    else ["did you mean: " ++ ", ".intercalate n.suggestions ++ "?"]

def abortLines (n : Notice) : List String :=
  match n.cause with
  | none => ["Error: " ++ n.explain n.summary]
  | some cause => ["Error: " ++ n.summary, "", "Caused by:", "    " ++ n.explain cause]

def output (n : Notice) (mode : OutputMode) : Output :=
  match mode with
  | .json => ⟨n.code.value, [n.reply], []⟩
  | .text | .quiet => ⟨n.code.value, [], n.lines⟩

end Notice

namespace Report

/-- Configurations and their paths are shown as they are in every form of answers. -/
def isVerbatim : Report → Bool
  | .configText _ | .configPath _ => true
  | _ => false

def out (r : Report) (mode : OutputMode) : List String :=
  if r.isVerbatim then r.lines
  else match r, mode with
    | _, .quiet => []
    | .configReset _, _ => r.lines
    | _, .text => r.lines
    | _, .json => [reply ("result", r.toJson)]

/-- What goes to the standard error beside an answer. The problems of a rule go there unless they are
in the reply; warnings are dropped when answers are. -/
def err (r : Report) (mode : OutputMode) : List String :=
  match r, mode with
  | _, .json => []
  | .compiled _ rule _, _ =>
    if rule.isValid then []
    else s!"✗ Rule has {rule.problems.length} problem(s):" ::
      rule.problems.map fun problem => "  - " ++ problem
  | .evaluated _ _ _ _ unresolved, .text => unresolved.map fun u => "warning: " ++ u.message
  | _, _ => []

def code : Report → ExitCode
  | .compiled _ rule _ => if rule.isValid then .success else .expression
  | _ => .success

def output (r : Report) (mode : OutputMode) : Output :=
  ⟨r.code.value, r.out mode, r.err mode⟩

end Report

def crashCode : Nat := 101

def Interruption.output (words : Failure → Notice) (mode : OutputMode) : Interruption → Output
  | .failed f => (words f).output mode
  | .aborted f => ⟨ExitCode.error.value, [], (words f).abortLines⟩
  | .crashed => ⟨crashCode, [], ["the search went past the last date"]⟩

def output (words : Failure → Notice) (mode : OutputMode) : Except Interruption Report → Output
  | .ok r => r.output mode
  | .error i => i.output words mode

end Eligibility
