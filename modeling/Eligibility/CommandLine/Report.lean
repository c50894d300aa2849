import Eligibility.Condition.Json
import Eligibility.Config.Json
import Eligibility.Schedule.Basic

/-!
Answers of commands: what was found, as JSON and as lines of text.
-/

set_option autoImplicit false

namespace Eligibility

inductive Report where
  | compiled (contextId : String) (rule : Rule) (unresolved : List Unresolved)
  /-- `known` is the number of facts. -/
  | evaluated (contextId : String) (condition : Condition) (matched : Bool) (known : Nat)
      (unresolved : List Unresolved)
  | expressionValid
  | operators (typeName : String) (os : List Operator)
  | contexts (cs : List Context)
  | context (c : Context)
  | active (on : Bool) (now : Instant) (summary : String) (timezone : Option String)
  | description (summary : String) (percent : Nat)
  | coverage (percent : Nat)
  | opening (now : Instant) (next : Option Instant)
  | scheduleValid
  | configText (c : Config)
  | configPath (path : String)
  | configValid (path : String)
  | configReset (path : String)

def padRight (width : Nat) (s : String) : String :=
  s ++ String.ofList (List.replicate (width - s.length) ' ')

/-- The width of a column of ids: the most bytes that one of them has. -/
def columnWidth (ids : List String) : Nat := (ids.map String.utf8ByteSize).foldl max 0

namespace Context

def summaryJson (c : Context) : Json :=
  .object [("id", .text c.id), ("name", .text c.name), ("description", .text c.description),
    ("variables", .integer c.vars.length)]

def summaryLine (width : Nat) (c : Context) : String :=
  s!"{padRight width c.id}  {c.name} ({c.vars.length} variables)"

def lines (c : Context) : List String :=
  let width := columnWidth (c.vars.map Variable.id)
  let line (v : Variable) : String :=
    "  " ++ padRight width v.id ++ "  " ++ padRight 8 v.valueType.name ++ " " ++
      " ".intercalate (v.operators.map Operator.symbol)
  [c.id ++ " - " ++ c.name] ++ (if c.description.isEmpty then [] else [c.description]) ++ [""] ++
    c.vars.map line

end Context

namespace Report

def toJson : Report → Json
  | .compiled contextId rule unresolved =>
    .object (("context", .text contextId) :: rule.members ++
      Json.nonempty "unresolved" Unresolved.toJson unresolved)
  | .evaluated contextId condition matched known unresolved =>
    .object ([("context", .text contextId), ("matched", .truth matched),
      ("condition", .text condition.display), ("variables", Json.texts condition.vars),
      ("facts", .integer known)] ++ Json.nonempty "unresolved" Unresolved.toJson unresolved)
  | .expressionValid => .object [("valid", .truth true)]
  | .operators typeName os =>
    .object [("type", .text typeName), ("operators", .array (os.map Operator.toJson))]
  | .contexts cs => .array (cs.map Context.summaryJson)
  | .context c => c.toJson
  | .active on now summary timezone =>
    .object ([("active", .truth on), ("at", .text now.text), ("description", .text summary)] ++
      Json.optional "timezone" Json.text timezone)
  | .description summary percent =>
    .object [("description", .text summary), ("coverage", .integer percent)]
  | .coverage percent => .object [("coverage", .integer percent)]
  | .opening now next =>
    .object [("at", .text now.text), ("next", orNull (fun t => Json.text t.text) next)]
  | .scheduleValid => .object [("valid", .truth true), ("errors", .array [])]
  | .configText c => c.toJson
  | .configPath path => .text path
  | .configValid path | .configReset path => .object [("path", .text path), ("valid", .truth true)]

def lines : Report → List String
  | .compiled _ rule _ => [rule.expression]
  | .evaluated _ _ matched _ _ => [Value.truthText matched]
  | .expressionValid => ["✓ Expression is valid"]
  | .operators _ os => os.map Operator.symbol
  | .contexts cs => cs.map (Context.summaryLine (columnWidth (cs.map Context.id)))
  | .context c => c.lines
  | .active on now _ timezone =>
    let state := if on then "active" else "inactive"
    match timezone with
    | some zone => [s!"{state} at {now.text} ({zone})"]
    | none => [s!"{state} at {now.text}"]
  | .description summary percent => [summary, s!"coverage: {percent}%"]
  | .coverage percent => [toString percent]
  | .opening _ next => [(next.map Instant.text).getD "none"]
  | .scheduleValid => ["✓ Schedule is valid"]
  | .configText c => [c.text]
  | .configPath path => [path]
  | .configValid path => ["✓ Configuration is valid: " ++ path]
  | .configReset path => ["Configuration reset to defaults: " ++ path]

end Report

end Eligibility
