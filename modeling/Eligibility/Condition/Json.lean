import Eligibility.Catalog.Json
import Eligibility.Condition.Facts
import Eligibility.Condition.Rule

/-!
Values, clauses, drafts and compiled rules in documents.
-/

set_option autoImplicit false

namespace Eligibility

open Json (Decoder Document Fields Problem decodeText decodeList decodeOptional)

mutual

def Value.toJson : Value → Json
  | .text s => .text s
  | .integer n => .integer n
  | .double x => .double x
  | .truth b => .truth b
  | .list items => .array (valuesToJson items)
  | .null => .null

def valuesToJson : List Value → List Json
  | [] => []
  | v :: vs => v.toJson :: valuesToJson vs

end

/-- A value is read as a whole before its shape is looked at. -/
def Value.decode : Decoder Value := fun d => do
  let v ← d.value?
  match Value.ofJson? v with
  | some w => return w
  | none => throw (.noShape "Value")

def Connective.toJson (k : Connective) : Json := .text k.symbol

def Connective.ofVariant (s : String) : Except Problem Connective :=
  match Connective.ofName? s with
  | some k => .ok k
  | none => .error (.unknownVariant s Connective.names)

def Connective.decode : Decoder Connective := Json.decodeVariant .strict Connective.ofVariant

def orNull {α : Type} (encode : α → Json) : Option α → Json
  | none => .null
  | some v => encode v

namespace Clause

def toJson (c : Clause) : Json :=
  .object ([("id", .text c.id), ("variable", orNull Variable.toJson c.subject?),
    ("operator", c.operator.toJson), ("value", c.value.toJson)] ++
    Json.optional "logicalOperator" Connective.toJson c.connective)

def fields : Fields Clause :=
  Clause.mk <$> Fields.withDefault "id" decodeText "" <*>
    Fields.withDefault "variable" (decodeOptional (Variable.decode .strict)) none <*>
    Fields.required "operator" Operator.decode <*>
    Fields.withDefault "value" Value.decode .null <*>
    Fields.withDefault "logicalOperator" (decodeOptional Connective.decode) none

def decode : Decoder Clause := fields.decode .strict "ConditionExpression"

end Clause

namespace VariableReference

def toJson : VariableReference → Json
  | .id s => .text s
  | .definition v => v.toJson

/-- A text is an id and any other value a definition. It is read as a whole before its shape is looked
at, so only one message says that it has none of the shapes. -/
def decode : Decoder VariableReference := fun d => do
  let v ← d.value?
  match v with
  | .text s => return .id s
  | v => match Variable.decode .strict v.toDocument with
    | .ok w => return .definition w
    | .error _ => throw (.noShape "VariableRef")

end VariableReference

namespace DraftCondition

def toJson (d : DraftCondition) : Json :=
  .object ([("id", orNull Json.text d.id),
    ("variable", orNull VariableReference.toJson d.reference?),
    ("operator", d.operator.toJson), ("value", d.value.toJson)] ++
    Json.optional "logicalOperator" Connective.toJson d.connective)

def fields : Fields DraftCondition :=
  DraftCondition.mk <$> Fields.withDefault "id" (decodeOptional decodeText) none <*>
    Fields.withDefault "variable" (decodeOptional VariableReference.decode) none <*>
    Fields.required "operator" Operator.decode <*>
    Fields.withDefault "value" Value.decode .null <*>
    Fields.withDefault "logicalOperator" (decodeOptional Connective.decode) none

def decode : Decoder DraftCondition := fields.decode .strict "DraftCondition"

end DraftCondition

namespace Draft

def toJson (d : Draft) : Json :=
  .object (Json.optional "context" Json.text d.context ++
    [("conditions", .array (d.conditions.map DraftCondition.toJson))])

def fields : Fields Draft :=
  Draft.mk <$> Fields.withDefault "context" (decodeOptional decodeText) none <*>
    Fields.withDefault "conditions" (decodeList DraftCondition.decode) []

def decode : Decoder Draft := fields.decode .strict "RuleDraft"

def read (s : String) : Except Problem Draft := Json.decodeStrict decode s

end Draft

def Unresolved.toJson (u : Unresolved) : Json :=
  .object ([("condition", .text u.condition), ("variable", .text u.id)] ++
    Json.nonempty "suggestions" Json.text u.suggestions)

def Rule.members (r : Rule) : List (String × Json) :=
  [("expression", .text r.expression), ("valid", .truth r.isValid)] ++
    Json.optional "error" Json.text r.error? ++ Json.nonempty "problems" Json.text r.problems

end Eligibility
