import Eligibility.Catalog.Basic
import Eligibility.Json.Decoding
import Eligibility.Json.Writer

/-!
Variables and contexts in documents.
-/

set_option autoImplicit false

namespace Eligibility

open Json (Decoder Form Fields Problem decodeText decodeList)

def Operator.toJson (o : Operator) : Json := .text o.symbol

def Operator.decode : Decoder Operator := fun d => Operator.read <$> decodeText d

def ValueType.toJson (t : ValueType) : Json := .text t.name

def ValueType.ofVariant (s : String) : Except Problem ValueType :=
  match ValueType.ofName? s with
  | some t => .ok t
  | none => .error (.unknownVariant s (ValueType.all.map ValueType.name))

def ValueType.decode (form : Form) : Decoder ValueType :=
  Json.decodeVariant form ValueType.ofVariant

def Variable.toJson (v : Variable) : Json :=
  .object ([("id", .text v.id), ("name", .text v.name), ("type", v.valueType.toJson),
    ("category", .text v.category), ("description", .text v.description)] ++
    Json.nonempty "allowedOperators" Operator.toJson v.allowedOperators)

def Variable.fields (form : Form) : Fields Variable :=
  Variable.mk <$> Fields.required "id" decodeText <*> Fields.required "name" decodeText <*>
    Fields.required "type" (ValueType.decode form) <*>
    Fields.withDefault "category" decodeText "" <*>
    Fields.withDefault "description" decodeText "" <*>
    Fields.withDefault "allowedOperators" (decodeList Operator.decode) []

def Variable.decode (form : Form) : Decoder Variable :=
  (Variable.fields form).decode form "VariableDefinition"

def Context.toJson (c : Context) : Json :=
  .object [("id", .text c.id), ("name", .text c.name), ("description", .text c.description),
    ("variables", .array (c.vars.map Variable.toJson)),
    ("operators", .array (c.operators.map Operator.toJson))]

def Context.fields (form : Form) : Fields Context :=
  Context.mk <$> Fields.required "id" decodeText <*> Fields.required "name" decodeText <*>
    Fields.withDefault "description" decodeText "" <*>
    Fields.withDefault "variables" (decodeList (Variable.decode form)) [] <*>
    Fields.withDefault "operators" (decodeList Operator.decode) []

def Context.decode (form : Form) : Decoder Context :=
  (Context.fields form).decode form "RuleContext"

end Eligibility
