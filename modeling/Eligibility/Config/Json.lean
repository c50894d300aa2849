import Eligibility.Catalog.Json
import Eligibility.Config.Basic

/-!
Configurations in documents. They are read in the relaxed form and written in the strict one.
-/

set_option autoImplicit false

namespace Eligibility

open Json (Decoder Fields Problem decodeText decodeList decodeOptional)

namespace Settings

def toJson (s : Settings) : Json :=
  .object (Json.optional "timezone" Json.text s.timezone ++
    Json.optional "default_context" Json.text s.defaultContext)

def fields : Fields Settings :=
  Settings.mk <$> Fields.withDefault "timezone" (decodeOptional decodeText) none <*>
    Fields.withDefault "default_context" (decodeOptional decodeText) none

def decode : Decoder Settings := fields.decode .relaxed "Settings"

end Settings

namespace Config

def toJson (c : Config) : Json :=
  .object [("contexts", .array (c.contexts.map Context.toJson)), ("settings", c.settings.toJson)]

def fields : Fields Config :=
  Config.mk <$> Fields.withDefault "contexts" (decodeList (Context.decode .relaxed)) [] <*>
    Fields.withDefault "settings" Settings.decode empty.settings

def decode : Decoder Config := fields.decode .relaxed "Config"

/-- The configuration that a text holds for a reader of relaxed documents. -/
def readWith (find? : String → Option Json.Document) (s : String) : Except Problem Config :=
  Json.decodeFound decode (find? s)

def read : String → Except Problem Config := readWith Json.readRelaxed?

def text (c : Config) : String := c.toJson.pretty

end Config

end Eligibility
