import Eligibility.Config.Json
import Eligibility.Proofs.LenientReading
import Eligibility.Proofs.RecordDecoding

/-!
Stored configurations. A reader that reads the grammar of JSON takes the text that a configuration is stored as
for that configuration. The reader in use does so but for one thing: a line or a paragraph separator is stored
raw, and with one of them in a text it does not take the stored text at all.
-/

set_option autoImplicit false

namespace Eligibility

open Json (Fields hasSeparator)

/-- The texts that an author chooses. -/
def Variable.texts (v : Variable) : List String := [v.id, v.name, v.category, v.description]

def Context.texts (c : Context) : List String :=
  c.id :: c.name :: c.description :: c.vars.flatMap Variable.texts

def Settings.texts (s : Settings) : List String := s.timezone.toList ++ s.defaultContext.toList

def Config.texts (c : Config) : List String := c.contexts.flatMap Context.texts ++ c.settings.texts

section Decoding

theorem Settings.decode_toJson (s : Settings) : Settings.decode s.toJson.toDocument = .ok s := by
  obtain ⟨timezone, defaultContext⟩ := s
  have hnames : Settings.fields.fields.map Json.Field.name = ["timezone"] ++ ["default_context"] := rfl
  refine Fields.Reads.decode_object ?_ ?_ (hnames ▸ by decide) .relaxed _
  · refine ((Fields.Reads.withDefault ?_).map _).seq (.withDefault ?_)
    all_goals cases timezone <;> cases defaultContext <;> rfl
  · rw [hnames, List.map_append]
    exact (Json.keys_optional _ _).append (Json.keys_optional _ _)

theorem Config.decode_toJson (c : Config) : Config.decode c.toJson.toDocument = .ok c := by
  obtain ⟨contexts, settings⟩ := c
  have hcontexts := Json.decodeList_map contexts fun c _ => Context.decode_toJson .relaxed c
  have hnames : Config.fields.fields.map Json.Field.name = ["contexts", "settings"] := rfl
  refine Fields.Reads.decode_object ?_ (List.Sublist.refl _) (hnames ▸ by decide) .relaxed _
  refine ((Fields.Reads.withDefault ?_).map _).seq (.withDefault ?_)
  case refine_1 => exact hcontexts
  case refine_2 => exact Settings.decode_toJson settings

end Decoding

theorem Config.isWhole_toJson (c : Config) : c.toJson.IsWhole := by
  simp [Config.toJson, Settings.toJson, Json.IsWhole, Json.membersWhole_iff, Json.itemsWhole_iff, or_imp,
    forall_and, Json.forall_mem_optional, Context.isWhole_toJson]

section Verbal

theorem Variable.isVerbal_toJson (v : Variable) : v.toJson.IsVerbal := by
  simp [Variable.toJson, ValueType.toJson, Operator.toJson, Json.IsVerbal, Json.membersVerbal_iff,
    Json.itemsVerbal_iff, or_imp, forall_and, Json.forall_mem_nonempty]

theorem Context.isVerbal_toJson (c : Context) : c.toJson.IsVerbal := by
  simp [Context.toJson, Operator.toJson, Json.IsVerbal, Json.membersVerbal_iff, Json.itemsVerbal_iff,
    Variable.isVerbal_toJson]

theorem Config.isVerbal_toJson (c : Config) : c.toJson.IsVerbal := by
  simp [Config.toJson, Settings.toJson, Json.IsVerbal, Json.membersVerbal_iff, Json.itemsVerbal_iff, or_imp,
    forall_and, Json.forall_mem_optional, Context.isVerbal_toJson]

theorem Config.find?_text {find? : String → Option Json.Document} (hfind : Json.ReadsGrammar find?)
    (c : Config) : find? c.text = some c.toJson.toDocument :=
  hfind.find?_pretty c.isVerbal_toJson

end Verbal

section Texts

theorem Operator.any_allTexts_toJson (o : Operator) : o.toJson.allTexts.any hasSeparator = false := by
  cases o <;> decide

theorem Operator.any_itemTexts (os : List Operator) :
    (Json.array (os.map Operator.toJson)).allTexts.any hasSeparator = false := by
  rw [Json.allTexts, Json.itemTexts_eq_flatMap, List.any_flatMap, List.any_map, List.any_eq_false]
  exact fun o _ => Bool.eq_false_iff.mp o.any_allTexts_toJson

theorem ValueType.hasSeparator_name (t : ValueType) : hasSeparator t.name = false := by
  cases t <;> decide

theorem Json.any_itemTexts {vs : List Json} :
    (itemTexts vs).any hasSeparator = vs.any fun v => v.allTexts.any hasSeparator := by
  rw [itemTexts_eq_flatMap, List.any_flatMap]

theorem Json.any_memberTexts {ms : List (String × Json)} : (memberTexts ms).any hasSeparator =
    ms.any fun m => hasSeparator m.1 || m.2.allTexts.any hasSeparator := by
  simp [memberTexts_eq_flatMap, List.any_flatMap]

/-- The keys and symbols that are written beside the texts of an author have no separator. -/
theorem Variable.any_allTexts_toJson (v : Variable) :
    v.toJson.allTexts.any hasSeparator = v.texts.any hasSeparator := by
  have hkeys : hasSeparator "id" = false ∧ hasSeparator "name" = false ∧ hasSeparator "type" = false ∧
      hasSeparator "category" = false ∧ hasSeparator "description" = false ∧
      hasSeparator "allowedOperators" = false := by decide
  have hallowed : ((Json.nonempty "allowedOperators" Operator.toJson v.allowedOperators).any fun m =>
      hasSeparator m.1 || m.2.allTexts.any hasSeparator) = false := by
    cases v.allowedOperators with
    | nil => rfl
    | cons o os =>
      have hitems := Operator.any_itemTexts (o :: os)
      simpa [Json.nonempty, hkeys] using hitems
  simp [Variable.toJson, ValueType.toJson, Json.allTexts, Json.any_memberTexts, hkeys,
    ValueType.hasSeparator_name, Variable.texts, hallowed]

theorem Context.any_allTexts_toJson (c : Context) :
    c.toJson.allTexts.any hasSeparator = c.texts.any hasSeparator := by
  have hkeys : hasSeparator "id" = false ∧ hasSeparator "name" = false ∧
      hasSeparator "description" = false ∧ hasSeparator "variables" = false ∧
      hasSeparator "operators" = false := by decide
  have hvars : (Json.array (c.vars.map Variable.toJson)).allTexts.any hasSeparator =
      (c.vars.flatMap Variable.texts).any hasSeparator := by
    simp [Json.allTexts, Json.any_itemTexts, Function.comp_def, Variable.any_allTexts_toJson]
  have hoperators := Operator.any_itemTexts c.operators
  simp only [Context.toJson, Json.allTexts] at hvars hoperators ⊢
  simp [Json.any_memberTexts, Json.allTexts, hkeys, Context.texts, hvars, hoperators]

theorem Settings.any_allTexts_toJson (s : Settings) :
    s.toJson.allTexts.any hasSeparator = s.texts.any hasSeparator := by
  have hkeys : hasSeparator "timezone" = false ∧ hasSeparator "default_context" = false := by decide
  obtain ⟨timezone, defaultContext⟩ := s
  cases timezone <;> cases defaultContext <;>
    simp [Settings.toJson, Json.optional, Json.allTexts, Json.memberTexts, hkeys, Settings.texts]

theorem Config.any_allTexts_toJson (c : Config) :
    c.toJson.allTexts.any hasSeparator = c.texts.any hasSeparator := by
  have hkeys : hasSeparator "contexts" = false ∧ hasSeparator "settings" = false := by decide
  simp [Config.toJson, Json.allTexts, Json.any_memberTexts, Json.any_itemTexts, hkeys, Config.texts,
    Function.comp_def, Context.any_allTexts_toJson, Settings.any_allTexts_toJson]

end Texts

theorem Config.readRelaxed?_text (c : Config) : Json.readRelaxed? c.text =
    if c.texts.any hasSeparator then none else some c.toJson.toDocument := by
  rw [Config.text, Json.readRelaxed?_pretty c.isWhole_toJson, c.any_allTexts_toJson]

/-- Storing and reading is the identity on configurations, whatever their texts are and whoever reads, as long
as the reader takes what the grammar writes. -/
theorem Config.readWith_text {find? : String → Option Json.Document} (hfind : Json.ReadsGrammar find?)
    (c : Config) : Config.readWith find? c.text = .ok c := by
  rw [Config.readWith, Config.find?_text hfind]
  exact c.decode_toJson

/-- Escapes of every kind, an operator that is not known, and fields that are not stored. -/
def oddConfig : Config :=
  ⟨[⟨"a\"b\\c", "\x00 \x1f \x7f", "one\ntwo\r\t\x08\x0c",
      [⟨"trip/où", "🚕", .array, "", "'", []⟩, ⟨"trip.id", "", .number, "", "", [.unknown, .equal]⟩],
      [.inList, .unknown]⟩],
    ⟨none, some "a\"b\\c"⟩⟩

theorem Config.readWith_text_odd :
    Json.ReadsGrammar Json.readLenient? ∧
      Json.readLenient? oddConfig.text = Json.readRelaxed? oddConfig.text ∧
      Config.readWith Json.readLenient? oddConfig.text = .ok oddConfig := by
  have hreads := Json.readsGrammar_readLenient?
  refine ⟨hreads, ?_, Config.readWith_text hreads oddConfig⟩
  rw [Config.find?_text hreads, Config.readRelaxed?_text, if_neg (by decide)]

/-- The reader in use takes back the configurations without separators in their texts, and with one the stored
text is no document. -/
theorem Config.read_text (c : Config) :
    Config.read c.text = if c.texts.any hasSeparator then .error .malformed else .ok c := by
  rw [Config.read, Config.readWith, c.readRelaxed?_text]
  cases c.texts.any hasSeparator with
  | true => rfl
  | false => exact c.decode_toJson

end Eligibility
