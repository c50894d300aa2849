import Eligibility.Condition.Json
import Eligibility.Proofs.RecordDecoding
import Eligibility.Proofs.RecordParts

/-!
Stored drafts. A draft that was read from a text and holds no double is written as a text that is read back
as that draft. Reading leaves room for this: what a draft may hold in its values is bounded by the place
where they stand, and writing puts them back into that place.
-/

set_option autoImplicit false

namespace Eligibility

open Json (Fields decodeText decodeList decodeOptional)

namespace Json

mutual

/-- Reading a document as a value keeps its bounds. -/
theorem fits_of_value? : (d : Document) → {v : Json} → {k : Nat} → d.value? = .ok v → d.Fits k →
    v.toDocument.Fits k
  | .null, _, _, h, _ => by cases h; trivial
  | .truth _, _, _, h, _ => by cases h; trivial
  | .integer _, _, _, h, hfits => by cases h; exact hfits
  | .double _, _, _, h, _ => by cases h; trivial
  | .text _, _, _, h, _ => by cases h; trivial
  | .illegible _, _, _, h, _ => by cases h
  | .refused _, _, _, h, _ => by cases h
  | .broken, _, _, h, _ => by cases h
  | .array items closed, _, _, h, hfits => by
    rw [Document.value?, bind_eq_ok] at h
    obtain ⟨vs, hvs, h⟩ := h
    split at h
    next hclosed =>
      cases h
      obtain ⟨hk, hitems⟩ := hfits hclosed
      exact fun _ => ⟨hk, fits_of_itemValues? items hvs hitems⟩
    next => cases h
  | .object members closed, _, _, h, hfits => by
    rw [Document.value?, bind_eq_ok] at h
    obtain ⟨vs, hvs, h⟩ := h
    split at h
    next hclosed =>
      cases h
      obtain ⟨hk, hmembers⟩ := hfits hclosed
      exact fun _ => ⟨hk, fits_of_memberValues? members hvs hmembers⟩
    next => cases h

theorem fits_of_itemValues? : (ds : List Document) → {vs : List Json} → {k : Nat} →
    itemValues? ds = .ok vs → ItemsFit ds k → ItemsFit (itemDocuments vs) k
  | [], _, _, h, _ => by cases h; trivial
  | d :: ds, _, _, h, hfits => by
    rw [itemValues?, bind_eq_ok] at h
    obtain ⟨v, hv, h⟩ := h
    obtain ⟨vs, hvs, h⟩ := bind_eq_ok.mp h
    cases h
    exact ⟨fits_of_value? d hv hfits.1, fits_of_itemValues? ds hvs hfits.2⟩

theorem fits_of_memberValues? : (ms : List Member) → {vs : List (String × Json)} → {k : Nat} →
    memberValues? ms = .ok vs → MembersFit ms k → MembersFit (memberDocuments vs) k
  | [], _, _, h, _ => by cases h; trivial
  | (key, d) :: ms, _, _, h, hfits => by
    rw [memberValues?, bind_eq_ok] at h
    obtain ⟨name, -, h⟩ := h
    obtain ⟨v, hv, h⟩ := bind_eq_ok.mp h
    obtain ⟨vs, hvs, h⟩ := bind_eq_ok.mp h
    cases h
    exact ⟨fits_of_value? d hv hfits.1, fits_of_memberValues? ms hvs hfits.2⟩

end

end Json

namespace Value

mutual

def holdsDouble : Value → Bool
  | .double _ => true
  | .list items => anyHoldsDouble items
  | _ => false

def anyHoldsDouble : List Value → Bool
  | [] => false
  | v :: vs => v.holdsDouble || anyHoldsDouble vs

end

mutual

/-- A value without doubles is written within the bounds that it was read in. -/
theorem bounds_of_ofJson? : (v : Json) → {w : Value} → {k : Nat} → ofJson? v = some w →
    v.toDocument.Fits k → w.holdsDouble = false → w.toJson.IsWhole ∧ w.toJson.depth ≤ k
  | .null, _, _, h, _, _ => by cases h; exact ⟨trivial, Nat.zero_le _⟩
  | .truth _, _, _, h, _, _ => by cases h; exact ⟨trivial, Nat.zero_le _⟩
  | .double _, _, _, h, _, hw => by cases h; cases hw
  | .text _, _, _, h, _, _ => by cases h; exact ⟨trivial, Nat.zero_le _⟩
  | .object _, _, _, h, _, _ => by cases h
  | .integer n, _, _, h, hfits, hw => by
    rw [ofJson?] at h
    split at h
    next hn => cases h; exact ⟨⟨hfits, hn⟩, Nat.zero_le _⟩
    next => cases h; cases hw
  | .array items, _, k, h, hfits, hw => by
    rw [ofJson?] at h
    obtain ⟨ws, hws, rfl⟩ := Option.map_eq_some_iff.mp h
    obtain ⟨hk, hitems⟩ := hfits rfl
    obtain ⟨hwhole, hdepth⟩ := bounds_of_valuesOfJson? items hws hitems hw
    refine ⟨hwhole, ?_⟩
    show Json.itemsDepth (valuesToJson ws) + 1 ≤ k
    omega

theorem bounds_of_valuesOfJson? : (vs : List Json) → {ws : List Value} → {k : Nat} →
    valuesOfJson? vs = some ws → Json.ItemsFit (Json.itemDocuments vs) k → anyHoldsDouble ws = false →
    Json.ItemsWhole (valuesToJson ws) ∧ Json.itemsDepth (valuesToJson ws) ≤ k
  | [], _, _, h, _, _ => by cases h; exact ⟨trivial, Nat.zero_le _⟩
  | v :: vs, _, _, h, hfits, hw => by
    obtain ⟨w, hv, h⟩ := Option.bind_eq_some_iff.mp h
    obtain ⟨ws, hvs, h⟩ := Option.bind_eq_some_iff.mp h
    cases h
    rw [anyHoldsDouble, Bool.or_eq_false_iff] at hw
    have hfirst := bounds_of_ofJson? v hv hfits.1 hw.1
    have hrest := bounds_of_valuesOfJson? vs hvs hfits.2 hw.2
    exact ⟨⟨hfirst.1, hrest.1⟩, Nat.max_le.mpr ⟨hfirst.2, hrest.2⟩⟩

end

mutual

theorem ofJson?_toJson : (v : Value) → v.toJson.IsWhole → ofJson? v.toJson = some v
  | .text _, _ => rfl
  | .truth _, _ => rfl
  | .null, _ => rfl
  | .double _, _ => rfl
  | .integer _, h => if_pos h.2
  | .list items, h => by
    rw [toJson, ofJson?, valuesOfJson?_valuesToJson items h]
    rfl

theorem valuesOfJson?_valuesToJson : (vs : List Value) → Json.ItemsWhole (valuesToJson vs) →
    valuesOfJson? (valuesToJson vs) = some vs
  | [], _ => rfl
  | v :: vs, h => by
    rw [valuesToJson, valuesOfJson?, ofJson?_toJson v h.1, valuesOfJson?_valuesToJson vs h.2]
    rfl

end

theorem decode_toJson {v : Value} (h : v.toJson.IsWhole) : decode v.toJson.toDocument = .ok v := by
  rw [decode, Json.value?_toDocument]
  simp only [bind, Except.bind, ofJson?_toJson v h]
  rfl

end Value

theorem Connective.decode_toJson (k : Connective) : Connective.decode k.toJson.toDocument = .ok k := by
  cases k <;> rfl

theorem VariableReference.decode_toJson (r : VariableReference) :
    VariableReference.decode r.toJson.toDocument = .ok r := by
  cases r with
  | id s => rfl
  | definition v =>
    have hvalue := Json.value?_toDocument v.toJson
    have hv := v.decode_toJson .strict
    simp only [toJson, decode, hvalue, bind, Except.bind]
    rw [Variable.toJson] at hv ⊢
    simp only [hv]
    rfl

theorem VariableReference.toDocument_ne_null (r : VariableReference) : r.toJson.toDocument ≠ .null := by
  cases r <;> exact nofun

namespace DraftCondition

theorem decode_toJson {c : DraftCondition} (h : c.value.toJson.IsWhole) :
    decode c.toJson.toDocument = .ok c := by
  obtain ⟨id, reference?, operator, value, connective⟩ := c
  have hnames : fields.fields.map Json.Field.name =
      ["id", "variable", "operator", "value"] ++ ["logicalOperator"] := rfl
  refine Fields.Reads.decode_object ?_ ?_ (hnames ▸ by decide) .strict _
  · refine (((((Fields.Reads.withDefault ?_).map _).seq (.withDefault ?_)).seq (.required ?_)).seq
      (.withDefault ?_)).seq (.withDefault ?_)
    case refine_1 => cases id <;> rfl
    case refine_2 =>
      cases reference? with
      | none => rfl
      | some r => exact Json.decodeOptional_some r.decode_toJson r.toDocument_ne_null
    case refine_3 => exact operator.decode_toJson
    case refine_4 => exact Value.decode_toJson h
    case refine_5 =>
      cases connective with
      | none => rfl
      | some k => exact Json.decodeOptional_some k.decode_toJson nofun
  · rw [hnames, List.map_append]
    exact (List.Sublist.refl _).append (Json.keys_optional _ _)

end DraftCondition

theorem Draft.decode_toJson {d : Draft} (h : ∀ c ∈ d.conditions, c.value.toJson.IsWhole) :
    Draft.decode d.toJson.toDocument = .ok d := by
  obtain ⟨context, conditions⟩ := d
  have hconditions := Json.decodeList_map conditions fun c hc => DraftCondition.decode_toJson (h c hc)
  have hnames : Draft.fields.fields.map Json.Field.name = ["context"] ++ ["conditions"] := rfl
  refine Fields.Reads.decode_object ?_ ?_ (hnames ▸ by decide) .strict _
  · refine ((Fields.Reads.withDefault ?_).map _).seq (.withDefault ?_)
    case refine_1 => cases context <;> rfl
    case refine_2 => cases context <;> exact hconditions
  · rw [hnames, List.map_append]
    exact (Json.keys_optional _ _).append (List.Sublist.refl _)

section Bounds

theorem Value.bounds_of_decode {d : Json.Document} {w : Value} {k : Nat} (h : Value.decode d = .ok w)
    (hfits : d.Fits k) (hw : w.holdsDouble = false) : w.toJson.IsWhole ∧ w.toJson.depth ≤ k := by
  obtain ⟨v, hv, h⟩ := Json.bind_eq_ok.mp h
  split at h
  next w' hw' =>
    cases h
    exact Value.bounds_of_ofJson? v hw' (Json.fits_of_value? d hv hfits) hw
  next => cases h

/-- The value of a condition is a part of it, or the null of a condition without one. -/
theorem DraftCondition.bounds_of_decode {d : Json.Document} {c : DraftCondition} {k : Nat}
    (h : DraftCondition.decode d = .ok c) (hfits : d.Fits (k + 1)) (hc : c.value.holdsDouble = false) :
    c.value.toJson.IsWhole ∧ c.value.toJson.depth ≤ k := by
  obtain ⟨get, hbuild, hget⟩ := Fields.exists_of_decode h
  obtain ⟨_, connective, hfour, -, rfl⟩ := Fields.build_seq_eq_ok hbuild
  obtain ⟨_, value, hthree, hvalue, rfl⟩ := Fields.build_seq_eq_ok hfour
  obtain ⟨_, operator, htwo, -, rfl⟩ := Fields.build_seq_eq_ok hthree
  obtain ⟨_, reference, hone, -, rfl⟩ := Fields.build_seq_eq_ok htwo
  obtain ⟨id, -, rfl⟩ := Fields.build_map_eq_ok hone
  rcases Fields.build_withDefault_eq_ok hvalue with rfl | ⟨e, he, hdecode⟩
  · exact ⟨trivial, Nat.zero_le _⟩
  · exact Value.bounds_of_decode hdecode (hfits.parts e (hget _ e he)) hc

theorem Draft.bounds_of_decode {d : Json.Document} {draft : Draft} {k : Nat}
    (h : Draft.decode d = .ok draft) (hfits : d.Fits (k + 3)) : ∀ c ∈ draft.conditions,
    c.value.holdsDouble = false → c.value.toJson.IsWhole ∧ c.value.toJson.depth ≤ k := by
  obtain ⟨get, hbuild, hget⟩ := Fields.exists_of_decode h
  obtain ⟨g, conditions, hg, hconditions, rfl⟩ := Fields.build_seq_eq_ok hbuild
  obtain ⟨context, -, rfl⟩ := Fields.build_map_eq_ok hg
  rcases Fields.build_withDefault_eq_ok hconditions with rfl | ⟨e, he, hdecode⟩
  · simp
  · intro c hc hwhole
    obtain ⟨f, hf, hc⟩ := Json.exists_of_decodeList hdecode c hc
    exact DraftCondition.bounds_of_decode hc ((hfits.parts e (hget _ e he)).parts f hf) hwhole

end Bounds

section Depth

theorem Variable.depth_toJson (v : Variable) : v.toJson.depth ≤ 2 := by
  have hoperators : Json.itemsDepth (v.allowedOperators.map Operator.toJson) = 0 := by
    refine Nat.le_zero.mp (Json.itemsDepth_le_iff.mpr fun j hj => ?_)
    obtain ⟨o, -, rfl⟩ := List.mem_map.mp hj
    exact Nat.le_refl 0
  rw [toJson, Json.depth, Nat.add_le_add_iff_right, Json.membersDepth_le_iff]
  simp [Json.depth, ValueType.toJson, Json.forall_mem_nonempty, or_imp, forall_and, hoperators]

theorem DraftCondition.depth_toJson {c : DraftCondition} {k : Nat} (hk : 2 ≤ k)
    (h : c.value.toJson.depth ≤ k) : c.toJson.depth ≤ k + 1 := by
  have hid : (orNull Json.text c.id).depth = 0 := by cases c.id <;> rfl
  have hreference : (orNull VariableReference.toJson c.reference?).depth ≤ k := by
    rcases c.reference? with - | - | v
    · exact Nat.zero_le k
    · exact Nat.zero_le k
    · exact v.depth_toJson.trans hk
  rw [toJson, Json.depth, Nat.add_le_add_iff_right, Json.membersDepth_le_iff]
  simp [Json.depth, Operator.toJson, Connective.toJson, Json.forall_mem_optional, or_imp, forall_and, hid,
    hreference, h]

theorem Draft.depth_toJson {d : Draft} {k : Nat} (hk : 2 ≤ k)
    (h : ∀ c ∈ d.conditions, c.value.toJson.depth ≤ k) : d.toJson.depth ≤ k + 3 := by
  have hconditions : Json.itemsDepth (d.conditions.map DraftCondition.toJson) ≤ k + 1 :=
    Json.itemsDepth_le_iff.mpr (by simpa using fun c hc => DraftCondition.depth_toJson hk (h c hc))
  rw [toJson, Json.depth, Nat.add_le_add_iff_right (n := 1) (k := k + 2), Json.membersDepth_le_iff]
  simp [Json.depth, Json.forall_mem_optional, or_imp, forall_and, hconditions]

end Depth

section Whole

theorem DraftCondition.isWhole_toJson {c : DraftCondition} (h : c.value.toJson.IsWhole) :
    c.toJson.IsWhole := by
  have hid : (orNull Json.text c.id).IsWhole := by cases c.id <;> trivial
  have hreference : (orNull VariableReference.toJson c.reference?).IsWhole := by
    rcases c.reference? with - | - | v
    · trivial
    · trivial
    · exact v.isWhole_toJson
  simp [toJson, Operator.toJson, Connective.toJson, Json.IsWhole, Json.membersWhole_iff,
    Json.forall_mem_optional, or_imp, forall_and, hid, hreference, h]

theorem Draft.isWhole_toJson {d : Draft} (h : ∀ c ∈ d.conditions, c.value.toJson.IsWhole) :
    d.toJson.IsWhole := by
  have hconditions : ∀ c ∈ d.conditions, c.toJson.IsWhole :=
    fun c hc => DraftCondition.isWhole_toJson (h c hc)
  simpa [toJson, Json.IsWhole, Json.membersWhole_iff, Json.itemsWhole_iff, Json.forall_mem_optional, or_imp,
    forall_and] using hconditions

end Whole

def Draft.HoldsNoDouble (d : Draft) : Prop := ∀ c ∈ d.conditions, c.value.holdsDouble = false

/-- The room that a strict document leaves inside the values of conditions. -/
theorem Draft.bounds_of_read {s : String} {d : Draft} (h : Draft.read s = .ok d) (hd : d.HoldsNoDouble) :
    ∀ c ∈ d.conditions, c.value.toJson.IsWhole ∧ c.value.toJson.depth ≤ 124 := by
  obtain ⟨hdecode, -⟩ := Json.decodeStrict_eq_ok_iff.mp h
  exact fun c hc => Draft.bounds_of_decode hdecode (Json.readStrict_fits s) c hc (hd c hc)

/-- Storing a draft again does not change it. -/
theorem Draft.read_toJson_of_read {s : String} {d : Draft} (h : Draft.read s = .ok d) (hd : d.HoldsNoDouble) :
    Draft.read d.toJson.compact = .ok d ∧ Draft.read d.toJson.pretty = .ok d := by
  have hbounds := Draft.bounds_of_read h hd
  have hdecode := Draft.decode_toJson fun c hc => (hbounds c hc).1
  have hwhole := Draft.isWhole_toJson fun c hc => (hbounds c hc).1
  -- writing puts the three containers back that reading found around each value
  have hdepth : d.toJson.depth ≤ Json.Reading.depthLimit :=
    Draft.depth_toJson (by decide) fun c hc => (hbounds c hc).2
  constructor
  · refine Json.decodeStrict_eq_ok_iff.mpr ?_
    rw [Json.readStrict_compact hwhole hdepth]
    exact ⟨hdecode, rfl⟩
  · refine Json.decodeStrict_eq_ok_iff.mpr ?_
    rw [Json.readStrict_pretty hwhole hdepth]
    exact ⟨hdecode, rfl⟩

/-- Two conditions, one of them as a list of its fields. The operator and the connective of the other are
not spelled as they are stored, and its value is a list in a list with the least integer there is. -/
def Draft.spelledOtherwise : String :=
  "[null,[[null,[\"fare\",\"Fare\",\"number\"],\" gte \",[[-9223372036854775808],\"x\"]," ++
    "\"AND\"],\x7b\"operator\":\"in\"\x7d]]"

def Draft.spelled : Draft where
  context := none
  conditions := [
    ⟨none, some (.definition ⟨"fare", "Fare", .number, "", "", []⟩), .greaterOrEqual,
      .list [.list [.integer (-9223372036854775808)], .text "x"], some .and⟩,
    ⟨none, none, .among, .null, none⟩]

set_option maxRecDepth 1000 in
theorem Draft.read_toJson_of_read_spelled :
    Draft.read spelledOtherwise = .ok spelled ∧ spelled.HoldsNoDouble ∧
      Draft.read spelled.toJson.compact = .ok spelled ∧
      Draft.read spelled.toJson.pretty = .ok spelled := by
  have htokens : Json.Strict.tokens spelledOtherwise.toList = [.openArray, .scalar .null, .comma,
      .openArray, .openArray, .scalar .null, .comma,
      .openArray, .text (.ok "fare"), .comma, .text (.ok "Fare"), .comma, .text (.ok "number"),
      .closeArray, .comma, .text (.ok " gte "), .comma,
      .openArray, .openArray, .scalar (.integer (-9223372036854775808)), .closeArray, .comma,
      .text (.ok "x"), .closeArray, .comma, .text (.ok "AND"), .closeArray, .comma,
      .openObject, .text (.ok "operator"), .colon, .text (.ok "in"), .closeObject, .closeArray,
      .closeArray] := by rfl
  have hdocument : Json.readStrict spelledOtherwise = (.array [.null, .array [.array [.null,
      .array [.text "fare", .text "Fare", .text "number"] true, .text " gte ",
      .array [.array [.integer (-9223372036854775808)] true, .text "x"] true, .text "AND"] true,
      .object [(.ok "operator", .text "in")] true] true] true, true) := by
    rw [Json.readStrict, htokens]
    rfl
  have hread : Draft.read spelledOtherwise = .ok spelled := by
    refine Json.decodeStrict_eq_ok_iff.mpr ?_
    rw [hdocument]
    exact ⟨rfl, rfl⟩
  have hdoubles : spelled.HoldsNoDouble := by
    simp [HoldsNoDouble, spelled, Value.holdsDouble, Value.anyHoldsDouble]
  exact ⟨hread, hdoubles, read_toJson_of_read hread hdoubles⟩

end Eligibility
