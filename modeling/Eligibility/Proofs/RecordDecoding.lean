import Eligibility.Catalog.Json
import Eligibility.Proofs.TokenReading

/-!
Records that were written are decoded again. A record is made field by field, so it is enough to say for
each field what the document of its key decodes to; the members may leave out fields but keep their order.
-/

set_option autoImplicit false

namespace Eligibility

namespace Json

theorem itemDocuments_eq_map (vs : List Json) : itemDocuments vs = vs.map toDocument := by
  induction vs with
  | nil => rfl
  | cons v vs ih => rw [itemDocuments, ih, List.map_cons]

def documentMembers (ms : List (String × Json)) : List (String × Document) :=
  ms.map fun m => (m.1, m.2.toDocument)

namespace Fields

/-- The record is made of these documents, and none of them is faulty. -/
structure Reads {α : Type} (x : Fields α) (get : String → Option Document) (a : α) : Prop where
  build : x.build get = .ok a
  check : ∀ f ∈ x.fields, ∀ d, get f.name = some d → f.check d = .ok ()

section Reads

variable {α β : Type} {get : String → Option Document}

theorem discard_ok {decode : Decoder α} {d : Document} {a : α} (h : decode d = .ok a) :
    discard (decode d) = Except.ok () := by
  rw [h]
  rfl

theorem Reads.required {name : String} {decode : Decoder α} {a : α}
    (h : (required name decode).build get = .ok a) : (required name decode).Reads get a := by
  refine ⟨h, fun f hf d hd => ?_⟩
  obtain rfl := List.mem_singleton.mp hf
  simp only [Fields.required] at h hd
  rw [hd] at h
  exact discard_ok h

theorem Reads.withDefault {name : String} {decode : Decoder α} {absent a : α}
    (h : (withDefault name decode absent).build get = .ok a) :
    (withDefault name decode absent).Reads get a := by
  refine ⟨h, fun f hf d hd => ?_⟩
  obtain rfl := List.mem_singleton.mp hf
  simp only [Fields.withDefault] at h hd
  rw [hd] at h
  exact discard_ok h

theorem Reads.seq {x : Fields (α → β)} {y : Fields α} {g : α → β} {a : α} (hx : x.Reads get g)
    (hy : y.Reads get a) : (x <*> y).Reads get (g a) := by
  refine ⟨?_, fun f hf => (List.mem_append.mp hf).elim (hx.check f) (hy.check f)⟩
  show (do let h ← x.build get; let v ← y.build get; return h v) = _
  rw [hx.build, hy.build]
  rfl

theorem Reads.map {x : Fields α} {a : α} (g : α → β) (hx : x.Reads get a) :
    (g <$> x).Reads get (g a) :=
  Reads.seq (x := pure g) ⟨rfl, fun _ hf => absurd hf List.not_mem_nil⟩ hx

end Reads

variable {α : Type} {x : Fields α} {ms : List (String × Json)}

theorem lookup_eq_some_iff {xs : List (String × Document)} (h : (xs.map Prod.fst).Nodup) {name : String}
    {d : Document} : lookup xs name = some d ↔ (name, d) ∈ xs := by
  induction xs with
  | nil => simp [lookup]
  | cons x xs ih =>
    simp only [List.map_cons, List.nodup_cons] at h
    by_cases hx : x.1 = name
    · have hxs : (name, d) ∉ xs := fun hm => h.1 (hx ▸ List.mem_map_of_mem hm)
      simp [lookup, hx, hxs, Prod.ext_iff, eq_comm]
    · have hcons : lookup (x :: xs) name = lookup xs name := by simp [lookup, hx]
      have hne : (name, d) ≠ x := fun heq => hx (heq ▸ rfl)
      rw [hcons, ih h.2]
      simp [hne]

theorem lookup_reverse {xs : List (String × Document)} (h : (xs.map Prod.fst).Nodup) :
    lookup xs.reverse = lookup xs := by
  funext name
  have hrev : (xs.reverse.map Prod.fst).Nodup := by
    rwa [List.map_reverse, List.Perm.nodup_iff (List.reverse_perm _)]
  ext d
  rw [lookup_eq_some_iff hrev, lookup_eq_some_iff h, List.mem_reverse]

/-- The members are collected last first. -/
theorem readMembers_memberDocuments (form : Form) (fields : List Field) :
    (ms : List (String × Json)) → (seen : List (String × Document)) → (ms.map Prod.fst).Nodup →
    (∀ m ∈ ms, ∃ f, (fields.find? fun f => f.name == m.1) = some f ∧
      f.check m.2.toDocument = .ok ()) →
    (∀ m ∈ ms, ∀ s ∈ seen, s.1 ≠ m.1) →
    readMembers form fields (memberDocuments ms) seen =
      .ok ((documentMembers ms).reverse ++ seen)
  | [], _, _, _, _ => rfl
  | (k, v) :: ms, seen, hms, hfields, hnew => by
    simp only [List.map_cons, List.nodup_cons] at hms
    simp only [List.forall_mem_cons] at hfields hnew
    obtain ⟨⟨f, hf, hcheck⟩, hfields⟩ := hfields
    have hseen : (seen.any fun s => s.1 == k) = false := by simpa using hnew.1
    have hrest := readMembers_memberDocuments form fields ms ((k, v.toDocument) :: seen) hms.2 hfields
      fun m hm => by
        simp only [List.forall_mem_cons]
        exact ⟨fun heq => hms.1 (heq ▸ List.mem_map_of_mem hm), hnew.2 m hm⟩
    simp only [memberDocuments, readMembers, bind, Except.bind, hf, hseen, hcheck]
    rw [if_neg (by simp), hrest]
    simp [documentMembers]

theorem Reads.decode_object {a : α} (h : x.Reads (lookup (documentMembers ms)) a)
    (hms : (ms.map Prod.fst).Sublist (x.fields.map Field.name))
    (hfields : (x.fields.map Field.name).Nodup) (form : Form) (record : String) :
    x.decode form record (Json.object ms).toDocument = .ok a := by
  have hnodup := hfields.sublist hms
  have hkeys : ((documentMembers ms).map Prod.fst).Nodup := by
    rwa [documentMembers, List.map_map]
  have hread := readMembers_memberDocuments form x.fields ms [] hnodup
    (fun m hm => ?_) (by simp)
  · rw [toDocument, decode, hread, List.append_nil]
    show x.build (lookup (documentMembers ms).reverse) = _
    rw [lookup_reverse hkeys, h.build]
  · obtain ⟨f, hf, hname⟩ := List.mem_map.mp (hms.subset (List.mem_map_of_mem hm))
    have hdocument : lookup (documentMembers ms) m.1 = some m.2.toDocument :=
      (lookup_eq_some_iff hkeys).mpr (List.mem_map_of_mem hm)
    obtain ⟨g, hg⟩ : ∃ g, (x.fields.find? fun g => g.name == m.1) = some g :=
      Option.isSome_iff_exists.mp (List.find?_isSome.mpr ⟨f, hf, by simp [hname]⟩)
    have hgname : g.name = m.1 := by simpa using List.find?_some hg
    exact ⟨g, hg, h.check g (List.mem_of_find?_eq_some hg) _ (hgname ▸ hdocument)⟩

end Fields

section Lists

variable {α : Type} {decode : Decoder α} {encode : α → Json}

theorem decodeItems_map (as : List α) (h : ∀ a ∈ as, decode (encode a).toDocument = .ok a) :
    decodeItems decode ((as.map encode).map toDocument) = .ok as := by
  induction as with
  | nil => rfl
  | cons a as ih =>
    simp only [List.forall_mem_cons] at h
    rw [List.map_cons, List.map_cons, decodeItems, h.1, ih h.2]
    rfl

theorem decodeList_map (as : List α) (h : ∀ a ∈ as, decode (encode a).toDocument = .ok a) :
    decodeList decode (Json.array (as.map encode)).toDocument = .ok as := by
  rw [toDocument, itemDocuments_eq_map, decodeList, decodeItems_map as h]
  rfl

/-- A null is the absence of a value, so no value may be written as one. -/
theorem decodeOptional_some {a : α} (h : decode (encode a).toDocument = .ok a)
    (hnull : (encode a).toDocument ≠ .null) :
    decodeOptional decode (encode a).toDocument = .ok (some a) := by
  unfold decodeOptional
  split
  next heq => exact absurd heq hnull
  next => rw [h]; rfl

theorem Fields.Reads.optional {get : String → Option Document} {name : String} {o : Option α}
    (hget : get name = o.map fun a => (encode a).toDocument)
    (h : ∀ a, decode (encode a).toDocument = .ok a) (hnull : ∀ a, (encode a).toDocument ≠ .null) :
    (Fields.withDefault name (decodeOptional decode) none).Reads get o := by
  refine .withDefault ?_
  simp only [Fields.withDefault, hget]
  cases o with
  | none => rfl
  | some a => exact decodeOptional_some (h a) (hnull a)

end Lists

section Keys

variable {α : Type} {encode : α → Json} (key : String)

theorem keys_optional (o : Option α) : ((optional key encode o).map Prod.fst).Sublist [key] := by
  cases o with
  | none => exact List.nil_sublist _
  | some a => exact List.Sublist.refl _

theorem keys_nonempty (as : List α) : ((nonempty key encode as).map Prod.fst).Sublist [key] := by
  cases as with
  | nil => exact List.nil_sublist _
  | cons a as => exact List.Sublist.refl _

theorem lookup_append (xs ys : List (String × Document)) (name : String) :
    Fields.lookup (xs ++ ys) name = (Fields.lookup xs name).or (Fields.lookup ys name) := by
  simp only [Fields.lookup, List.find?_append]
  cases xs.find? fun x => x.1 == name <;> rfl

theorem documentMembers_append (ms ns : List (String × Json)) :
    documentMembers (ms ++ ns) = documentMembers ms ++ documentMembers ns :=
  List.map_append

theorem lookup_optional (o : Option α) (name : String) :
    Fields.lookup (documentMembers (optional key encode o)) name =
      if key = name then o.map fun a => (encode a).toDocument else none := by
  cases o with
  | none => simp [optional, documentMembers, Fields.lookup]
  | some a => by_cases h : key = name <;> simp [optional, documentMembers, Fields.lookup, h]

theorem forall_mem_optional {p : String → Json → Prop} {o : Option α} :
    (∀ k v, (k, v) ∈ optional key encode o → p k v) ↔ ∀ a ∈ o, p key (encode a) := by
  cases o <;> simp [optional]

theorem forall_mem_nonempty {p : String → Json → Prop} {as : List α} :
    (∀ k v, (k, v) ∈ nonempty key encode as → p k v) ↔
      (as ≠ [] → p key (.array (as.map encode))) := by
  cases as <;> simp [nonempty]

end Keys

end Json

open Json (Fields Form decodeText decodeList)

theorem Operator.decode_toJson (o : Operator) : Operator.decode o.toJson.toDocument = .ok o := by
  have h : Operator.decode o.toJson.toDocument = .ok (Operator.read o.symbol) := rfl
  rw [h, Operator.read_symbol]

theorem Operator.isWhole_toJson (o : Operator) : o.toJson.IsWhole := trivial

theorem ValueType.decode_toJson (form : Form) (t : ValueType) :
    ValueType.decode form t.toJson.toDocument = .ok t := by
  have h : ValueType.decode form t.toJson.toDocument = ValueType.ofVariant t.name := rfl
  rw [h, ValueType.ofVariant, ValueType.ofName?_name]

theorem Variable.decode_toJson (form : Form) (v : Variable) :
    Variable.decode form v.toJson.toDocument = .ok v := by
  obtain ⟨id, name, valueType, category, description, allowed⟩ := v
  have hallowed := Json.decodeList_map allowed fun o _ => Operator.decode_toJson o
  have hnames : (Variable.fields form).fields.map Json.Field.name =
      ["id", "name", "type", "category", "description"] ++ ["allowedOperators"] := rfl
  refine Fields.Reads.decode_object ?_ ?_ (hnames ▸ by decide) form _
  · refine ((((((Fields.Reads.required ?_).map _).seq (.required ?_)).seq (.required ?_)).seq
      (.withDefault ?_)).seq (.withDefault ?_)).seq (.withDefault ?_)
    case refine_3 => exact ValueType.decode_toJson form valueType
    case refine_6 =>
      cases allowed with
      | nil => rfl
      | cons o os => exact hallowed
    all_goals rfl
  · rw [hnames, List.map_append]
    exact (List.Sublist.refl _).append (Json.keys_nonempty _ _)

theorem Variable.isWhole_toJson (v : Variable) : v.toJson.IsWhole := by
  simp [Variable.toJson, ValueType.toJson, Json.IsWhole, Json.membersWhole_iff, Json.itemsWhole_iff,
    or_imp, forall_and, Json.forall_mem_nonempty, Operator.isWhole_toJson]

theorem Context.isWhole_toJson (c : Context) : c.toJson.IsWhole := by
  simp [Context.toJson, Json.IsWhole, Json.membersWhole_iff, Json.itemsWhole_iff,
    Operator.isWhole_toJson, Variable.isWhole_toJson]

theorem Context.decode_toJson (form : Form) (c : Context) :
    Context.decode form c.toJson.toDocument = .ok c := by
  obtain ⟨id, name, description, vars, operators⟩ := c
  have hvars := Json.decodeList_map vars fun v _ => Variable.decode_toJson form v
  have hoperators := Json.decodeList_map operators fun o _ => Operator.decode_toJson o
  have hnames : (Context.fields form).fields.map Json.Field.name =
      ["id", "name", "description", "variables", "operators"] := rfl
  refine Fields.Reads.decode_object ?_ (List.Sublist.refl _) (hnames ▸ by decide) form _
  refine (((((Fields.Reads.required ?_).map _).seq (.required ?_)).seq (.withDefault ?_)).seq
    (.withDefault ?_)).seq (.withDefault ?_)
  case refine_4 => exact hvars
  case refine_5 => exact hoperators
  all_goals rfl

end Eligibility
