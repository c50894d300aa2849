import Mathlib.Data.Finset.Card
import Eligibility.Proofs.DocumentLeaves
import Eligibility.Proofs.FirstSeen
import Eligibility.Proofs.KnownFacts

/-!
The facts of a document. They are its leaves that are values, each under its keys joined by dots; of leaves
that share a name the last one counts, and without dots in the keys no two leaves share one.
-/

set_option autoImplicit false

namespace Eligibility

namespace Json

mutual

/-- Whether an object occurs in the value, as the value itself or at any depth of a list. -/
def holdsObject : Json → Bool
  | .object _ => true
  | .array items => itemsHoldObject items
  | _ => false

def itemsHoldObject : List Json → Bool
  | [] => false
  | v :: vs => v.holdsObject || itemsHoldObject vs

end

mutual

def keys : Json → List String
  | .object members => memberKeys members
  | .array items => itemKeys items
  | _ => []

def itemKeys : List Json → List String
  | [] => []
  | v :: vs => v.keys ++ itemKeys vs

def memberKeys : List (String × Json) → List String
  | [] => []
  | (k, v) :: rest => k :: v.keys ++ memberKeys rest

end

/-- The leaves that are values, under their keys joined by dots. -/
def namedLeaves (ps : List (List String × Json)) : List (String × Value) :=
  ps.filterMap fun p => (Value.ofJson? p.2).map fun v => (".".intercalate p.1, v)

theorem valuesOfJson?_eq_none_iff {items : List Json}
    (h : ∀ v ∈ items, Value.ofJson? v = none ↔ v.holdsObject = true) :
    valuesOfJson? items = none ↔ itemsHoldObject items = true := by
  induction items with
  | nil => simp [valuesOfJson?, itemsHoldObject]
  | cons v vs ih =>
    simp only [List.forall_mem_cons] at h
    have hvs := ih h.2
    cases hv : Value.ofJson? v with
    | none => simp [valuesOfJson?, itemsHoldObject, hv, h.1.mp hv]
    | some w =>
      have hw : v.holdsObject = false := by
        rw [← Bool.not_eq_true, ← h.1, hv]
        simp
      cases hws : valuesOfJson? vs with
      | none => simp [valuesOfJson?, itemsHoldObject, hv, hws, hvs.mp hws]
      | some ws =>
        have hno : itemsHoldObject vs = false := by
          rw [← Bool.not_eq_true, ← hvs, hws]
          simp
        simp [valuesOfJson?, itemsHoldObject, hv, hws, hw, hno]

theorem ofJson?_eq_none_iff (v : Json) : Value.ofJson? v = none ↔ v.holdsObject = true := by
  induction v using induct with
  | array items ih => simp [Value.ofJson?, holdsObject, valuesOfJson?_eq_none_iff ih]
  | integer n =>
    rw [Value.ofJson?]
    split <;> simp [holdsObject]
  | _ => simp [Value.ofJson?, holdsObject]

theorem mem_memberKeys {members : List (String × Json)} {m : String × Json} (h : m ∈ members) :
    m.1 ∈ memberKeys members ∧ ∀ k ∈ m.2.keys, k ∈ memberKeys members := by
  induction members with
  | nil => simp at h
  | cons n rest ih =>
    obtain ⟨k, v⟩ := n
    rcases List.mem_cons.mp h with rfl | h
    · simp +contextual [memberKeys]
    · obtain ⟨hk, hv⟩ := ih h
      simp +contextual [memberKeys, hk, hv]

theorem LeadsTo.mem_keys {document leaf : Json} {keys : List String} (h : document.LeadsTo keys leaf) :
    ∀ k ∈ keys, k ∈ document.keys := by
  induction h with
  | here h => simp
  | under h rest ih =>
    obtain ⟨hkey, hkeys⟩ := mem_memberKeys (mem_of_lastMember? h)
    rw [Json.keys, List.forall_mem_cons]
    exact ⟨hkey, fun k hk => hkeys k (ih k hk)⟩

/-- Keys without a dot are told by their joined text. -/
theorem intercalate_dot_injective {ks ls : List String} (hk : ∀ k ∈ ks, '.' ∉ k.toList)
    (hl : ∀ l ∈ ls, '.' ∉ l.toList) (hks : ks ≠ []) (hls : ls ≠ [])
    (h : ".".intercalate ks = ".".intercalate ls) : ks = ls := by
  have split : ∀ {ms : List String}, (∀ m ∈ ms, '.' ∉ m.toList) → ms ≠ [] →
      ((".".intercalate ms).toList).splitOn '.' = ms.map String.toList := by
    intro ms hm hms
    rw [String.toList_intercalate]
    exact List.splitOn_intercalate '.' (by simpa using hm) (by simpa using hms)
  have hmap : ks.map String.toList = ls.map String.toList := by
    rw [← split hk hks, ← split hl hls, h]
  exact List.map_injective_iff.mpr (fun a b hab => String.toList_injective hab) hmap

theorem IsLeafList.nodup_names {document : Json} {ps : List (List String × Json)}
    (h : document.IsLeafList ps) (hkeys : ∀ key ∈ document.keys, '.' ∉ key.toList) :
    ((namedLeaves ps).map (·.1)).Nodup := by
  have clean : ∀ p ∈ ps, p.1 ≠ [] ∧ ∀ key ∈ p.1, '.' ∉ key.toList := by
    rintro ⟨keys, leaf⟩ hp
    obtain ⟨hne, hleads⟩ := (h.mem keys leaf).mp hp
    exact ⟨hne, fun key hk => hkeys key (hleads.mem_keys key hk)⟩
  rw [List.Nodup, List.pairwise_map, namedLeaves, List.pairwise_filterMap]
  refine h.ordered.imp_of_mem fun {p q} hp hq hlt v hv w hw heq => ?_
  obtain ⟨_, -, rfl⟩ := Option.map_eq_some_iff.mp hv
  obtain ⟨_, -, rfl⟩ := Option.map_eq_some_iff.mp hw
  obtain ⟨hpne, hpk⟩ := clean p hp
  obtain ⟨hqne, hqk⟩ := clean q hq
  have hsame : p.1 = q.1 := intercalate_dot_injective hpk hqk hpne hqne heq
  exact absurd hlt (hsame ▸ lt_irrefl _)

end Json

namespace Facts

open Json (pathLeaves memberPaths inKeyOrder lastMembers leafList namedLeaves)

def below (path : String) (p : List String × Json) : String × Json := (p.1.foldl dotted path, p.2)

theorem memberLeaves_eq (pathOf : String → String) (members : List (String × Json)) :
    memberLeaves pathOf members =
      (lastMembers members).map fun m => (m.1, leaves (pathOf m.1) m.2) := by
  induction members with
  | nil => rfl
  | cons m rest ih =>
    rw [memberLeaves, lastMembers]
    split <;> simp [ih]

theorem flatMap_memberLeaves (pathOf : String → String) (members : List (String × Json)) :
    (((memberLeaves pathOf members).mergeSort fun a b => a.1 ≤ b.1).flatMap (·.2)) =
      (inKeyOrder members).flatMap fun m => leaves (pathOf m.1) m.2 := by
  rw [memberLeaves_eq, ← List.map_mergeSort (r := fun a b => decide (a.1 ≤ b.1)) (by simp),
    List.flatMap_map]
  rfl

theorem leaves_eq (v : Json) (path : String) : leaves path v = (pathLeaves v).map (below path) := by
  induction v using Json.induct generalizing path with
  | object members ih =>
    rw [leaves, flatMap_memberLeaves, Json.pathLeaves_object, List.map_flatMap]
    refine List.flatMap_congr fun ⟨key, v⟩ hm => ?_
    rw [ih _ (Json.mem_of_lastMember? (Json.mem_inKeyOrder.mp hm)), List.map_map]
    rfl
  | _ => rfl

theorem foldl_dotted (path : String) (keys : List String) :
    keys.foldl dotted path = ".".intercalate (path :: keys) := by
  induction keys generalizing path with
  | nil => simp
  | cons k ks ih =>
    rw [List.foldl_cons, ih, dotted, String.intercalate_cons_of_ne_nil (List.cons_ne_nil k ks)]
    cases ks with
    | nil => simp
    | cons l ls =>
      rw [String.intercalate_cons_of_ne_nil (List.cons_ne_nil l ls),
        String.intercalate_cons_of_ne_nil (List.cons_ne_nil l ls)]
      simp only [String.append_assoc]

theorem documentLeaves_eq (document : Json) :
    documentLeaves document = (leafList document).map fun p => (".".intercalate p.1, p.2) := by
  cases document with
  | object members =>
    rw [documentLeaves, flatMap_memberLeaves, leafList, Json.pathLeaves_object, List.map_flatMap]
    refine List.flatMap_congr fun m _ => ?_
    obtain ⟨key, v⟩ := m
    rw [leaves_eq, List.map_map]
    refine List.map_congr_left fun p _ => ?_
    rw [below, id, foldl_dotted]
    rfl
  | _ => rfl

theorem pairs_eq (document : Json) : pairs document = namedLeaves (leafList document) := by
  rw [pairs, documentLeaves_eq, List.filterMap_map]
  rfl

def lastNamed (ps : List (String × Value)) (id : String) : Option Value :=
  ((ps.filter fun p => p.1 = id).getLast?).map (·.2)

theorem lastNamed_of_nodup {ps : List (String × Value)} (h : (ps.map (·.1)).Nodup)
    {p : String × Value} (hp : p ∈ ps) : lastNamed ps p.1 = some p.2 := by
  have hmem : p ∈ ps.filter fun q => q.1 = p.1 := by simp [hp]
  obtain ⟨q, hq⟩ := Option.ne_none_iff_exists'.mp
    (mt List.getLast?_eq_none_iff.mp (List.ne_nil_of_mem hmem))
  obtain ⟨hqmem, hname⟩ := List.mem_filter.mp (List.mem_of_getLast? hq)
  obtain rfl : q = p := List.inj_on_of_nodup_map h hqmem hp (by simpa using hname)
  rw [lastNamed, hq, Option.map_some]

def insertAll (ps : List (String × Value)) : Facts := ps.foldl (fun f (path, v) => f.insert path v) empty

theorem insertAll_concat (ps : List (String × Value)) (p : String × Value) :
    insertAll (ps ++ [p]) = (insertAll ps).insert p.1 p.2 := by
  rw [insertAll, List.foldl_append]
  rfl

theorem fact_insertAll (ps : List (String × Value)) (id : String) :
    (insertAll ps).fact id = lastNamed ps id := by
  induction ps using List.reverseRecOn with
  | nil => rfl
  | append_singleton ps p ih =>
    rw [insertAll_concat, fact_insert, ih, lastNamed, lastNamed, List.filter_append]
    by_cases h : p.1 = id <;> simp [h]

theorem keys_put (entries : List (String × Value)) (id : String) (v : Value) :
    (put entries id v).map (·.1) =
      if (entries.map (·.1)).contains id then entries.map (·.1) else entries.map (·.1) ++ [id] := by
  induction entries with
  | nil => simp [put]
  | cons e rest ih =>
    obtain ⟨k, w⟩ := e
    by_cases hk : k = id
    · simp [put, hk]
    · have hne : (id == k) = false := by simpa using Ne.symm hk
      rw [put, if_neg hk, List.map_cons, ih, List.map_cons, List.contains_cons, hne, Bool.false_or]
      split <;> rfl

theorem keys_insertAll (ps : List (String × Value)) :
    (insertAll ps).entries.map (·.1) = Context.firstSeen (ps.map (·.1)) := by
  have hrun := keys_foldl (fun f : Facts => f.entries.map (·.1)) (·.1)
    (fun f (p : String × Value) => keys_put f.entries p.1 p.2) empty ps
  refine hrun.trans ?_
  simp [empty]

theorem size_insertAll (ps : List (String × Value)) :
    (insertAll ps).size = (ps.map (·.1)).toFinset.card := by
  have h := Context.inFirstOrder_firstSeen (ps.map (·.1))
  have hset : (ps.map (·.1)).toFinset = (Context.firstSeen (ps.map (·.1))).toFinset := by
    ext id
    rw [List.mem_toFinset, List.mem_toFinset, h.mem]
  rw [hset, List.toFinset_card_of_nodup h.nodup, ← keys_insertAll, List.length_map]
  rfl

/-- Flattening goes through the one list of leaves that the document has. The fact of a name is the last
value with it; there are as many facts as names; and without a dot in any key each value is the fact of
its own name. A leaf is a value unless an object occurs in it. -/
theorem ofJson_leaves (document : Json) :
    (∃! ps, document.IsLeafList ps) ∧
    (∀ leaf, Value.ofJson? leaf = none ↔ leaf.holdsObject = true) ∧
    ∀ ps, document.IsLeafList ps →
      (∀ id, (ofJson document).fact id = lastNamed (namedLeaves ps) id) ∧
      (ofJson document).size = ((namedLeaves ps).map (·.1)).toFinset.card ∧
      ((∀ key ∈ document.keys, '.' ∉ key.toList) →
        ((namedLeaves ps).map (·.1)).Nodup ∧
          ∀ p ∈ namedLeaves ps, (ofJson document).fact p.1 = some p.2) := by
  have hlist := document.isLeafList_leafList
  refine ⟨⟨_, hlist, fun ps h => h.unique hlist⟩, Json.ofJson?_eq_none_iff, fun ps h => ?_⟩
  obtain rfl := h.unique hlist
  have hall : ofJson document = insertAll (namedLeaves (leafList document)) := by
    rw [← pairs_eq]
    rfl
  rw [hall]
  refine ⟨fact_insertAll _, size_insertAll _, fun hkeys => ?_⟩
  have hnodup := h.nodup_names hkeys
  refine ⟨hnodup, fun p hp => ?_⟩
  rw [fact_insertAll, lastNamed_of_nodup hnodup hp]

end Facts

end Eligibility
