import Mathlib.Data.List.Lex
import Mathlib.Data.String.Basic
import Eligibility.Condition.Facts

/-!
The leaves of a document: its values that are no objects, with the keys that lead to them. A document has one
list of them in the order of the keys, and flattening goes through that list.
-/

set_option autoImplicit false

namespace Eligibility.Json

def lastMember? (members : List (String × Json)) (key : String) : Option Json :=
  ((members.filter fun m => m.1 = key).getLast?).map (·.2)

/-- The keys lead from the document, from object to object, to a value that is no object. -/
inductive LeadsTo : Json → List String → Json → Prop
  | here {v : Json} (h : ∀ members, v ≠ .object members) : LeadsTo v [] v
  | under {members : List (String × Json)} {key : String} {v leaf : Json} {keys : List String}
      (h : lastMember? members key = some v) (rest : LeadsTo v keys leaf) :
      LeadsTo (.object members) (key :: keys) leaf

/-- The leaves of an object, depth first, the keys of each object in their order. A document that is no
object has none. -/
structure IsLeafList (document : Json) (ps : List (List String × Json)) : Prop where
  mem : ∀ keys leaf, (keys, leaf) ∈ ps ↔ keys ≠ [] ∧ document.LeadsTo keys leaf
  ordered : ps.Pairwise fun p q => p.1 < q.1

@[elab_as_elim]
theorem induct {motive : Json → Prop} (null : motive .null) (truth : ∀ b, motive (.truth b))
    (integer : ∀ n, motive (.integer n)) (double : ∀ x, motive (.double x)) (text : ∀ s, motive (.text s))
    (array : ∀ items, (∀ v ∈ items, motive v) → motive (.array items))
    (object : ∀ members, (∀ m ∈ members, motive m.2) → motive (.object members)) (v : Json) :
    motive v := by
  refine Json.rec (motive_1 := motive) (motive_2 := fun items => ∀ v ∈ items, motive v)
    (motive_3 := fun members => ∀ m ∈ members, motive m.2) (motive_4 := fun m => motive m.2)
    null truth integer double text array object ?_ ?_ ?_ ?_ ?_ v
  · simp
  · intro v vs hv hvs
    simp only [List.forall_mem_cons]
    exact ⟨hv, hvs⟩
  · simp
  · intro m ms hm hms
    simp only [List.forall_mem_cons]
    exact ⟨hm, hms⟩
  · exact fun _ _ h => h

section Members

def lastMembers : List (String × Json) → List (String × Json)
  | [] => []
  | (k, v) :: rest =>
    if rest.any fun (l, _) => l == k then lastMembers rest else (k, v) :: lastMembers rest

def inKeyOrder (members : List (String × Json)) : List (String × Json) :=
  (lastMembers members).mergeSort fun a b => a.1 ≤ b.1

theorem lastMember?_cons (k key : String) (v : Json) (rest : List (String × Json)) :
    lastMember? ((k, v) :: rest) key =
      (lastMember? rest key).or (if k = key then some v else none) := by
  by_cases hk : k = key
  · cases hl : (rest.filter fun m => m.1 = key).getLast? with
    | none => simp [lastMember?, hk, List.getLast?_cons, hl]
    | some m => simp [lastMember?, hk, List.getLast?_cons, hl]
  · simp [lastMember?, hk]

theorem lastMember?_eq_none_iff {members : List (String × Json)} {key : String} :
    lastMember? members key = none ↔ ∀ m ∈ members, m.1 ≠ key := by
  simp [lastMember?]

theorem any_key (members : List (String × Json)) (key : String) :
    (members.any fun (l, _) => l == key) = (lastMember? members key).isSome := by
  rw [Bool.eq_iff_iff, Option.isSome_iff_ne_none, Ne, lastMember?_eq_none_iff]
  simp

theorem mem_lastMembers {members : List (String × Json)} {key : String} {v : Json} :
    (key, v) ∈ lastMembers members ↔ lastMember? members key = some v := by
  induction members with
  | nil => simp [lastMembers, lastMember?]
  | cons m rest ih =>
    obtain ⟨k, w⟩ := m
    rw [lastMembers, any_key, lastMember?_cons]
    by_cases hk : k = key
    · subst hk
      cases hl : lastMember? rest k with
      | none => simp [ih, hl, eq_comm]
      | some u => simp [ih, hl]
    · have hne : key ≠ k := Ne.symm hk
      split <;> simp [ih, hne]

theorem pairwise_lastMembers (members : List (String × Json)) :
    (lastMembers members).Pairwise fun a b => a.1 ≠ b.1 := by
  induction members with
  | nil => exact .nil
  | cons m rest ih =>
    obtain ⟨k, w⟩ := m
    rw [lastMembers, any_key]
    split
    next => exact ih
    next h =>
      refine List.pairwise_cons.mpr ⟨fun ⟨key, v⟩ hm hk => ?_, ih⟩
      rw [mem_lastMembers] at hm
      obtain rfl : k = key := hk
      simp [hm] at h

theorem mem_inKeyOrder {members : List (String × Json)} {key : String} {v : Json} :
    (key, v) ∈ inKeyOrder members ↔ lastMember? members key = some v := by
  rw [inKeyOrder, List.mem_mergeSort, mem_lastMembers]

theorem pairwise_inKeyOrder (members : List (String × Json)) :
    (inKeyOrder members).Pairwise fun a b => a.1 < b.1 := by
  have hsorted : (inKeyOrder members).Pairwise fun a b => decide (a.1 ≤ b.1) = true :=
    List.pairwise_mergeSort (fun a b c => by simpa using le_trans) (fun a b => by simpa using le_total _ _)
      (lastMembers members)
  have hdistinct : (inKeyOrder members).Pairwise fun a b => a.1 ≠ b.1 :=
    (List.mergeSort_perm _ _).symm.pairwise (pairwise_lastMembers members) fun h => h.symm
  refine (hsorted.and hdistinct).imp fun ⟨hle, hne⟩ => ?_
  exact lt_of_le_of_ne (by simpa using hle) hne

end Members

mutual

/-- The values that are no objects, with the keys that lead to them. -/
def pathLeaves : Json → List (List String × Json)
  | .object members => ((memberPaths members).mergeSort fun a b => a.1 ≤ b.1).flatMap (·.2)
  | v => [([], v)]

def memberPaths : List (String × Json) → List (String × List (List String × Json))
  | [] => []
  | (k, v) :: rest =>
    if rest.any fun (l, _) => l == k then memberPaths rest
    else (k, (pathLeaves v).map fun p => (k :: p.1, p.2)) :: memberPaths rest

end

theorem memberPaths_eq (members : List (String × Json)) :
    memberPaths members =
      (lastMembers members).map fun m => (m.1, (pathLeaves m.2).map fun p => (m.1 :: p.1, p.2)) := by
  induction members with
  | nil => rfl
  | cons m rest ih =>
    rw [memberPaths, lastMembers]
    split <;> simp [ih]

theorem pathLeaves_object (members : List (String × Json)) :
    pathLeaves (.object members) =
      (inKeyOrder members).flatMap fun m => (pathLeaves m.2).map fun p => (m.1 :: p.1, p.2) := by
  rw [pathLeaves, memberPaths_eq, ← List.map_mergeSort (r := fun a b => decide (a.1 ≤ b.1)) (by simp),
    List.flatMap_map]
  rfl

theorem leadsTo_iff_of_ne {v leaf : Json} {keys : List String} (h : ∀ members, v ≠ .object members) :
    v.LeadsTo keys leaf ↔ keys = [] ∧ leaf = v := by
  constructor
  · rintro (_ | @⟨members, _, _, _, _, _, _⟩)
    · exact ⟨rfl, rfl⟩
    · exact absurd rfl (h members)
  · rintro ⟨rfl, rfl⟩
    exact .here h

theorem leadsTo_object_iff {members : List (String × Json)} {leaf : Json} {keys : List String} :
    LeadsTo (.object members) keys leaf ↔
      ∃ key v rest, keys = key :: rest ∧ lastMember? members key = some v ∧ v.LeadsTo rest leaf := by
  constructor
  · intro h
    cases h with
    | here h => exact absurd rfl (h members)
    | under h rest => exact ⟨_, _, _, rfl, h, rest⟩
  · rintro ⟨key, v, rest, rfl, h, hrest⟩
    exact .under h hrest

theorem mem_of_lastMember? {members : List (String × Json)} {key : String} {v : Json}
    (h : lastMember? members key = some v) : (key, v) ∈ members := by
  unfold lastMember? at h
  obtain ⟨m, hm, rfl⟩ := Option.map_eq_some_iff.mp h
  obtain ⟨hmem, hk⟩ := List.mem_filter.mp (List.mem_of_getLast? hm)
  obtain rfl : m.1 = key := by simpa using hk
  exact hmem

theorem mem_pathLeaves (v : Json) {leaf : Json} {keys : List String} :
    (keys, leaf) ∈ pathLeaves v ↔ v.LeadsTo keys leaf := by
  induction v using induct generalizing keys with
  | object members ih =>
    have hlast : ∀ {key v}, lastMember? members key = some v →
        ∀ {rest}, (rest, leaf) ∈ pathLeaves v ↔ v.LeadsTo rest leaf :=
      fun h => ih _ (mem_of_lastMember? h)
    rw [pathLeaves_object, leadsTo_object_iff]
    simp only [List.mem_flatMap, List.mem_map, Prod.exists, Prod.mk.injEq, mem_inKeyOrder]
    constructor
    · rintro ⟨key, v, hv, rest, l, hp, rfl, rfl⟩
      exact ⟨key, v, rest, rfl, hv, (hlast hv).mp hp⟩
    · rintro ⟨key, v, rest, rfl, hv, hrest⟩
      exact ⟨key, v, hv, rest, leaf, (hlast hv).mpr hrest, rfl, rfl⟩
  | _ => simp [pathLeaves, leadsTo_iff_of_ne]

theorem pairwise_pathLeaves (v : Json) : (pathLeaves v).Pairwise fun p q => p.1 < q.1 := by
  induction v using induct with
  | object members ih =>
    rw [pathLeaves_object, List.pairwise_flatMap]
    refine ⟨fun ⟨key, w⟩ hm => ?_, (pairwise_inKeyOrder members).imp fun hlt p hp q hq => ?_⟩
    · rw [List.pairwise_map]
      have hw := ih _ (mem_of_lastMember? (mem_inKeyOrder.mp hm))
      exact hw.imp fun h => List.cons_lt_cons_iff.mpr (.inr ⟨rfl, h⟩)
    · obtain ⟨p', -, rfl⟩ := List.mem_map.mp hp
      obtain ⟨q', -, rfl⟩ := List.mem_map.mp hq
      exact List.cons_lt_cons_iff.mpr (.inl hlt)
  | _ => simp [pathLeaves]

def leafList : Json → List (List String × Json)
  | .object members => pathLeaves (.object members)
  | _ => []

theorem isLeafList_leafList (document : Json) : document.IsLeafList document.leafList := by
  cases document with
  | object members =>
    refine ⟨fun keys leaf => ?_, pairwise_pathLeaves _⟩
    have hne : LeadsTo (.object members) keys leaf → keys ≠ [] := by
      rw [leadsTo_object_iff]
      rintro ⟨key, v, rest, rfl, -⟩
      simp
    rw [leafList, mem_pathLeaves, and_iff_right_of_imp hne]
  | _ => exact ⟨fun keys leaf => by simp +contextual [leafList, leadsTo_iff_of_ne], .nil⟩

theorem IsLeafList.unique {document : Json} {ps qs : List (List String × Json)}
    (hp : document.IsLeafList ps) (hq : document.IsLeafList qs) : ps = qs := by
  have nodup : ∀ {rs}, document.IsLeafList rs → rs.Nodup := by
    refine fun h => h.ordered.imp ?_
    rintro p _ hlt rfl
    exact lt_irrefl _ hlt
  have hperm : ps.Perm qs := by
    rw [List.perm_ext_iff_of_nodup (nodup hp) (nodup hq)]
    rintro ⟨keys, leaf⟩
    rw [hp.mem, hq.mem]
  refine hperm.eq_of_pairwise (fun p q _ _ hlt hgt => ?_) hp.ordered hq.ordered
  exact absurd hgt (lt_asymm hlt)

end Eligibility.Json
