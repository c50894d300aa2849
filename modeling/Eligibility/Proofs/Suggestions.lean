import Eligibility.Catalog.Basic
import Eligibility.Proofs.ByteOrder
import Eligibility.Proofs.EditScripts

/-!
Suggestions for an id that names nothing: the ids within three edits of it, letter case apart, the nearest
first and those that are equally near in the order of their bytes.
-/

set_option autoImplicit false

namespace Eligibility

open Text (lowerCase editDistance Edits IsDistance BytesLE)

/-- Three edits or fewer lead from the query to the id, both in lower case. -/
def IsNear (query id : String) : Prop :=
  ∃ n, n ≤ 3 ∧ Edits n (lowerCase query).toList (lowerCase id).toList

/-- The id `a` is nearer to the query than `b`, or as near and not behind it in the order of bytes. -/
def Precedes (query a b : String) : Prop :=
  ∃ m n, IsDistance m (lowerCase query).toList (lowerCase a).toList ∧
    IsDistance n (lowerCase query).toList (lowerCase b).toList ∧ (m < n ∨ m = n ∧ BytesLE a b)

structure Suggests (query : String) (ids suggested : List String) : Prop where
  near : ∀ id, IsNear query id → suggested.count id = ids.count id
  far : ∀ id, ¬ IsNear query id → id ∉ suggested
  ordered : suggested.Pairwise (Precedes query)
  alikeFirst : ∃ alike others, suggested = alike ++ others ∧
    (∀ a ∈ alike, lowerCase a = lowerCase query) ∧ ∀ a ∈ others, lowerCase a ≠ lowerCase query

def distanceTo (query id : String) : Nat := editDistance (lowerCase query).toList (lowerCase id).toList

theorem isNear_iff {query id : String} : IsNear query id ↔ distanceTo query id ≤ 3 :=
  Text.exists_edits_le_iff

theorem isDistance_distanceTo (query id : String) :
    IsDistance (distanceTo query id) (lowerCase query).toList (lowerCase id).toList :=
  Text.isDistance_editDistance _ _

section Order

def comesBefore (a b : Nat × String) : Bool := a.1 < b.1 || (a.1 = b.1 && a.2 ≤ b.2)

theorem comesBefore_iff {a b : Nat × String} :
    comesBefore a b = true ↔ a.1 < b.1 ∨ a.1 = b.1 ∧ a.2 ≤ b.2 := by
  simp [comesBefore]

theorem comesBefore_trans (a b c : Nat × String) (hab : comesBefore a b = true)
    (hbc : comesBefore b c = true) : comesBefore a c = true := by
  rw [comesBefore_iff] at hab hbc ⊢
  rcases hab with hab | ⟨hab, hle⟩
  · rcases hbc with hbc | ⟨hbc, -⟩ <;> exact .inl (by omega)
  · rcases hbc with hbc | ⟨hbc, hle'⟩
    · exact .inl (by omega)
    · exact .inr ⟨hab.trans hbc, String.le_trans hle hle'⟩

theorem comesBefore_total (a b : Nat × String) : (comesBefore a b || comesBefore b a) = true := by
  rw [Bool.or_eq_true, comesBefore_iff, comesBefore_iff]
  rcases Nat.lt_trichotomy a.1 b.1 with h | h | h
  · exact .inl (.inl h)
  · rcases String.le_total a.2 b.2 with hle | hle
    · exact .inl (.inr ⟨h, hle⟩)
    · exact .inr (.inr ⟨h.symm, hle⟩)
  · exact .inr (.inl h)

end Order

section Ids

variable (query : String) (ids : List String)

def nearScored : List (Nat × String) :=
  (ids.map fun id => (distanceTo query id, id)).filter fun p => p.1 ≤ 3

theorem suggestIds_eq :
    suggestIds query ids = ((nearScored query ids).mergeSort comesBefore).map (·.2) := rfl

theorem fst_eq_of_mem {p : Nat × String} (h : p ∈ nearScored query ids) :
    p.1 = distanceTo query p.2 := by
  obtain ⟨id, -, rfl⟩ := List.mem_map.mp (List.mem_filter.mp h).1
  dsimp only

theorem perm_suggestIds :
    (suggestIds query ids).Perm (ids.filter fun id => distanceTo query id ≤ 3) := by
  have hnear : (nearScored query ids).map (·.2) = ids.filter fun id => distanceTo query id ≤ 3 := by
    simp only [nearScored, List.filter_map, List.map_map, Function.comp_def, List.map_id']
  have hsort := (List.mergeSort_perm (nearScored query ids) comesBefore).map (·.2)
  rw [← suggestIds_eq, hnear] at hsort
  exact hsort

theorem pairwise_suggestIds : (suggestIds query ids).Pairwise (Precedes query) := by
  rw [suggestIds_eq, List.pairwise_map]
  have hsorted := List.pairwise_mergeSort comesBefore_trans comesBefore_total (nearScored query ids)
  refine hsorted.imp_of_mem fun {a b} ha hb hab => ?_
  have ha' := fst_eq_of_mem query ids (List.mem_mergeSort.mp ha)
  have hb' := fst_eq_of_mem query ids (List.mem_mergeSort.mp hb)
  rw [comesBefore_iff, ha', hb'] at hab
  exact ⟨_, _, isDistance_distanceTo query a.2, isDistance_distanceTo query b.2,
    hab.imp_right fun h => ⟨h.1, .of_le h.2⟩⟩

end Ids

/-- What comes before an id that is the query, letter case apart, is the query too. -/
theorem Precedes.alike {query a b : String} (h : Precedes query a b)
    (hb : lowerCase b = lowerCase query) : lowerCase a = lowerCase query := by
  obtain ⟨m, n, ha, hb', horder⟩ := h
  have hn : n ≤ 0 := hb'.least 0 (by rw [hb]; exact .refl _)
  obtain rfl : m = 0 := by omega
  exact (String.toList_inj.mp ha.script.eq_of_zero).symm

/-- In a list in which what precedes a member with a property has it too, those with the property stand in
front. -/
theorem exists_split_of_pairwise {α : Type} {r : α → α → Prop} {p : α → Prop}
    (hr : ∀ a b, r a b → p b → p a) {xs : List α} (h : xs.Pairwise r) :
    ∃ front rest, xs = front ++ rest ∧ (∀ a ∈ front, p a) ∧ ∀ a ∈ rest, ¬ p a := by
  induction xs with
  | nil => exact ⟨[], [], rfl, by simp, by simp⟩
  | cons x xs ih =>
    obtain ⟨hx, hxs⟩ := List.pairwise_cons.mp h
    by_cases hp : p x
    · obtain ⟨front, rest, rfl, hfront, hrest⟩ := ih hxs
      exact ⟨x :: front, rest, rfl, List.forall_mem_cons.mpr ⟨hp, hfront⟩, hrest⟩
    · refine ⟨[], x :: xs, rfl, by simp, List.forall_mem_cons.mpr ⟨hp, fun a ha hpa => ?_⟩⟩
      exact hp (hr x a (hx a ha) hpa)

theorem suggests_suggestIds (query : String) (ids : List String) :
    Suggests query ids (suggestIds query ids) where
  near id h := by
    rw [isNear_iff] at h
    rw [(perm_suggestIds query ids).count_eq, List.count_filter (by simpa using h)]
  far id h hmem := by
    have hfilter := (perm_suggestIds query ids).mem_iff.mp hmem
    exact h (isNear_iff.mpr (by simpa using (List.mem_filter.mp hfilter).2))
  ordered := pairwise_suggestIds query ids
  alikeFirst :=
    exists_split_of_pairwise (p := fun a => lowerCase a = lowerCase query)
      (fun _ _ => Precedes.alike) (pairwise_suggestIds query ids)

/-- Contexts of a catalog and variables of a context are suggested by the same rule: all that are within three
edits of the query and no others, as often as they are there, the nearest first and then in the order of their
bytes, so those that differ from it in letter case only in front. -/
theorem suggests_of_catalog_and_context (k : Catalog) (c : Context) (query : String) :
    Suggests query (k.contexts.map Context.id) (k.suggest query) ∧
    Suggests query (c.vars.map Variable.id) (c.suggest query) :=
  ⟨suggests_suggestIds query _, suggests_suggestIds query _⟩

example : suggestIds "Fare" ["somewhere", "time", "fee", "fares", "FARE", "fee"] =
    ["FARE", "fares", "fee", "fee", "time"] := by cbv

end Eligibility
