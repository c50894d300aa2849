import Mathlib.Data.List.Induction
import Mathlib.Data.List.Nodup
import Eligibility.Config.Verification
import Eligibility.Proofs.CatalogLookup
import Eligibility.Proofs.FirstMatch

/-!
Configurations without problems. The ids on each level can be seen and differ, the operators of variables are
known, and the default context exists. In the catalog of such a configuration nothing hides anything: each of
its contexts and variables is found under its own id.
-/

set_option autoImplicit false

namespace Eligibility

/-- Each id has a character that is not blank, and no two are the same. -/
structure ProperIds (ids : List String) : Prop where
  visible : ∀ id ∈ ids, ∃ c ∈ id.toList, Text.isBlank c = false
  distinct : ids.Nodup

structure Context.IsClean (c : Context) : Prop where
  ids : ProperIds (c.vars.map Variable.id)
  known : ∀ v ∈ c.vars, .unknown ∉ v.allowedOperators

structure Config.IsClean (c : Config) : Prop where
  ids : ProperIds (c.contexts.map Context.id)
  contexts : ∀ k ∈ c.contexts, k.IsClean
  defaultContext : ∀ id, c.settings.defaultContext = some id →
    id ∈ Builtin.contexts.map Context.id ∨ id ∈ c.contexts.map Context.id

section Places

variable {α : Type}

theorem withPlaces_concat (xs : List α) (x : α) :
    withPlaces (xs ++ [x]) = withPlaces xs ++ [(xs.length, xs, x)] := by
  have hbefore : xs.mapIdx (fun i y => (i, (xs ++ [x]).take i, y)) = withPlaces xs := by
    refine List.mapIdx_eq_mapIdx_iff.mpr fun i hi => ?_
    rw [List.take_append_of_le_length (Nat.le_of_lt hi)]
  rw [withPlaces, List.mapIdx_concat, hbefore]
  simp

theorem forall_mem_withPlaces {p : α → Prop} {xs : List α} :
    (∀ t ∈ withPlaces xs, p t.2.2) ↔ ∀ x ∈ xs, p x := by
  induction xs using List.reverseRecOn with
  | nil => simp [withPlaces]
  | append_singleton xs x ih =>
    rw [withPlaces_concat, List.forall_mem_append, List.forall_mem_append, ih]
    simp

end Places

theorem ProperIds.concat_iff {ids : List String} {id : String} :
    ProperIds (ids ++ [id]) ↔
      ProperIds ids ∧ (∃ c ∈ id.toList, Text.isBlank c = false) ∧ id ∉ ids := by
  constructor
  · rintro ⟨hv, hd⟩
    obtain ⟨hids, -, hnew⟩ := List.nodup_append.mp hd
    refine ⟨⟨fun i hi => hv i (by simp [hi]), hids⟩, hv id (by simp), fun hmem => ?_⟩
    exact hnew id hmem id (by simp) rfl
  · rintro ⟨⟨hv, hd⟩, hid, hnew⟩
    refine ⟨fun i hi => ?_, List.nodup_append.mpr ⟨hd, by simp, fun a ha b hb => ?_⟩⟩
    · rcases List.mem_append.mp hi with hi | hi
      · exact hv i hi
      · exact List.mem_singleton.mp hi ▸ hid
    · obtain rfl := List.mem_singleton.mp hb
      exact fun hab => hnew (hab ▸ ha)

theorem idFault?_eq_none_iff {before : List String} {id : String} :
    idFault? before id = none ↔ (∃ c ∈ id.toList, Text.isBlank c = false) ∧ id ∉ before := by
  have hblank : Text.allBlank id = false ↔ ∃ c ∈ id.toList, Text.isBlank c = false := by
    simp [Text.allBlank]
  rw [← hblank, idFault?]
  cases Text.allBlank id <;> simp

/-- Each id is held against those before it, and so all of them against each other. -/
theorem properIds_iff {α : Type} {key : α → String} {xs : List α} :
    (∀ t ∈ withPlaces xs, idFault? (t.2.1.map key) (key t.2.2) = none) ↔ ProperIds (xs.map key) := by
  induction xs using List.reverseRecOn with
  | nil => simp [withPlaces, show ProperIds [] from ⟨by simp, List.nodup_nil⟩]
  | append_singleton xs x ih =>
    rw [List.map_append, List.map_singleton, ProperIds.concat_iff, ← ih, ← idFault?_eq_none_iff,
      withPlaces_concat]
    simp [or_imp, forall_and]

namespace Config

theorem variableFaults_eq_nil_iff {context place : Nat} {before : List Variable} {v : Variable} :
    variableFaults context place before v = [] ↔
      idFault? (before.map Variable.id) v.id = none ∧ .unknown ∉ v.allowedOperators := by
  simp [variableFaults]

theorem contextFaults_eq_nil_iff {place : Nat} {before : List Context} {c : Context} :
    contextFaults place before c = [] ↔
      idFault? (before.map Context.id) c.id = none ∧ c.IsClean := by
  have hvars : (∀ t ∈ withPlaces c.vars, variableFaults place t.1 t.2.1 t.2.2 = []) ↔ c.IsClean := by
    simp only [variableFaults_eq_nil_iff, imp_and, forall_and]
    have hknown : (∀ t ∈ withPlaces c.vars, .unknown ∉ t.2.2.allowedOperators) ↔
        ∀ v ∈ c.vars, .unknown ∉ v.allowedOperators :=
      forall_mem_withPlaces (p := fun v : Variable => Operator.unknown ∉ v.allowedOperators)
    rw [properIds_iff, hknown]
    exact ⟨fun h => ⟨h.1, h.2⟩, fun h => ⟨h.ids, h.known⟩⟩
  rw [← hvars]
  simp [contextFaults]

theorem defaultFault?_eq_none_iff {c : Config} :
    c.defaultFault? = none ↔ ∀ id, c.settings.defaultContext = some id →
      (c.catalog.lookup? id).isSome = true := by
  unfold defaultFault?
  cases c.settings.defaultContext with
  | none => simp
  | some id => cases h : c.catalog.lookup? id <;> simp [h]

theorem problems_eq_nil_iff_isClean {c : Config} : c.problems = [] ↔ c.IsClean := by
  have hcontexts : (∀ t ∈ withPlaces c.contexts, contextFaults t.1 t.2.1 t.2.2 = []) ↔
      ProperIds (c.contexts.map Context.id) ∧ ∀ k ∈ c.contexts, k.IsClean := by
    simp only [contextFaults_eq_nil_iff, imp_and, forall_and]
    rw [properIds_iff, forall_mem_withPlaces]
  have hdefault : c.defaultFault? = none ↔ ∀ id, c.settings.defaultContext = some id →
      id ∈ Builtin.contexts.map Context.id ∨ id ∈ c.contexts.map Context.id := by
    simp only [defaultFault?_eq_none_iff, catalog, Catalog.lookup?_withContexts_isSome_iff]
  have hfaults : c.problems = [] ↔
      (∀ t ∈ withPlaces c.contexts, contextFaults t.1 t.2.1 t.2.2 = []) ∧ c.defaultFault? = none := by
    simp [problems, faults]
  rw [hfaults, hcontexts, hdefault]
  constructor
  · rintro ⟨⟨hids, hclean⟩, hdef⟩
    exact ⟨hids, hclean, hdef⟩
  · rintro ⟨hids, hclean, hdef⟩
    exact ⟨⟨hids, hclean⟩, hdef⟩

namespace IsClean

variable {c : Config} (h : c.IsClean) {k : Context} (hk : k ∈ c.contexts)

include h hk

theorem lookup?_id : c.catalog.lookup? k.id = some k := by
  have hdistinct : (c.contexts.reverse.map Context.id).Nodup := by
    rw [List.map_reverse]
    exact List.nodup_reverse.mpr h.ids.distinct
  rw [catalog, Catalog.lookup?_withContexts,
    find?_key_eq_some Context.id hdistinct (List.mem_reverse.mpr hk)]
  rfl

theorem find?_id {v : Variable} (hv : v ∈ k.vars) : k.find? v.id = some v :=
  find?_key_eq_some Variable.id (h.contexts k hk).ids.distinct hv

end IsClean

/-- Verification finds no problem exactly where ids are proper, operators are known and the default context
exists; and then everything that the configuration defines is found as itself. -/
theorem problems_eq_nil_iff (c : Config) :
    (c.problems = [] ↔ c.IsClean) ∧
    (c.problems = [] →
      (∀ k ∈ c.contexts, c.catalog.lookup? k.id = some k ∧ ∀ v ∈ k.vars, k.find? v.id = some v) ∧
      ∀ id, c.settings.defaultContext = some id → (c.catalog.lookup? id).isSome = true) := by
  refine ⟨problems_eq_nil_iff_isClean, fun hproblems => ?_⟩
  have hclean := problems_eq_nil_iff_isClean.mp hproblems
  refine ⟨fun k hk => ⟨hclean.lookup?_id hk, fun v hv => hclean.find?_id hk hv⟩, fun id hid => ?_⟩
  exact (Catalog.lookup?_withContexts_isSome_iff c.contexts id).mpr (hclean.defaultContext id hid)

def fleet : Config :=
  ⟨[exampleContext, .ofVars "booking_event" "Slim booking event" "" [Builtin.fare]],
    ⟨none, some "booking_event"⟩⟩

theorem problems_eq_nil_iff_fleet :
    fleet.problems = [] ∧
      fleet.catalog.lookup? "booking_event" =
        some (.ofVars "booking_event" "Slim booking event" "" [Builtin.fare]) ∧
      (Context.ofVars "booking_event" "Slim booking event" "" [Builtin.fare]).find? "booking.fare" =
        some Builtin.fare ∧
      (fleet.catalog.lookup? "booking_event").isSome = true := by
  have hproblems : fleet.problems = [] := by decide +kernel
  obtain ⟨-, hfound⟩ := problems_eq_nil_iff fleet
  obtain ⟨hcontexts, hdefault⟩ := hfound hproblems
  obtain ⟨hslim, hvars⟩ := hcontexts (.ofVars "booking_event" "Slim booking event" "" [Builtin.fare])
    (by simp [fleet])
  exact ⟨hproblems, hslim, hvars Builtin.fare (by simp [Context.ofVars]), hdefault _ rfl⟩

end Config

end Eligibility
