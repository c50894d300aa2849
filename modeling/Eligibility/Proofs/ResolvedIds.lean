import Mathlib.Logic.ExistsUnique
import Eligibility.Condition.Rule

/-!
The ids of a draft's conditions once the draft is resolved. A condition without an id is called by its number,
and an author may have given that name to another condition. Where this does not happen, ids that differ
where they are given differ everywhere, and each problem of the rule names one condition.
-/

set_option autoImplicit false

namespace Eligibility

namespace Draft

def givenIds (d : Draft) : List String := d.conditions.filterMap DraftCondition.id

/-- The author gave one condition the name that another, which has no id, gets for its number. -/
def Collides (d : Draft) : Prop :=
  ∃ (i j : Nat) (x y : DraftCondition), d.conditions[i]? = some x ∧ d.conditions[j]? = some y ∧ x.id = none ∧
    y.id = some s!"c{i + 1}"

end Draft

/-- The message calls its condition by what the clause at the place is called. -/
def RuleFault.Names (f : RuleFault) (place : Nat) (k : Clause) : Prop :=
  match f with
  | .unresolved u => u.condition = k.id
  | .clause i id _ => clauseLabel i id = clauseLabel place k.id
  | .quoting _ => False

theorem nodup_iff_getElem?_inj {α : Type} {l : List α} :
    l.Nodup ↔ ∀ (i j : Nat) (a : α), l[i]? = some a → l[j]? = some a → i = j := by
  constructor
  · intro h i j a hi hj
    have hlt : i < l.length := (List.getElem?_eq_some_iff.mp hi).1
    exact (List.getElem?_inj hlt h).mp (hi.trans hj.symm)
  · intro h
    refine List.pairwise_iff_getElem.mpr fun i j hi hj hij he => ?_
    have heq := h i j l[j] (by rw [← he]; exact List.getElem?_eq_getElem hi)
      (List.getElem?_eq_getElem hj)
    omega

section Labels

theorem toString_nat_injective {i j : Nat} (h : toString i = toString j) : i = j := by
  rw [Nat.toString_eq_ofList_toDigits, Nat.toString_eq_ofList_toDigits, String.ofList_inj] at h
  have hnum := congrArg (fun ds => Nat.ofDigitChars 10 ds 0) h
  simpa using hnum

theorem numbered_injective {i j : Nat} (h : s!"c{i + 1}" = s!"c{j + 1}") : i = j := by
  have hnum := toString_nat_injective ((String.append_right_inj "c").mp h)
  omega

theorem clauseLabel_of_ne {a : String} (ha : a ≠ "") (i : Nat) :
    clauseLabel i a = "condition '" ++ a ++ "'" := by
  rw [clauseLabel, if_neg (by simpa using ha)]
  rfl

theorem clauseLabel_empty (i : Nat) : clauseLabel i "" = "conditions[" ++ toString i ++ "]" := rfl

theorem clauseLabel_empty_ne {b : String} (hb : b ≠ "") (i j : Nat) :
    clauseLabel i "" ≠ clauseLabel j b := by
  rw [clauseLabel_empty, clauseLabel_of_ne hb]
  intro h
  have hlist := congrArg String.toList h
  simp at hlist

theorem clauseLabel_injective {i j : Nat} {a b : String} (h : clauseLabel i a = clauseLabel j b) :
    a = b := by
  by_cases ha : a = ""
  · by_cases hb : b = ""
    · exact ha.trans hb.symm
    · subst ha
      exact absurd h (clauseLabel_empty_ne hb i j)
  · by_cases hb : b = ""
    · subst hb
      exact absurd h.symm (clauseLabel_empty_ne ha j i)
    · rw [clauseLabel_of_ne ha, clauseLabel_of_ne hb, String.append_left_inj, String.append_right_inj] at h
      exact h

end Labels

namespace Draft

variable {c : Context} {d : Draft}

theorem getElem?_clauses (c : Context) (d : Draft) (i : Nat) :
    (d.resolve c).clauses[i]? = d.conditions[i]?.map fun x => x.clauseAt c i := by
  simp [resolve]

theorem getElem?_ids (c : Context) (d : Draft) (i : Nat) :
    ((d.resolve c).clauses.map Clause.id)[i]? = d.conditions[i]?.map fun x => x.idAt i := by
  rw [List.getElem?_map, getElem?_clauses, Option.map_map]
  rfl

theorem parts_resolve (c : Context) (d : Draft) :
    ((d.resolve c).clauses.map fun k => (k.operator, k.value, k.connective)) =
      d.conditions.map fun x => (x.operator, x.value, x.connective) := by
  refine List.ext_getElem? fun i => ?_
  rw [List.getElem?_map, getElem?_clauses, Option.map_map, List.getElem?_map]
  rfl

theorem eq_of_givenIds (h : d.givenIds.Nodup) {i j : Nat} {x y : DraftCondition} {a : String}
    (hx : d.conditions[i]? = some x) (hy : d.conditions[j]? = some y) (ha : x.id = some a)
    (hb : y.id = some a) : i = j := by
  have hpair := List.pairwise_iff_getElem.mp (List.pairwise_filterMap.mp h)
  obtain ⟨hi, rfl⟩ := List.getElem?_eq_some_iff.mp hx
  obtain ⟨hj, rfl⟩ := List.getElem?_eq_some_iff.mp hy
  rcases Nat.lt_trichotomy i j with hlt | heq | hgt
  · exact absurd rfl (hpair i j hi hj hlt a ha a hb)
  · exact heq
  · exact absurd rfl (hpair j i hj hi hgt a hb a ha)

/-- Where one id stands at two places, one of them has it from the author and the other by its number. -/
theorem eq_of_idAt (h : d.givenIds.Nodup) (hc : ¬ d.Collides) {i j : Nat} {x y : DraftCondition}
    (hx : d.conditions[i]? = some x) (hy : d.conditions[j]? = some y) (hid : x.idAt i = y.idAt j) :
    i = j := by
  cases ha : x.id with
  | none =>
    cases hb : y.id with
    | none =>
      rw [DraftCondition.idAt, DraftCondition.idAt, ha, hb] at hid
      exact numbered_injective hid
    | some b =>
      rw [DraftCondition.idAt, DraftCondition.idAt, ha, hb] at hid
      exact absurd ⟨i, j, x, y, hx, hy, ha, hb.trans (congrArg some hid.symm)⟩ hc
  | some a =>
    cases hb : y.id with
    | none =>
      rw [DraftCondition.idAt, DraftCondition.idAt, ha, hb] at hid
      exact absurd ⟨j, i, y, x, hy, hx, hb, ha.trans (congrArg some hid)⟩ hc
    | some b =>
      rw [DraftCondition.idAt, DraftCondition.idAt, ha, hb] at hid
      exact eq_of_givenIds h hx hy ha (hb.trans (congrArg some hid.symm))

theorem nodup_ids_iff (h : d.givenIds.Nodup) :
    ((d.resolve c).clauses.map Clause.id).Nodup ↔ ¬ d.Collides := by
  rw [nodup_iff_getElem?_inj]
  simp only [getElem?_ids, Option.map_eq_some_iff]
  constructor
  · rintro hinj ⟨i, j, x, y, hx, hy, ha, hb⟩
    have hid : y.idAt j = x.idAt i := by rw [DraftCondition.idAt, DraftCondition.idAt, ha, hb]; rfl
    obtain rfl : i = j := hinj i j _ ⟨x, hx, rfl⟩ ⟨y, hy, hid⟩
    obtain rfl : x = y := Option.some.inj (hx.symm.trans hy)
    rw [ha] at hb
    cases hb
  · rintro hc i j a ⟨x, hx, hxa⟩ ⟨y, hy, hya⟩
    exact eq_of_idAt h hc hx hy (hxa.trans hya.symm)

end Draft

namespace Rule

variable {c : Context} {d : Draft}

theorem condition_of_unresolvedAt {x : DraftCondition} {i : Nat} {u : Unresolved}
    (h : x.unresolvedAt c i = some u) : u.condition = x.idAt i := by
  unfold DraftCondition.unresolvedAt at h
  split at h
  next id _ =>
    split at h
    next => cases h
    next =>
      obtain rfl := Option.some.inj h
      rfl
  next => cases h

theorem exists_names {f : RuleFault} (hf : f ∈ (compileDraft c d).faults) (hq : ∀ q, f ≠ .quoting q) :
    ∃ (i : Nat) (k : Clause), (d.resolve c).clauses[i]? = some k ∧ f.Names i k := by
  simp only [compileDraft, compile, List.mem_append] at hf
  rcases hf with hf | hf | hf
  · obtain ⟨u, hu, rfl⟩ := List.mem_map.mp hf
    simp only [Draft.resolve, List.mem_filterMap, List.mem_mapIdx] at hu
    obtain ⟨_, ⟨i, hi, rfl⟩, hu⟩ := hu
    refine ⟨i, d.conditions[i].clauseAt c i, ?_, condition_of_unresolvedAt hu⟩
    rw [Draft.getElem?_clauses, List.getElem?_eq_getElem hi]
    rfl
  · cases hquote : Quoting.fault? (Clause.expression (d.resolve c).clauses) with
    | none => simp [hquote] at hf
    | some q =>
      obtain rfl : f = .quoting q := by simpa [hquote] using hf
      exact absurd rfl (hq q)
  · simp only [Context.clauseFaults, List.mem_filterMap, List.mem_mapIdx] at hf
    obtain ⟨_, ⟨i, hi, rfl⟩, hf⟩ := hf
    obtain ⟨g, -, rfl⟩ := Option.map_eq_some_iff.mp hf
    exact ⟨i, (d.resolve c).clauses[i], List.getElem?_eq_getElem hi, rfl⟩

theorem id_eq_of_names {f : RuleFault} {i j : Nat} {k l : Clause} (hk : f.Names i k)
    (hl : f.Names j l) : k.id = l.id := by
  match f with
  | .unresolved u => exact hk.symm.trans hl
  | .clause place id g => exact clauseLabel_injective (hk.symm.trans hl)
  | .quoting q => exact False.elim hk

theorem existsUnique_names (h : ((d.resolve c).clauses.map Clause.id).Nodup) {f : RuleFault}
    (hf : f ∈ (compileDraft c d).faults) (hq : ∀ q, f ≠ .quoting q) :
    ∃! i, ∃ k, (d.resolve c).clauses[i]? = some k ∧ f.Names i k := by
  obtain ⟨i, k, hk, hnames⟩ := exists_names hf hq
  refine ⟨i, ⟨k, hk, hnames⟩, ?_⟩
  rintro j ⟨l, hl, hnames'⟩
  refine nodup_iff_getElem?_inj.mp h j i l.id ?_ ?_
  · rw [List.getElem?_map, hl]
    rfl
  · rw [List.getElem?_map, hk, id_eq_of_names hnames' hnames]
    rfl

end Rule

/-- A draft whose given ids differ keeps its conditions in their order, each with its operator, value and
connective. Their ids differ too, unless a given id is the one that another condition gets for its number;
then each problem of the rule names one condition. -/
theorem resolve_ids (c : Context) (d : Draft) (h : d.givenIds.Nodup) :
    ((d.resolve c).clauses.map fun k => (k.operator, k.value, k.connective)) =
      (d.conditions.map fun x => (x.operator, x.value, x.connective)) ∧
    (((d.resolve c).clauses.map Clause.id).Nodup ↔ ¬ d.Collides) ∧
    (((d.resolve c).clauses.map Clause.id).Nodup →
      ∀ f ∈ (Rule.compileDraft c d).faults, (∀ q, f ≠ .quoting q) →
        ∃! i, ∃ k, (d.resolve c).clauses[i]? = some k ∧ f.Names i k) :=
  ⟨Draft.parts_resolve c d, Draft.nodup_ids_iff h, fun hids _ hf hq => Rule.existsUnique_names hids hf hq⟩

def rideContext : Context :=
  .ofVars "ride" "Ride" "" [⟨"ride.fare", "Fare", .number, "ride", "", []⟩]

/-- The first condition names no variable of the context, the second has an operator that is not for numbers,
and the third has the name that the second would get for its number. -/
def rideDraft : Draft :=
  ⟨none, [⟨none, some (.id "ride.far"), .greater, .integer 5, some .and⟩,
    ⟨some "fare", some (.id "ride.fare"), .contains, .null, some .or⟩,
    ⟨some "c2", none, .equal, .null, none⟩]⟩

theorem resolve_ids_ride :
    rideDraft.givenIds.Nodup ∧ ((rideDraft.resolve rideContext).clauses.map Clause.id).Nodup ∧
    ¬ rideDraft.Collides ∧ (Rule.compileDraft rideContext rideDraft).faults.length = 2 ∧
    ∀ f ∈ (Rule.compileDraft rideContext rideDraft).faults, (∀ q, f ≠ .quoting q) →
      ∃! i, ∃ k, (rideDraft.resolve rideContext).clauses[i]? = some k ∧ f.Names i k := by
  have hgiven : rideDraft.givenIds.Nodup := by decide
  have hids : ((rideDraft.resolve rideContext).clauses.map Clause.id).Nodup := by decide +kernel
  obtain ⟨-, hcollides, hnames⟩ := resolve_ids rideContext rideDraft hgiven
  exact ⟨hgiven, hids, hcollides.mp hids, by decide +kernel, hnames hids⟩

/-- A condition without an id takes the name that the author gave to the next one. -/
theorem not_resolve_ids :
    ¬ ∀ (c : Context) (d : Draft), d.givenIds.Nodup →
      ((d.resolve c).clauses.map Clause.id).Nodup := by
  intro h
  have hids := h rideContext
    ⟨none, [⟨none, none, .equal, .null, some .and⟩, ⟨some "c1", none, .equal, .null, none⟩]⟩ (by decide)
  exact absurd hids (by decide +kernel)

end Eligibility
