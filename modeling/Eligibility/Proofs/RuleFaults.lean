import Eligibility.Condition.Rule

/-!
The faults of a draft that is compiled in a context. They come in three parts: the conditions that name a
variable the context lacks, the text that is not well quoted, and the conditions that the context refuses.
Each part but the second goes through the conditions in their order and has one fault for each condition
that deserves one. What a condition deserves is said without the look-ups that find it.
-/

set_option autoImplicit false

namespace Eligibility

namespace Context

variable {c : Context} {v : Variable} {o : Operator}

/-- The variable is the context's own under its id: the first that has it. -/
def Defines (c : Context) (v : Variable) : Prop :=
  ∃ before after, c.vars = before ++ v :: after ∧ ∀ u ∈ before, u.id ≠ v.id

def Lacks (c : Context) (id : String) : Prop := ∀ u ∈ c.vars, u.id ≠ id

theorem find?_eq_some_iff {id : String} : c.find? id = some v ↔ v.id = id ∧ c.Defines v := by
  unfold find? Defines
  rw [List.find?_eq_some_iff_append]
  constructor
  · rintro ⟨hid, before, after, hvars, hb⟩
    have hid : v.id = id := by simpa using hid
    exact ⟨hid, before, after, hvars, fun u hu => by simpa [hid] using hb u hu⟩
  · rintro ⟨rfl, before, after, hvars, hb⟩
    exact ⟨by simp, before, after, hvars, fun u hu => by simpa using hb u hu⟩

theorem find?_eq_none_iff {id : String} : c.find? id = none ↔ c.Lacks id := by
  simp [find?, Lacks]

/-- Both the definition and the list of the context allow the operator. A context that lists none allows
all. -/
def Permits (c : Context) (u : Variable) (o : Operator) : Prop :=
  o ∈ u.operators ∧ (c.operators = [] ∨ o ∈ c.operators)

theorem permits_iff {u : Variable} : c.Permits u o ↔ (u.allows o && c.allows o) = true := by
  simp [Permits, Variable.allows, allows]

/-- The context has no variable of that id, the operator is not known, or it is not permitted for the
context's own variable of that id. -/
def Refuses (c : Context) (v : Variable) (o : Operator) : Prop :=
  c.Lacks v.id ∨ o = .unknown ∨ ∀ u, c.Defines u → u.id = v.id → ¬ c.Permits u o

inductive Refusal (c : Context) (v : Variable) (o : Operator) : ClauseFault → Prop
  | unavailable (h : c.Lacks v.id) : Refusal c v o (.unavailable v.id c.id)
  | unknownOperator {u : Variable} (hu : c.Defines u) (hid : u.id = v.id) (ho : o = .unknown) :
      Refusal c v o .unknownOperator
  | disallowed {u : Variable} (hu : c.Defines u) (hid : u.id = v.id) (ho : o ≠ .unknown)
      (hn : ¬ c.Permits u o) : Refusal c v o (.disallowed o u.id u.valueType)

/-- The context finds a fault in a clause that has a variable, and only where it refuses the operator. -/
theorem fault?_cases (c : Context) {clause : Clause} (hv : clause.subject? = some v) :
    (∃ f, c.fault? clause = some f ∧ c.Refuses v clause.operator ∧ c.Refusal v clause.operator f) ∨
      c.fault? clause = none ∧ ¬ c.Refuses v clause.operator := by
  unfold fault?
  rw [hv]
  dsimp only
  cases hf : c.find? v.id with
  | none =>
    have hl := find?_eq_none_iff.mp hf
    exact .inl ⟨_, rfl, .inl hl, .unavailable hl⟩
  | some u =>
    obtain ⟨hid, hu⟩ := find?_eq_some_iff.mp hf
    have honly : ∀ w, c.Defines w → w.id = v.id → w = u := by
      intro w hw hwid
      have hwf := find?_eq_some_iff.mpr ⟨hwid, hw⟩
      exact Option.some.inj (hwf.symm.trans hf)
    by_cases ho : clause.operator = .unknown
    · exact .inl ⟨_, by simp [ho], .inr (.inl ho), .unknownOperator hu hid ho⟩
    · by_cases hp : c.Permits u clause.operator
      · refine .inr ⟨by simp [ho, permits_iff.mp hp], ?_⟩
        rintro (hl | ho' | hn)
        · have hmem := find?_eq_none_iff.mpr hl
          rw [hf] at hmem
          cases hmem
        · exact ho ho'
        · exact hn u hu hid hp
      · have hb : (u.allows clause.operator && c.allows clause.operator) = false := by
          rw [Bool.eq_false_iff]
          exact fun h => hp (permits_iff.mpr h)
        refine .inl ⟨_, by simp [ho, hb], .inr (.inr fun w hw hwid => ?_), .disallowed hu hid ho hp⟩
        rw [honly w hw hwid]
        exact hp

end Context

namespace DraftCondition

variable {c : Context} {d : DraftCondition} {v : Variable}

def NamesMissing (c : Context) (d : DraftCondition) : Prop :=
  ∃ id, d.reference? = some (.id id) ∧ c.Lacks id

def Means (c : Context) (d : DraftCondition) (v : Variable) : Prop :=
  d.reference? = some (.definition v) ∨ d.reference? = some (.id v.id) ∧ c.Defines v

def IsRefused (c : Context) (d : DraftCondition) : Prop :=
  ∃ v, d.Means c v ∧ c.Refuses v d.operator

theorem resolve?_eq_some_iff : d.resolve? c = some v ↔ d.Means c v := by
  unfold resolve? Means
  split
  next h => simp [h]
  next w h => simp [h]
  next id h =>
    rw [Context.find?_eq_some_iff]
    simp [h, eq_comm]

/-- An id that the context lacks leaves the condition without a variable, and nothing more is held against
it. -/
theorem not_isRefused_of_namesMissing (h : d.NamesMissing c) : ¬ d.IsRefused c := by
  obtain ⟨id, hid, hl⟩ := h
  rintro ⟨v, hm, -⟩
  rcases hm with hdef | ⟨hv, before, after, hvars, -⟩
  · simp [hid] at hdef
  · obtain rfl : id = v.id := by simpa [hid] using hv
    exact hl v (by simp [hvars]) rfl

def MissingAt (c : Context) (i : Nat) (d : DraftCondition) (f : RuleFault) : Prop :=
  ∃ id, d.reference? = some (.id id) ∧ f = .unresolved ⟨d.idAt i, id, c.suggest id⟩

def RefusedAt (c : Context) (i : Nat) (d : DraftCondition) (f : RuleFault) : Prop :=
  ∃ v g, d.Means c v ∧ c.Refusal v d.operator g ∧ f = .clause i (d.idAt i) g

theorem unresolvedAt_cases (c : Context) (d : DraftCondition) (i : Nat) :
    (∃ u, d.unresolvedAt c i = some u ∧ d.NamesMissing c ∧ d.MissingAt c i (.unresolved u)) ∨
      d.unresolvedAt c i = none ∧ ¬ d.NamesMissing c := by
  unfold unresolvedAt NamesMissing MissingAt
  split
  next id h =>
    cases hf : c.find? id with
    | none => exact .inl ⟨_, rfl, ⟨id, h, Context.find?_eq_none_iff.mp hf⟩, id, h, rfl⟩
    | some v =>
      refine .inr ⟨rfl, ?_⟩
      rintro ⟨id', h', hl⟩
      obtain rfl : id = id' := by simpa [h] using h'
      rw [Context.find?_eq_none_iff.mpr hl] at hf
      cases hf
  next h =>
    refine .inr ⟨rfl, ?_⟩
    rintro ⟨id, h', -⟩
    exact h id h'

theorem fault?_clauseAt_cases (c : Context) (d : DraftCondition) (i : Nat) :
    (∃ g, c.fault? (d.clauseAt c i) = some g ∧ d.IsRefused c ∧
        d.RefusedAt c i (.clause i (d.idAt i) g)) ∨
      c.fault? (d.clauseAt c i) = none ∧ ¬ d.IsRefused c := by
  cases hv : d.resolve? c with
  | none =>
    refine .inr ⟨by simp [Context.fault?, clauseAt, hv], ?_⟩
    rintro ⟨v, hm, -⟩
    rw [resolve?_eq_some_iff.mpr hm] at hv
    cases hv
  | some v =>
    have hm := resolve?_eq_some_iff.mp hv
    have hs : (d.clauseAt c i).subject? = some v := hv
    rcases c.fault?_cases hs with ⟨g, hg, hr, hw⟩ | ⟨hg, hr⟩
    · exact .inl ⟨g, hg, ⟨v, hm, hr⟩, v, g, hm, hw, rfl⟩
    · refine .inr ⟨hg, ?_⟩
      rintro ⟨w, hw, hr'⟩
      have hwv := resolve?_eq_some_iff.mpr hw
      obtain rfl : v = w := Option.some.inj (hv.symm.trans hwv)
      exact hr hr'

end DraftCondition

def RuleFault.place? : RuleFault → Option Nat
  | .clause place _ _ => some place
  | .unresolved _ | .quoting _ => none

/-- Going through the conditions from a place on, there is one fault for each that deserves one. -/
inductive OneEach (deserves : DraftCondition → Prop) (about : Nat → DraftCondition → RuleFault → Prop) :
    Nat → List DraftCondition → List RuleFault → Prop
  | nil (i : Nat) : OneEach deserves about i [] []
  | blamed {i : Nat} {d : DraftCondition} {ds : List DraftCondition} {f : RuleFault}
      {fs : List RuleFault} (hd : deserves d) (hf : about i d f)
      (rest : OneEach deserves about (i + 1) ds fs) : OneEach deserves about i (d :: ds) (f :: fs)
  | spared {i : Nat} {d : DraftCondition} {ds : List DraftCondition} {fs : List RuleFault}
      (hd : ¬ deserves d) (rest : OneEach deserves about (i + 1) ds fs) :
      OneEach deserves about i (d :: ds) fs

namespace OneEach

variable {deserves : DraftCondition → Prop} {about : Nat → DraftCondition → RuleFault → Prop}
  {i : Nat} {ds : List DraftCondition} {fs : List RuleFault}

theorem of_check {check : Nat → DraftCondition → Option RuleFault}
    (h : ∀ i d, (∃ f, check i d = some f ∧ deserves d ∧ about i d f) ∨
      check i d = none ∧ ¬ deserves d) (i : Nat) (ds : List DraftCondition) :
    OneEach deserves about i ds ((ds.mapIdx fun j d => check (i + j) d).filterMap fun f => f) := by
  induction ds generalizing i with
  | nil => exact .nil i
  | cons d ds ih =>
    have hrest := ih (i + 1)
    simp only [Nat.add_right_comm i 1] at hrest
    rcases h i d with ⟨f, hf, hd, ha⟩ | ⟨hf, hd⟩
    · simp only [List.mapIdx_cons, Nat.add_zero, List.filterMap_cons, hf]
      exact .blamed hd ha hrest
    · simp only [List.mapIdx_cons, Nat.add_zero, List.filterMap_cons, hf]
      exact .spared hd hrest

theorem eq_nil_iff (h : OneEach deserves about i ds fs) : fs = [] ↔ ∀ d ∈ ds, ¬ deserves d := by
  induction h with
  | nil i => simp
  | blamed hd hf rest ih => simp [hd]
  | spared hd rest ih => simp [hd, ih]

theorem pairwise_place (hplace : ∀ i d f, about i d f → f.place? = some i)
    (h : OneEach deserves about i ds fs) :
    (∀ j ∈ fs.filterMap RuleFault.place?, i ≤ j) ∧
      (fs.filterMap RuleFault.place?).Pairwise (· < ·) := by
  induction h with
  | nil i => simp
  | blamed hd hf rest ih =>
    rw [List.filterMap_cons_some (hplace _ _ _ hf), List.pairwise_cons, List.forall_mem_cons]
    refine ⟨⟨Nat.le_refl _, fun j hj => ?_⟩, fun j hj => ?_, ih.2⟩
    · have hle := ih.1 j hj
      omega
    · have hle := ih.1 j hj
      omega
  | spared hd rest ih =>
    refine ⟨fun j hj => ?_, ih.2⟩
    have hle := ih.1 j hj
    omega

end OneEach

namespace Rule

theorem oneEach_unresolved (c : Context) (d : Draft) :
    OneEach (DraftCondition.NamesMissing c) (DraftCondition.MissingAt c) 0 d.conditions
      ((d.resolve c).unresolved.map RuleFault.unresolved) := by
  have h : ∀ i (x : DraftCondition),
      (∃ f, (x.unresolvedAt c i).map RuleFault.unresolved = some f ∧ x.NamesMissing c ∧
        x.MissingAt c i f) ∨
      (x.unresolvedAt c i).map RuleFault.unresolved = none ∧ ¬ x.NamesMissing c := by
    intro i x
    rcases x.unresolvedAt_cases c i with ⟨u, hu, hm, ha⟩ | ⟨hu, hm⟩
    · exact .inl ⟨_, by rw [hu, Option.map_some], hm, ha⟩
    · exact .inr ⟨by rw [hu, Option.map_none], hm⟩
  have hone := OneEach.of_check h 0 d.conditions
  have hmap : (d.conditions.mapIdx fun i x => (x.unresolvedAt c i).map RuleFault.unresolved) =
      (d.conditions.mapIdx fun i x => x.unresolvedAt c i).map (Option.map RuleFault.unresolved) := by
    refine List.ext_getElem? fun i => ?_
    rw [List.getElem?_mapIdx, List.getElem?_map, List.getElem?_mapIdx, Option.map_map]
    rfl
  simp only [Nat.zero_add] at hone
  rw [hmap, List.filterMap_map] at hone
  rw [Draft.resolve, List.map_filterMap]
  exact hone

theorem oneEach_clauseFaults (c : Context) (d : Draft) :
    OneEach (DraftCondition.IsRefused c) (DraftCondition.RefusedAt c) 0 d.conditions
      (c.clauseFaults (d.resolve c).clauses) := by
  have h : ∀ i (x : DraftCondition),
      (∃ f, (c.fault? (x.clauseAt c i)).map (RuleFault.clause i (x.idAt i)) = some f ∧
        x.IsRefused c ∧ x.RefusedAt c i f) ∨
      (c.fault? (x.clauseAt c i)).map (RuleFault.clause i (x.idAt i)) = none ∧ ¬ x.IsRefused c := by
    intro i x
    rcases x.fault?_clauseAt_cases c i with ⟨g, hg, hr, ha⟩ | ⟨hg, hr⟩
    · exact .inl ⟨_, by rw [hg, Option.map_some], hr, ha⟩
    · exact .inr ⟨by rw [hg, Option.map_none], hr⟩
  have hone := OneEach.of_check h 0 d.conditions
  simp only [Nat.zero_add] at hone
  rw [Context.clauseFaults, Draft.resolve, List.mapIdx_mapIdx]
  exact hone

/-- The faults of a compiled draft are those of the conditions that name a missing variable, that of the
text, and those of the conditions that are refused. No condition is in both of these lists or twice in one.
The rule is valid when there are no faults, and its error is the first of them. -/
theorem faults_compileDraft (c : Context) (d : Draft) :
    (compileDraft c d).expression = Clause.expression (d.resolve c).clauses ∧
    (∃ missing refused,
      (compileDraft c d).faults = missing ++
        ((Quoting.fault? (compileDraft c d).expression).map RuleFault.quoting).toList ++ refused ∧
      OneEach (DraftCondition.NamesMissing c) (DraftCondition.MissingAt c) 0 d.conditions missing ∧
      OneEach (DraftCondition.IsRefused c) (DraftCondition.RefusedAt c) 0 d.conditions refused ∧
      (refused.filterMap RuleFault.place?).Pairwise (· < ·)) ∧
    (∀ x : DraftCondition, x.NamesMissing c → ¬ x.IsRefused c) ∧
    ((compileDraft c d).isValid = true ↔ (compileDraft c d).faults = []) ∧
    ((compileDraft c d).faults = [] ↔
      (∀ x ∈ d.conditions, ¬ x.NamesMissing c) ∧
        Quoting.fault? (compileDraft c d).expression = none ∧ ∀ x ∈ d.conditions, ¬ x.IsRefused c) ∧
    (compileDraft c d).error? = (compileDraft c d).faults.head?.map RuleFault.message := by
  have hmissing := oneEach_unresolved c d
  have hrefused := oneEach_clauseFaults c d
  have hplace : ∀ i x f, DraftCondition.RefusedAt c i x f → f.place? = some i := by
    rintro i x f ⟨v, g, -, -, rfl⟩
    rfl
  have hfaults : (compileDraft c d).faults =
      (d.resolve c).unresolved.map RuleFault.unresolved ++
        ((Quoting.fault? (compileDraft c d).expression).map RuleFault.quoting).toList ++
        c.clauseFaults (d.resolve c).clauses := by
    rw [List.append_assoc]
    rfl
  refine ⟨rfl, ⟨_, _, hfaults, hmissing, hrefused, (hrefused.pairwise_place hplace).2⟩,
    fun x => DraftCondition.not_isRefused_of_namesMissing, ?_, ?_, ?_⟩
  · exact List.isEmpty_iff
  · rw [hfaults, List.append_eq_nil_iff, List.append_eq_nil_iff, hmissing.eq_nil_iff,
      hrefused.eq_nil_iff, and_assoc]
    simp
  · rw [error?, problems, List.head?_map]

end Rule

end Eligibility
