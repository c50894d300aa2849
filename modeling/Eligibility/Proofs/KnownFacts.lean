import Eligibility.Condition.Facts

/-!
Evaluation and what is known. A comparison needs the fact of its variable, under a negative operator as
under any other, and a comparison that needs no fact is true from the start. So a fact that is learned may
make a tree true and never makes a true one false.
-/

set_option autoImplicit false

namespace Eligibility

/-- What the one source knows, the other knows too and gives the same value. -/
def FactSource.IsWithin (facts more : FactSource) : Prop :=
  ∀ id v, facts id = some v → more id = some v

namespace Facts

theorem find_put (entries : List (String × Value)) (id key : String) (v : Value) :
    find (put entries id v) key = if id = key then some v else find entries key := by
  induction entries with
  | nil => rfl
  | cons e rest ih =>
    obtain ⟨k, w⟩ := e
    by_cases hk : k = id
    · subst hk
      by_cases hkey : k = key <;> simp [put, find, hkey]
    · by_cases hkey : k = key
      · subst hkey
        simp [put, find, hk, Ne.symm hk]
      · simp [put, find, hk, hkey, ih]

theorem fact_insert (f : Facts) (id key : String) (v : Value) :
    (f.insert id v).fact key = if id = key then some v else f.fact key :=
  find_put f.entries id key v

theorem isWithin_insert {f : Facts} {id : String} (v : Value) (h : f.fact id = none) :
    f.fact.IsWithin (f.insert id v).fact := by
  intro key w hw
  have hne : id ≠ key := by
    rintro rfl
    rw [h] at hw
    cases hw
  rw [fact_insert, if_neg hne, hw]

end Facts

section More

variable {facts more : FactSource}

theorem Comparison.holds_of_isWithin (h : facts.IsWithin more) {c : Comparison}
    (hc : c.holds facts = true) : c.holds more = true := by
  by_cases ho : c.operator.compares = true
  · cases hf : facts c.subject with
    | none =>
      rw [holds_of_unknown ho hf] at hc
      cases hc
    | some v =>
      rw [holds_of_fact ho hf] at hc
      rwa [holds_of_fact ho (h c.subject v hf)]
  · rw [holds, if_neg ho]

namespace Condition

@[elab_as_elim]
theorem induct {motive : Condition → Prop} (all : ∀ parts, (∀ p ∈ parts, motive p) → motive (.all parts))
    (any : ∀ parts, (∀ p ∈ parts, motive p) → motive (.any parts)) (field : ∀ c, motive (.field c))
    (literal : ∀ b, motive (.literal b)) (c : Condition) : motive c := by
  refine Condition.rec (motive_1 := motive) (motive_2 := fun parts => ∀ p ∈ parts, motive p)
    all any field literal ?_ ?_ c
  · simp
  · intro p ps hp hps
    simp only [List.forall_mem_cons]
    exact ⟨hp, hps⟩

/-- A tree that is true stays true when more is known. -/
theorem evaluate_of_isWithin (h : facts.IsWithin more) (c : Condition)
    (hc : c.evaluate facts = true) : c.evaluate more = true := by
  induction c using induct with
  | all parts ih =>
    rw [evaluate, evaluateAll_eq, List.all_eq_true] at hc ⊢
    exact fun p hp => ih p hp (hc p hp)
  | any parts ih =>
    rw [evaluate, evaluateAny_eq, List.any_eq_true] at hc ⊢
    obtain ⟨p, hp, ht⟩ := hc
    exact ⟨p, hp, ih p hp ht⟩
  | field k => exact Comparison.holds_of_isWithin h hc
  | literal b => exact hc

end Condition

end More

namespace Condition

def tierOrFare : Condition :=
  .any [.all [.field ⟨"customer.tier", .string, .notEqual, .text "gold"⟩, .literal true],
    .field ⟨"booking.fare", .number, .greater, .integer 50⟩]

def silverFacts : Facts := ⟨[("customer.tier", .text "silver")]⟩

theorem evaluate_of_isWithin_fare :
    tierOrFare.evaluate Facts.empty.fact = false ∧ tierOrFare.evaluate silverFacts.fact = true ∧
      silverFacts.fact.IsWithin (silverFacts.insert "booking.fare" (.integer 12)).fact ∧
      tierOrFare.evaluate (silverFacts.insert "booking.fare" (.integer 12)).fact = true := by
  have hnew : silverFacts.fact "booking.fare" = none := by decide
  have hin := Facts.isWithin_insert (.integer 12) hnew
  have ht : tierOrFare.evaluate silverFacts.fact = true := by decide +kernel
  exact ⟨by decide, ht, hin, evaluate_of_isWithin hin tierOrFare ht⟩

end Condition

end Eligibility
