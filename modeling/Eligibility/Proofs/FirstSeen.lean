import Mathlib.Data.List.Induction
import Mathlib.Data.List.Basic
import Eligibility.Catalog.Context

/-!
The members of a list at their first places. They are told apart from the function that collects them, by
what they hold and how they are ordered. A run of steps that each add a key which is not there yet collects
the keys so.
-/

set_option autoImplicit false

namespace Eligibility

/-- The members of `all`, each once, in the order in which a reader of `all` first meets them. -/
structure InFirstOrder {α : Type} [BEq α] (seen all : List α) : Prop where
  mem : ∀ x, x ∈ seen ↔ x ∈ all
  nodup : seen.Nodup
  ordered : seen.Pairwise fun x y => all.idxOf x < all.idxOf y

variable {α : Type} [BEq α]

namespace InFirstOrder

variable [LawfulBEq α] {seen xs : List α} {x : α}

theorem pairwise_append (h : InFirstOrder seen xs) (ys : List α) :
    seen.Pairwise fun a b => (xs ++ ys).idxOf a < (xs ++ ys).idxOf b := by
  refine h.ordered.imp_of_mem fun {a b} ha hb hab => ?_
  rwa [List.idxOf_append_of_mem ((h.mem a).mp ha), List.idxOf_append_of_mem ((h.mem b).mp hb)]

theorem concat_old (h : InFirstOrder seen xs) (hx : x ∈ seen) : InFirstOrder seen (xs ++ [x]) := by
  refine ⟨fun y => ?_, h.nodup, h.pairwise_append [x]⟩
  have hmem := h.mem y
  have hy : y = x → y ∈ seen := by
    rintro rfl
    exact hx
  simp only [List.mem_append, List.mem_singleton, ← hmem]
  tauto

theorem concat_new (h : InFirstOrder seen xs) (hx : x ∉ seen) :
    InFirstOrder (seen ++ [x]) (xs ++ [x]) := by
  have hnot : x ∉ xs := mt (h.mem x).mpr hx
  refine ⟨fun y => by simp [h.mem y], ?_, ?_⟩
  · refine List.nodup_append.mpr ⟨h.nodup, by simp, fun a ha b hb => ?_⟩
    obtain rfl : b = x := by simpa using hb
    exact fun hab => hx (hab ▸ ha)
  · rw [List.pairwise_append]
    refine ⟨h.pairwise_append [x], by simp, fun a ha b hb => ?_⟩
    obtain rfl : b = x := by simpa using hb
    have hin : a ∈ xs := (h.mem a).mp ha
    have hlt : xs.idxOf a < xs.length := List.idxOf_lt_length_of_mem hin
    rw [List.idxOf_append_of_mem hin, List.idxOf_append_of_notMem hnot]
    omega

end InFirstOrder

namespace Context

theorem firstSeen_concat (xs : List α) (x : α) :
    firstSeen (xs ++ [x]) =
      if (firstSeen xs).contains x then firstSeen xs else firstSeen xs ++ [x] := by
  rw [firstSeen, List.foldl_append, List.foldl_cons, List.foldl_nil]
  rfl

theorem inFirstOrder_firstSeen [LawfulBEq α] (xs : List α) : InFirstOrder (firstSeen xs) xs := by
  induction xs using List.reverseRecOn with
  | nil => exact ⟨fun x => by simp [firstSeen], .nil, .nil⟩
  | append_singleton xs x ih =>
    rw [firstSeen_concat]
    split
    next h => exact ih.concat_old (by simpa using h)
    next h => exact ih.concat_new (by simpa using h)

end Context

section Run

variable [LawfulBEq α] {σ β : Type} (keys : σ → List α) (key : β → α) {step : σ → β → σ}

/-- Steps that each put a key at the end, unless it is there, leave the old keys in front and the new ones
behind them as they are first met. -/
theorem keys_foldl (hstep : ∀ s x, keys (step s x) =
      if (keys s).contains (key x) then keys s else keys s ++ [key x]) (s : σ) (xs : List β) :
    keys (xs.foldl step s) =
      keys s ++ Context.firstSeen ((xs.map key).filter fun k => !(keys s).contains k) := by
  induction xs using List.reverseRecOn with
  | nil => simp [Context.firstSeen]
  | append_singleton xs x ih =>
    rw [List.foldl_append, List.foldl_cons, List.foldl_nil, hstep, ih, List.map_append,
      List.filter_append, List.map_singleton]
    by_cases hold : (keys s).contains (key x) = true
    · have hin : key x ∈ keys s := by simpa using hold
      simp [hin]
    · have hnot : key x ∉ keys s := by simpa using hold
      have hkeep : [key x].filter (fun k => !(keys s).contains k) = [key x] := by simp [hnot]
      rw [hkeep, Context.firstSeen_concat, List.contains_append, Bool.eq_false_iff.mpr hold,
        Bool.false_or]
      split
      next => rfl
      next => rw [List.append_assoc]

end Run

end Eligibility
