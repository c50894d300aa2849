import Eligibility.Catalog.Basic
import Eligibility.Proofs.FirstSeen

/-!
What a catalog finds under an id: of the contexts that were added the last one that has it, and a built-in
one where none of them has it. And where it stands: a context that takes the place of another moves no id,
and new ids line up behind the built-in ones as they are first met.
-/

set_option autoImplicit false

namespace Eligibility.Catalog

theorem find?_put (cs : List Context) (c : Context) (id : String) :
    (put cs c).find? (fun d => d.id == id) =
      if c.id = id then some c else cs.find? fun d => d.id == id := by
  induction cs with
  | nil => by_cases h : c.id = id <;> simp [put, h]
  | cons d cs ih =>
    by_cases hd : d.id = c.id
    · by_cases h : c.id = id <;> simp [put, hd, h]
    · have hput : put (d :: cs) c = d :: put cs c := by simp [put, hd]
      rw [hput]
      by_cases hid : d.id = id
      · have h : c.id ≠ id := fun h => hd (hid.trans h.symm)
        simp [hid, h]
      · simp [hid, ih]

theorem find?_foldl_put (extra cs : List Context) (id : String) :
    (extra.foldl put cs).find? (fun d => d.id == id) =
      (extra.reverse.find? fun d => d.id == id).or (cs.find? fun d => d.id == id) := by
  induction extra generalizing cs with
  | nil => rfl
  | cons c extra ih =>
    have hsingle : [c].find? (fun d => d.id == id) = if c.id = id then some c else none := by
      by_cases h : c.id = id <;> simp [h]
    rw [List.foldl_cons, ih, find?_put, List.reverse_cons, List.find?_append, Option.or_assoc, hsingle]
    by_cases h : c.id = id <;> simp [h]

theorem lookup?_withContexts (extra : List Context) (id : String) :
    (withContexts extra).lookup? id =
      (extra.reverse.find? fun c => c.id == id).or (builtin.lookup? id) :=
  find?_foldl_put extra Builtin.contexts id

theorem lookup?_withContexts_isSome_iff (extra : List Context) (id : String) :
    ((withContexts extra).lookup? id).isSome = true ↔
      id ∈ Builtin.contexts.map Context.id ∨ id ∈ extra.map Context.id := by
  rw [lookup?_withContexts, Option.isSome_or, Bool.or_eq_true, lookup?, builtin, List.find?_isSome,
    List.find?_isSome, or_comm]
  simp

theorem ids_put (cs : List Context) (c : Context) :
    (put cs c).map Context.id =
      if (cs.map Context.id).contains c.id then cs.map Context.id else cs.map Context.id ++ [c.id] := by
  induction cs with
  | nil => simp [put]
  | cons d cs ih =>
    by_cases hd : d.id = c.id
    · simp [put, hd]
    · have hput : put (d :: cs) c = d :: put cs c := by simp [put, hd]
      have hne : (c.id == d.id) = false := by simpa using Ne.symm hd
      rw [hput, List.map_cons, ih, List.map_cons, List.contains_cons, hne, Bool.false_or]
      split <;> rfl

def newIds (cs extra : List Context) : List String :=
  (extra.map Context.id).filter fun id => id ∉ cs.map Context.id

theorem ids_foldl_put (cs extra : List Context) :
    (extra.foldl put cs).map Context.id = cs.map Context.id ++ Context.firstSeen (newIds cs extra) := by
  have hnew : ((extra.map Context.id).filter fun id => !(cs.map Context.id).contains id) =
      newIds cs extra := by
    refine List.filter_congr fun id _ => ?_
    rw [List.contains_eq_mem, decide_not]
  have hrun := keys_foldl (List.map Context.id) Context.id ids_put cs extra
  rwa [hnew] at hrun

theorem nodup_ids_foldl_put {cs : List Context} (h : (cs.map Context.id).Nodup) (extra : List Context) :
    ((extra.foldl put cs).map Context.id).Nodup := by
  have hseen := Context.inFirstOrder_firstSeen (newIds cs extra)
  rw [ids_foldl_put, List.nodup_append]
  refine ⟨h, hseen.nodup, fun a ha b hb hab => ?_⟩
  have hb' : b ∈ newIds cs extra := (hseen.mem b).mp hb
  obtain ⟨-, hnot⟩ := List.mem_filter.mp hb'
  exact absurd (hab ▸ ha) (by simpa using hnot)

/-- Whatever is added, the ids of a catalog differ; an id finds the last added context that has it, and
the built-in one where there is none; and the built-in ids stand in front, in their order, followed by the
ids that only added contexts have, as they are first met. -/
theorem withContexts_places (extra : List Context) :
    ((withContexts extra).contexts.map Context.id).Nodup ∧
    (∀ id, (withContexts extra).lookup? id =
      ((extra.filter fun c => c.id = id).getLast?).or (builtin.lookup? id)) ∧
    ∃ others, InFirstOrder others (newIds Builtin.contexts extra) ∧
      (withContexts extra).contexts.map Context.id = Builtin.contexts.map Context.id ++ others := by
  refine ⟨nodup_ids_foldl_put Builtin.context_ids_nodup extra, fun id => ?_, ?_⟩
  · rw [lookup?_withContexts, List.getLast?_filter]
    rfl
  · exact ⟨_, Context.inFirstOrder_firstSeen _, ids_foldl_put Builtin.contexts extra⟩

end Eligibility.Catalog
