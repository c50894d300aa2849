import Eligibility.Proofs.ReadingLimits

/-!
What decoded values are made of. A list that is decoded from a strict document is made of the items of an
array that was read to its end, and a record of the parts of an array or an object that was.
-/

set_option autoImplicit false

namespace Eligibility.Json

theorem bind_eq_ok {ε α β : Type} {x : Except ε α} {f : α → Except ε β} {b : β} :
    (x >>= f) = .ok b ↔ ∃ a, x = .ok a ∧ f a = .ok b := by
  cases x with
  | error e => exact ⟨nofun, nofun⟩
  | ok a => exact ⟨fun h => ⟨a, rfl, h⟩, fun ⟨_, ha, h⟩ => Except.ok.inj ha ▸ h⟩

theorem decodeStrict_eq_ok_iff {α : Type} {decode : Decoder α} {s : String} {a : α} :
    decodeStrict decode s = .ok a ↔ decode (readStrict s).1 = .ok a ∧ (readStrict s).2 = true := by
  have hshape : decodeStrict decode s =
      (decode (readStrict s).1 >>= fun v => if (readStrict s).2 then .ok v else .error .malformed) := rfl
  rw [hshape, bind_eq_ok]
  cases (readStrict s).2 <;> simp

theorem decodeStrict_written {α : Type} {decode : Decoder α} {v : Json} {a : α}
    (h : decode v.toDocument = .ok a) (hv : v.IsWhole) (hd : v.depth ≤ Reading.depthLimit) :
    decodeStrict decode v.compact = .ok a ∧ decodeStrict decode v.pretty = .ok a := by
  constructor
  · rw [decodeStrict_eq_ok_iff, readStrict_compact hv hd]
    exact ⟨h, rfl⟩
  · rw [decodeStrict_eq_ok_iff, readStrict_pretty hv hd]
    exact ⟨h, rfl⟩

def Document.parts : Document → List Document
  | .array items true => items
  | .object members true => members.map Prod.snd
  | _ => []

theorem Document.Fits.parts {d : Document} {k : Nat} (h : d.Fits (k + 1)) : ∀ e ∈ d.parts, e.Fits k := by
  unfold Document.parts
  split
  next items => exact itemsFit_iff.mp (h rfl).2
  next members =>
    intro e he
    obtain ⟨m, hm, rfl⟩ := List.mem_map.mp he
    exact membersFit_iff.mp (h rfl).2 m hm
  next => simp

section Lists

variable {α : Type} {decode : Decoder α}

theorem exists_of_decodeItems {ds : List Document} {as : List α} (h : decodeItems decode ds = .ok as) :
    ∀ a ∈ as, ∃ d ∈ ds, decode d = .ok a := by
  induction ds generalizing as with
  | nil =>
    cases h
    simp
  | cons d ds ih =>
    rw [decodeItems, bind_eq_ok] at h
    obtain ⟨a, ha, h⟩ := h
    obtain ⟨bs, hbs, h⟩ := bind_eq_ok.mp h
    cases h
    simp only [List.forall_mem_cons]
    refine ⟨⟨d, List.mem_cons_self, ha⟩, fun b hb => ?_⟩
    obtain ⟨e, he, hdecode⟩ := ih hbs b hb
    exact ⟨e, List.mem_cons_of_mem d he, hdecode⟩

theorem exists_of_decodeList {d : Document} {as : List α} (h : decodeList decode d = .ok as) :
    ∀ a ∈ as, ∃ e ∈ d.parts, decode e = .ok a := by
  unfold decodeList at h
  split at h
  next items closed =>
    obtain ⟨bs, hbs, h⟩ := bind_eq_ok.mp h
    cases closed with
    | true => cases h; exact exists_of_decodeItems hbs
    | false => cases h
  next => unfold mismatch at h; split at h <;> cases h

end Lists

namespace Fields

theorem lookup_mem {found : List (String × Document)} {name : String} {d : Document}
    (h : lookup found name = some d) : ∃ p ∈ found, p.2 = d := by
  obtain ⟨p, hp, rfl⟩ := Option.map_eq_some_iff.mp h
  exact ⟨p, List.mem_of_find?_eq_some hp, rfl⟩

theorem mem_of_readMembers {form : Form} {fields : List Field} {ms : List Member}
    {seen found : List (String × Document)} (h : readMembers form fields ms seen = .ok found) :
    ∀ p ∈ found, p ∈ seen ∨ p.2 ∈ ms.map Prod.snd := by
  induction ms generalizing seen with
  | nil =>
    cases h
    exact fun p hp => .inl hp
  | cons m ms ih =>
    obtain ⟨k, d⟩ := m
    rw [readMembers, bind_eq_ok] at h
    obtain ⟨key, -, h⟩ := h
    split at h
    next =>
      obtain ⟨-, -, h⟩ := bind_eq_ok.mp h
      exact fun p hp => (ih h p hp).imp_right (List.mem_cons_of_mem d)
    next f hf =>
      split at h
      · cases h
      · obtain ⟨-, -, h⟩ := bind_eq_ok.mp h
        intro p hp
        rcases ih h p hp with hseen | hrest
        · rcases List.mem_cons.mp hseen with rfl | hseen
          · exact .inr List.mem_cons_self
          · exact .inl hseen
        · exact .inr (List.mem_cons_of_mem d hrest)

/-- Only a list that was read to its end is a record. -/
theorem mem_of_readPlaces {record : String} {total : Nat} {closed : Bool} {fields : List Field}
    {ds : List Document} {found : List (String × Document)}
    (h : readPlaces .strict record total closed fields ds = .ok found) :
    closed = true ∧ ∀ p ∈ found, p.2 ∈ ds := by
  induction fields generalizing ds found with
  | nil =>
    cases ds with
    | nil =>
      rw [readPlaces] at h
      split at h
      next hc => cases h; exact ⟨hc, by simp⟩
      next => cases h
    | cons d ds => cases h
  | cons f fields ih =>
    cases ds with
    | nil =>
      rw [readPlaces] at h
      split at h
      · cases h
      · split at h
        · cases h
        · exact ih h
    | cons d ds =>
      rw [readPlaces, bind_eq_ok] at h
      obtain ⟨-, -, h⟩ := h
      obtain ⟨rest, hrest, h⟩ := bind_eq_ok.mp h
      cases h
      obtain ⟨hclosed, hmem⟩ := ih hrest
      refine ⟨hclosed, fun p hp => ?_⟩
      rcases List.mem_cons.mp hp with rfl | hp
      · exact List.mem_cons_self
      · exact List.mem_cons_of_mem d (hmem p hp)

/-- A record is built of parts of the document. -/
theorem exists_of_decode {α : Type} {x : Fields α} {record : String} {d : Document} {a : α}
    (h : x.decode .strict record d = .ok a) :
    ∃ get, x.build get = .ok a ∧ ∀ name e, get name = some e → e ∈ d.parts := by
  unfold decode at h
  split at h
  next members closed =>
    obtain ⟨found, hfound, h⟩ := bind_eq_ok.mp h
    cases closed with
    | false => cases h
    | true =>
      refine ⟨lookup found, h, fun name e he => ?_⟩
      obtain ⟨p, hp, rfl⟩ := lookup_mem he
      exact (mem_of_readMembers hfound p hp).resolve_left List.not_mem_nil
  next items closed =>
    obtain ⟨found, hfound, hbuild⟩ := bind_eq_ok.mp h
    obtain ⟨rfl, hmem⟩ := mem_of_readPlaces hfound
    refine ⟨lookup found, hbuild, fun name e he => ?_⟩
    obtain ⟨p, hp, rfl⟩ := lookup_mem he
    exact hmem p hp
  next => unfold mismatch at h; split at h <;> cases h

section Build

variable {α β : Type} {get : String → Option Document}

theorem build_seq_eq_ok {x : Fields (α → β)} {y : Fields α} {b : β} (h : (x <*> y).build get = .ok b) :
    ∃ g a, x.build get = .ok g ∧ y.build get = .ok a ∧ b = g a := by
  obtain ⟨g, hg, h⟩ := bind_eq_ok.mp h
  obtain ⟨a, ha, h⟩ := bind_eq_ok.mp h
  cases h
  exact ⟨g, a, hg, ha, rfl⟩

theorem build_map_eq_ok {g : α → β} {y : Fields α} {b : β} (h : (g <$> y).build get = .ok b) :
    ∃ a, y.build get = .ok a ∧ b = g a := by
  obtain ⟨g', a, hg, ha, rfl⟩ := build_seq_eq_ok (x := pure g) h
  cases hg
  exact ⟨a, ha, rfl⟩

theorem build_withDefault_eq_ok {name : String} {decode : Decoder α} {absent a : α}
    (h : (withDefault name decode absent).build get = .ok a) :
    a = absent ∨ ∃ d, get name = some d ∧ decode d = .ok a := by
  simp only [withDefault] at h
  split at h
  next d hd => exact .inr ⟨d, hd, h⟩
  next => cases h; exact .inl rfl

end Build

end Fields

end Eligibility.Json
