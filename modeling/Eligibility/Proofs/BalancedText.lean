import Eligibility.Proofs.QuotedSpans

/-!
What the shallow check of expression text lets pass. Every quote has to be closed by the character that
opened it, and outside quoted spans as many parentheses have to be closed as opened. A text whose parentheses
match up in pairs passes, and so does one that closes a parenthesis first and opens it later.
-/

set_option autoImplicit false

namespace Eligibility

namespace Quoting

/-- The text closes each quote that it opens by the same character, and `bare` is what stands outside quoted
spans. -/
inductive ClosesQuotes : List Char → List Char → Prop
  | nil : ClosesQuotes [] []
  | bare {c : Char} {text bare : List Char} (hc : isQuote c = false) (rest : ClosesQuotes text bare) :
      ClosesQuotes (c :: text) (c :: bare)
  | span {q : Char} {inner text bare : List Char} (hq : isQuote q = true) (hi : q ∉ inner)
      (rest : ClosesQuotes text bare) : ClosesQuotes (q :: (inner ++ q :: text)) bare

/-- The parentheses match up in pairs, each `)` with an earlier `(` that is still open. -/
inductive Balanced : List Char → Prop
  | nil : Balanced []
  | other {c : Char} {cs : List Char} (ho : c ≠ '(') (hc : c ≠ ')') (rest : Balanced cs) :
      Balanced (c :: cs)
  | pair {inner cs : List Char} (hi : Balanced inner) (rest : Balanced cs) :
      Balanced ('(' :: (inner ++ ')' :: cs))

def IsWellFormed (text : String) : Prop :=
  ∃ bare, ClosesQuotes text.toList bare ∧ Balanced bare

/-- Up to some place outside quotes more parentheses are closed than opened. -/
def ClosesEarly (text : String) : Prop :=
  ∃ bare before, ClosesQuotes text.toList bare ∧ before <+: bare ∧ net before < 0

section Quotes

variable {q : Char} (d : Int)

theorem step_open (hq : isQuote q = true) : Scan.step ⟨d, none⟩ q = ⟨d, some q⟩ := by
  simp [Scan.step, hq]

theorem step_close : Scan.step ⟨d, some q⟩ q = ⟨d, none⟩ := by simp [Scan.step]

variable {text bare : List Char}

theorem ClosesQuotes.foldl_step (h : ClosesQuotes text bare) :
    text.foldl Scan.step ⟨d, none⟩ = ⟨d + net bare, none⟩ := by
  induction h generalizing d with
  | nil => simp [net]
  | @bare c text bare hc rest ih =>
    rw [List.foldl_cons, step_bare hc, ih, net_cons c bare, Int.add_assoc]
  | span hq hi rest ih =>
    rw [List.foldl_cons, step_open d hq, List.foldl_append, Shows.foldl_inside hi, List.foldl_cons,
      step_close, ih]

theorem ClosesQuotes.bare_eq (h : ClosesQuotes text bare) :
    bare = (outsideFrom ⟨d, none⟩ text).filter fun c => !isQuote c := by
  induction h generalizing d with
  | nil => rfl
  | bare hc rest ih => simp [outsideFrom, step_bare hc, hc, ← ih]
  | span hq hi rest ih =>
    simp [outsideFrom, step_open d hq, outsideFrom_append, Shows.outsideFrom_inside hi,
      Shows.foldl_inside hi, step_close, hq, ← ih]

theorem ClosesQuotes.unique {other : List Char} (h : ClosesQuotes text bare)
    (h' : ClosesQuotes text other) : bare = other :=
  (h.bare_eq 0).trans (h'.bare_eq 0).symm

/-- A scan that ends outside quotes has come over closed spans only, after the end of the span that it may
have begun in. -/
theorem closesQuotes_of_run (text : List Char) :
    ((text.foldl Scan.step ⟨d, none⟩).quote = none → ∃ bare, ClosesQuotes text bare) ∧
    ∀ q, (text.foldl Scan.step ⟨d, some q⟩).quote = none →
      ∃ inner rest bare, text = inner ++ q :: rest ∧ q ∉ inner ∧ ClosesQuotes rest bare := by
  induction text generalizing d with
  | nil => simpa using ⟨[], ClosesQuotes.nil⟩
  | cons c text ih =>
    refine ⟨fun h => ?_, fun q h => ?_⟩
    · by_cases hc : isQuote c = true
      · rw [List.foldl_cons, step_open d hc] at h
        obtain ⟨inner, rest, bare, rfl, hi, hrest⟩ := (ih d).2 c h
        exact ⟨bare, .span hc hi hrest⟩
      · rw [Bool.not_eq_true] at hc
        rw [List.foldl_cons, step_bare hc] at h
        obtain ⟨bare, hbare⟩ := (ih _).1 h
        exact ⟨c :: bare, .bare hc hbare⟩
    · by_cases hc : c = q
      · subst hc
        rw [List.foldl_cons, step_close] at h
        obtain ⟨bare, hbare⟩ := (ih d).1 h
        exact ⟨[], text, bare, rfl, List.not_mem_nil, hbare⟩
      · rw [List.foldl_cons, step_inside hc] at h
        obtain ⟨inner, rest, bare, rfl, hi, hrest⟩ := (ih d).2 q h
        exact ⟨c :: inner, rest, bare, rfl, by simp [hi, Ne.symm hc], hrest⟩

theorem fault?_eq_none_iff_closesQuotes {text : String} :
    fault? text = none ↔ ∃ bare, ClosesQuotes text.toList bare ∧ net bare = 0 := by
  rw [fault?_eq_none_iff, scan, Scan.start]
  constructor
  · intro h
    obtain ⟨bare, hbare⟩ := (closesQuotes_of_run 0 text.toList).1 (by rw [h])
    rw [hbare.foldl_step, Int.zero_add] at h
    exact ⟨bare, hbare, congrArg Scan.depth h⟩
  · rintro ⟨bare, hbare, hnet⟩
    rw [hbare.foldl_step, hnet, Int.add_zero]

end Quotes

section Pairs

theorem net_open : net ['('] = 1 := rfl

theorem net_close : net [')'] = -1 := rfl

theorem net_other {c : Char} (ho : c ≠ '(') (hc : c ≠ ')') : net [c] = 0 := by
  simp [net, ho, hc]

theorem Balanced.net_eq {cs : List Char} (h : Balanced cs) : net cs = 0 := by
  induction h with
  | nil => rfl
  | other ho hc rest ih => rw [net_cons, net_other ho hc, ih, Int.add_zero]
  | @pair inner cs hi rest ihi ih =>
    rw [net_cons, net_append, net_cons ')' cs, net_open, net_close, ihi, ih]
    rfl

theorem Balanced.net_prefix {cs before : List Char} (h : Balanced cs) (hb : before <+: cs) :
    0 ≤ net before := by
  induction h generalizing before with
  | nil =>
    rw [List.prefix_nil.mp hb]
    exact Int.le_refl 0
  | other ho hc rest ih =>
    rcases List.prefix_cons_iff.mp hb with rfl | ⟨mid, rfl, hmid⟩
    · exact Int.le_refl 0
    · rw [net_cons, net_other ho hc, Int.zero_add]
      exact ih hmid
  | @pair inner cs hi rest ihi ih =>
    rcases List.prefix_cons_iff.mp hb with rfl | ⟨mid, rfl, hmid⟩
    · exact Int.le_refl 0
    · rw [net_cons, net_open]
      obtain ⟨behind, hmid⟩ := hmid
      rcases List.append_eq_append_iff.mp hmid with ⟨left, hleft, -⟩ | ⟨after, rfl, hafter⟩
      · have hnet := ihi ⟨left, hleft.symm⟩
        omega
      · rw [net_append, hi.net_eq]
        rcases List.prefix_cons_iff.mp ⟨behind, hafter.symm⟩ with rfl | ⟨tail, rfl, htail⟩
        · decide
        · have hnet := ih htail
          rw [net_cons, net_close]
          omega

/-- The parentheses match up once `n` more are opened before them. -/
inductive Finishes : Nat → List Char → Prop
  | balanced {cs : List Char} (h : Balanced cs) : Finishes 0 cs
  | close {n : Nat} {inner cs : List Char} (hi : Balanced inner) (rest : Finishes n cs) :
      Finishes (n + 1) (inner ++ ')' :: cs)

namespace Finishes

variable {n : Nat} {cs : List Char}

theorem other {c : Char} (ho : c ≠ '(') (hc : c ≠ ')') (h : Finishes n cs) : Finishes n (c :: cs) := by
  cases h with
  | balanced h => exact .balanced (.other ho hc h)
  | close hi rest => exact .close (.other ho hc hi) rest

theorem pair {inner : List Char} (hi : Balanced inner) (h : Finishes n cs) :
    Finishes n ('(' :: (inner ++ ')' :: cs)) := by
  cases h with
  | balanced h => exact .balanced (.pair hi h)
  | @close n inner' cs hi' rest =>
    have hpair := Finishes.close (.pair hi hi') rest
    simpa using hpair

theorem of_net (h : ∀ before, before <+: cs → 0 ≤ n + net before) (hn : n + net cs = 0) :
    Finishes n cs := by
  induction cs generalizing n with
  | nil =>
    obtain rfl : n = 0 := by simpa [net] using hn
    exact .balanced .nil
  | cons c cs ih =>
    rw [net_cons] at hn
    have hcs : ∀ before, before <+: cs → 0 ≤ n + (net [c] + net before) := by
      intro before hb
      rw [← net_cons]
      exact h (c :: before) (List.cons_prefix_cons.mpr ⟨rfl, hb⟩)
    by_cases ho : c = '('
    · subst ho
      rw [net_open] at hn hcs
      -- one more is open behind the parenthesis, and what closes it ends the first pair
      have hopen : Finishes (n + 1) cs :=
        ih (fun before hb => by have hle := hcs before hb; omega) (by omega)
      cases hopen with
      | close hi rest => exact rest.pair hi
    · by_cases hc : c = ')'
      · subst hc
        rw [net_close] at hn hcs
        obtain ⟨m, rfl⟩ : ∃ m, n = m + 1 := by
          have hle := hcs [] List.nil_prefix
          have hnil : net [] = 0 := rfl
          exact ⟨n - 1, by omega⟩
        have hclose : Finishes m cs :=
          ih (fun before hb => by have hle := hcs before hb; omega) (by omega)
        exact .close .nil hclose
      · rw [net_other ho hc] at hn hcs
        exact .other ho hc (ih (fun before hb => by have hle := hcs before hb; omega) (by omega))

end Finishes

theorem balanced_iff {cs : List Char} :
    Balanced cs ↔ net cs = 0 ∧ ∀ before, before <+: cs → 0 ≤ net before := by
  constructor
  · exact fun h => ⟨h.net_eq, fun before => h.net_prefix⟩
  · rintro ⟨hnet, hbefore⟩
    have hfin : Finishes 0 cs := .of_net (by simpa using hbefore) (by simpa using hnet)
    cases hfin with
    | balanced h => exact h

end Pairs

/-- A text passes when its quotes are closed and its parentheses outside quotes are equally many of both
kinds. The well-formed texts are those of them that close no parenthesis early. -/
theorem isWellFormed_iff_passes (text : String) :
    (fault? text = none ↔ ∃ bare, ClosesQuotes text.toList bare ∧ net bare = 0) ∧
    (IsWellFormed text ↔ fault? text = none ∧ ¬ ClosesEarly text) := by
  refine ⟨fault?_eq_none_iff_closesQuotes, ?_⟩
  rw [fault?_eq_none_iff_closesQuotes]
  constructor
  · rintro ⟨bare, hbare, hbal⟩
    refine ⟨⟨bare, hbare, hbal.net_eq⟩, ?_⟩
    rintro ⟨other, before, hother, hbefore, hneg⟩
    obtain rfl := hbare.unique hother
    have hle := hbal.net_prefix hbefore
    omega
  · rintro ⟨⟨bare, hbare, hnet⟩, hearly⟩
    refine ⟨bare, hbare, balanced_iff.mpr ⟨hnet, fun before hbefore => ?_⟩⟩
    exact Int.not_lt.mp fun hneg => hearly ⟨bare, before, hbare, hbefore, hneg⟩

/-- A parenthesis that is closed before it is opened passes. -/
theorem not_isWellFormed_of_passes :
    ¬ ∀ text : String, fault? text = none ↔ IsWellFormed text := by
  intro h
  obtain ⟨bare, hbare, hbal⟩ := (h ")(").mp (by decide)
  have hbare' : ClosesQuotes ")(".toList [')', '('] := .bare (by decide) (.bare (by decide) .nil)
  rw [hbare.unique hbare'] at hbal
  have hbefore : [')'] <+: [')', '('] := ⟨['('], rfl⟩
  have hle := hbal.net_prefix hbefore
  exact absurd hle (by decide)

end Quoting

end Eligibility
