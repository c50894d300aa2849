import Eligibility.Condition.Expression

/-!
Where the characters of a written clause come from. A value and a clause write a fixed stock of characters
of their own; every other character of their text stands in a text of the value or in the id of the
variable.
-/

set_option autoImplicit false

namespace Eligibility

/-- The characters of the word and number forms of values, and the comma between plain items. -/
def isPlainChar (c : Char) : Bool := c.isAlphanum || ['-', '.', ','].contains c

/-- The characters that a clause writes of its own. -/
def isOwnChar (c : Char) : Bool :=
  isPlainChar c || [' ', '"', '[', ']', '(', ')', '=', '!', '<', '>'].contains c

theorem isOwnChar_of_isPlainChar {c : Char} (h : isPlainChar c = true) : isOwnChar c = true := by
  simp [isOwnChar, h]

theorem holds_of_mem {p : Char → Bool} {c : Char} {s : String} (h : c ∈ s.toList)
    (hs : s.toList.all p = true) : p c = true :=
  List.all_eq_true.mp hs c h

theorem mem_intercalate {c : Char} {sep : String} {ps : List String}
    (h : c ∈ (sep.intercalate ps).toList) : c ∈ sep.toList ∨ ∃ p ∈ ps, c ∈ p.toList := by
  induction ps with
  | nil => simp at h
  | cons p ps ih =>
    by_cases hps : ps = []
    · subst hps
      simpa using Or.inr h
    · rw [String.intercalate_cons_of_ne_nil hps] at h
      simp only [String.toList_append, List.mem_append] at h
      rcases h with (h | h) | h
      · exact .inr ⟨p, by simp, h⟩
      · exact .inl h
      · rcases ih h with h | ⟨q, hq, h⟩
        · exact .inl h
        · exact .inr ⟨q, by simp [hq], h⟩

theorem isPlainChar_of_mem_toDigits {c : Char} {n : Nat} (h : c ∈ Nat.toDigits 10 n) :
    isPlainChar c = true := by
  have hd := Nat.isDigit_of_mem_toDigits (by decide) (by decide) h
  simp [isPlainChar, Char.isAlphanum, hd]

theorem isPlainChar_of_mem_repr {c : Char} {n : Int} (h : c ∈ (toString n).toList) :
    isPlainChar c = true := by
  rw [Int.toString_eq_repr, Int.repr_eq_if] at h
  split at h
  · exact isPlainChar_of_mem_toDigits (by simpa using h)
  · simp only [String.toList_append, List.mem_append, Nat.toList_repr] at h
    rcases h with h | h
    · obtain rfl : c = '-' := by simpa using h
      decide
    · exact isPlainChar_of_mem_toDigits h

theorem isPlainChar_of_mem_truthText {c : Char} {b : Bool} (h : c ∈ (Value.truthText b).toList) :
    isPlainChar c = true := by
  cases b <;> exact holds_of_mem h (by decide)

namespace Binary64

theorem isPlainChar_of_mem_positionalText {c : Char} {ds : List Char} {lead : Int}
    (hds : ∀ d ∈ ds, isPlainChar d = true) (h : c ∈ positionalText .plain ds lead) :
    isPlainChar c = true := by
  have hz : ∀ n, c ∈ zeros n → isPlainChar c = true := by
    intro n hn
    rw [(List.mem_replicate.mp hn).2]
    decide
  unfold positionalText at h
  split at h
  · simp only [List.cons_append, List.mem_cons, List.mem_append] at h
    rcases h with rfl | rfl | h | h
    · decide
    · decide
    · exact hz _ h
    · exact hds c h
  · dsimp only at h
    split at h
    · simp only [Layout.plain, List.mem_append] at h
      rcases h with (h | h) | h
      · exact hds c h
      · exact hz _ h
      · simp at h
    · simp only [List.mem_append, List.mem_cons] at h
      rcases h with h | rfl | h
      · exact hds c (List.mem_of_mem_take h)
      · decide
      · exact hds c (List.mem_of_mem_drop h)

theorem isPlainChar_of_mem_plainText {c : Char} {x : Binary64} (h : c ∈ x.plainText.toList) :
    isPlainChar c = true := by
  cases x with
  | finite s u =>
    simp only [plainText, write, String.toList_ofList, List.mem_append] at h
    rcases h with h | h
    · cases s <;> simp at h
      subst h; decide
    · unfold magnitudeText at h
      split at h
      · obtain rfl : c = '0' := by simpa [Layout.plain] using h
        decide
      · dsimp only at h
        rw [if_pos (show Layout.plain.positional _ = true from rfl)] at h
        exact isPlainChar_of_mem_positionalText (fun d hd => isPlainChar_of_mem_toDigits hd) h
  | infinite s => cases s <;> exact holds_of_mem h (by decide)
  | nan => exact holds_of_mem h (by decide)

end Binary64

namespace Value

/-- Induction over a value and the items of its lists. -/
@[elab_as_elim]
theorem induct {motive : Value → Prop} (text : ∀ s, motive (.text s))
    (integer : ∀ n, motive (.integer n)) (double : ∀ x, motive (.double x))
    (truth : ∀ b, motive (.truth b)) (null : motive .null)
    (list : ∀ items, (∀ v ∈ items, motive v) → motive (.list items)) (v : Value) : motive v := by
  refine Value.rec (motive_1 := motive) (motive_2 := fun items => ∀ v ∈ items, motive v)
    text integer double truth list null ?_ ?_ v
  · simp
  · intro v vs hv hvs
    simp only [List.forall_mem_cons]
    exact ⟨hv, hvs⟩

mutual

def texts : Value → List String
  | .text s => [s]
  | .list items => textsOf items
  | _ => []

def textsOf : List Value → List String
  | [] => []
  | v :: vs => v.texts ++ textsOf vs

end

theorem mem_textsOf {s : String} {items : List Value} :
    s ∈ textsOf items ↔ ∃ v ∈ items, s ∈ v.texts := by
  induction items with
  | nil => simp [textsOf]
  | cons v vs ih => simp [textsOf, ih]

theorem mem_texts_list {s : String} {v : Value} {items : List Value} (hv : v ∈ items)
    (hs : s ∈ v.texts) : s ∈ (list items).texts := by
  rw [texts, mem_textsOf]
  exact ⟨v, hv, hs⟩

theorem plainItems_eq (items : List Value) : plainItems items = items.map plain := by
  induction items with
  | nil => rfl
  | cons v vs ih => simp [plainItems, ih]

theorem literals_eq (t : ValueType) (items : List Value) :
    literals t items = items.map (literal t) := by
  induction items with
  | nil => rfl
  | cons v vs ih => simp [literals, ih]

theorem mem_plain {c : Char} (v : Value) (h : c ∈ v.plain.toList) :
    isPlainChar c = true ∨ ∃ s ∈ v.texts, c ∈ s.toList := by
  induction v using induct with
  | text s => exact .inr ⟨s, by simp [texts], by simpa [plain] using h⟩
  | integer n => exact .inl (isPlainChar_of_mem_repr h)
  | double x => exact .inl (Binary64.isPlainChar_of_mem_plainText h)
  | truth b => exact .inl (isPlainChar_of_mem_truthText h)
  | null => exact .inl (holds_of_mem h (by decide))
  | list items ih =>
    rw [plain, plainItems_eq] at h
    rcases mem_intercalate h with h | ⟨p, hp, h⟩
    · obtain rfl : c = ',' := by simpa using h
      exact .inl (by decide)
    · obtain ⟨v, hv, rfl⟩ := List.mem_map.mp hp
      rcases ih v hv h with h | ⟨s, hs, h⟩
      · exact .inl h
      · exact .inr ⟨s, mem_texts_list hv hs, h⟩

theorem truthText_of_asTruth? {v : Value} {b : Bool} (h : v.asTruth? = some b) :
    truthText b = v.plain := by
  cases v with
  | truth a => cases h; rfl
  | text s =>
    rw [asTruth?] at h
    split at h
    next hs => cases h; exact hs.symm
    next =>
      split at h
      next hs => cases h; exact hs.symm
      next => cases h
  | _ => cases h

theorem literal_cases {v : Value} (t : ValueType) (hv : v.asList? = none) :
    t = .string ∧ v.literal t = "\"" ++ v.plain ++ "\"" ∨ t ≠ .string ∧ v.literal t = v.plain := by
  unfold literal
  split
  next items => simp [asList?] at hv
  next =>
    split
    next => exact .inl ⟨rfl, rfl⟩
    next =>
      refine .inr ⟨by decide, ?_⟩
      split
      next b hb => exact truthText_of_asTruth? hb
      next => rfl
    next ht _ => exact .inr ⟨ht, rfl⟩

theorem mem_literal_of_scalar {c : Char} {t : ValueType} {v : Value} (hv : v.asList? = none)
    (h : c ∈ (v.literal t).toList) : isOwnChar c = true ∨ c ∈ v.plain.toList := by
  rcases literal_cases t hv with ⟨-, hl⟩ | ⟨-, hl⟩
  · rw [hl] at h
    simp only [String.toList_append, List.mem_append] at h
    rcases h with (h | h) | h
    · exact .inl (holds_of_mem h (by decide))
    · exact .inr h
    · exact .inl (holds_of_mem h (by decide))
  · rw [hl] at h
    exact .inr h

theorem mem_literal {c : Char} {t : ValueType} (v : Value) (h : c ∈ (v.literal t).toList) :
    isOwnChar c = true ∨ ∃ s ∈ v.texts, c ∈ s.toList := by
  have scalar : ∀ w : Value, w.asList? = none → c ∈ (w.literal t).toList →
      isOwnChar c = true ∨ ∃ s ∈ w.texts, c ∈ s.toList := by
    intro w hw hc
    rcases mem_literal_of_scalar hw hc with hc | hc
    · exact .inl hc
    · exact (mem_plain w hc).imp_left isOwnChar_of_isPlainChar
  induction v using induct with
  | list items ih =>
    rw [literal, literals_eq] at h
    simp only [String.toList_append, List.mem_append] at h
    rcases h with (h | h) | h
    · exact .inl (holds_of_mem h (by decide))
    · rcases mem_intercalate h with h | ⟨p, hp, h⟩
      · exact .inl (holds_of_mem h (by decide))
      · obtain ⟨v, hv, rfl⟩ := List.mem_map.mp hp
        rcases ih v hv h with h | ⟨s, hs, h⟩
        · exact .inl h
        · exact .inr ⟨s, mem_texts_list hv hs, h⟩
    · exact .inl (holds_of_mem h (by decide))
  | _ => exact scalar _ rfl h

theorem texts_asItems (v : Value) : v.asItems.texts = v.texts := by
  cases v <;> simp [asItems, texts, textsOf]

theorem texts_bounds {s : String} (v : Value)
    (h : s ∈ v.bounds.1.texts ∨ s ∈ v.bounds.2.texts) : s ∈ v.texts := by
  unfold bounds at h
  split at h
  · simp [texts] at h
  · simpa [texts, textsOf] using h
  · simp only [texts, textsOf, List.mem_append]
    rcases h with h | h
    · exact .inl h
    · exact .inr (.inl h)
  · simp [texts] at h

end Value

namespace Clause

/-- The characters that a comparison of a variable with a value may hold. -/
def MayHold (v : Variable) (value : Value) (c : Char) : Prop :=
  isOwnChar c = true ∨ c ∈ v.id.toList ∨ ∃ s ∈ value.texts, c ∈ s.toList

section Written

variable {c : Char} {v : Variable} {value : Value}

theorem mayHold_of_own {s : String} (h : c ∈ s.toList) (hs : s.toList.all isOwnChar = true) :
    MayHold v value c := .inl (holds_of_mem h hs)

theorem mayHold_of_literal {w : Value} (hw : w.texts = value.texts)
    (h : c ∈ (w.literal v.valueType).toList) : MayHold v value c := by
  unfold MayHold
  rw [← hw]
  exact (Value.mem_literal w h).imp_right .inr

theorem mayHold_of_plain {w : Value} (hw : ∀ s ∈ w.texts, s ∈ value.texts)
    (h : c ∈ w.plain.toList) : MayHold v value c := by
  rcases Value.mem_plain w h with h | ⟨s, hs, h⟩
  · exact .inl (isOwnChar_of_isPlainChar h)
  · exact .inr (.inr ⟨s, hw s hs, h⟩)

theorem mayHold_of_call {name : String} (hn : name.toList.all isOwnChar = true)
    (h : c ∈ (v.id ++ name ++ value.literal v.valueType ++ ")").toList) : MayHold v value c := by
  simp only [String.toList_append, List.mem_append] at h
  rcases h with ((h | h) | h) | h
  · exact .inr (.inl h)
  · exact mayHold_of_own h hn
  · exact mayHold_of_literal rfl h
  · exact mayHold_of_own h (by decide)

theorem mayHold_of_relation {symbol : String} (hs : symbol.toList.all isOwnChar = true)
    (h : c ∈ (v.id ++ " " ++ symbol ++ " " ++ value.literal v.valueType).toList) :
    MayHold v value c := by
  simp only [String.toList_append, List.mem_append] at h
  rcases h with (((h | h) | h) | h) | h
  · exact .inr (.inl h)
  · exact mayHold_of_own h (by decide)
  · exact mayHold_of_own h hs
  · exact mayHold_of_own h (by decide)
  · exact mayHold_of_literal rfl h

theorem mayHold_of_bound {relation : String} {w : Value} (hr : relation.toList.all isOwnChar = true)
    (hw : ∀ s ∈ w.texts, s ∈ value.texts) (h : c ∈ (v.id ++ relation ++ w.plain).toList) :
    MayHold v value c := by
  simp only [String.toList_append, List.mem_append] at h
  rcases h with (h | h) | h
  · exact .inr (.inl h)
  · exact mayHold_of_own h hr
  · exact mayHold_of_plain hw h

/-- Only `between` writes a mark of its own that is not among `isOwnChar`. -/
theorem mayHold_of_comparisonText {o : Operator} (ho : o ≠ .between)
    (h : c ∈ (comparisonText v o value).toList) : MayHold v value c := by
  cases o with
  | between => exact absurd rfl ho
  | equal | notEqual | greater | greaterOrEqual | less | lessOrEqual =>
    exact mayHold_of_relation (by decide) h
  | contains | startsWith | endsWith => exact mayHold_of_call (by decide) h
  | among =>
    simp only [comparisonText, String.toList_append, List.mem_append] at h
    rcases h with ((h | h) | h) | h
    · exact mayHold_of_literal (Value.texts_asItems value) h
    · exact mayHold_of_own h (by decide)
    · exact .inr (.inl h)
    · exact mayHold_of_own h (by decide)
  | inList | and | or | not | unknown => exact mayHold_of_own (s := "true") h (by decide)

end Written

end Clause

end Eligibility
