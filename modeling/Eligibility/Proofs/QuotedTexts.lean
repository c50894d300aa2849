import Eligibility.Proofs.Characters
import Eligibility.Proofs.QuotedSpans

/-!
Which texts of a clause stand between quotes in its stored form, and which stand bare. A text without a
double quote stays between its quotes whatever else it holds, so the part of the stored form outside quotes
does not depend on it.
-/

set_option autoImplicit false

namespace Eligibility

open Quoting (Alike)

def HasNoQuote (s : String) : Prop := ∀ c ∈ s.toList, Quoting.isQuote c = false

def HasNoParenthesis (s : String) : Prop := '(' ∉ s.toList ∧ ')' ∉ s.toList

instance (s : String) : Decidable (HasNoQuote s) := List.decidableBAll _ s.toList

instance (s : String) : Decidable (HasNoParenthesis s) := inferInstanceAs (Decidable (_ ∧ _))

namespace Value

mutual

def emptied : Value → Value
  | .text _ => .text ""
  | .list items => .list (emptiedItems items)
  | v => v

def emptiedItems : List Value → List Value
  | [] => []
  | v :: vs => v.emptied :: emptiedItems vs

end

theorem emptiedItems_eq (items : List Value) : emptiedItems items = items.map emptied := by
  induction items with
  | nil => rfl
  | cons v vs ih => simp [emptiedItems, ih]

/-- The texts of a value that are written without quotes under a declared type. -/
def bareTexts (t : ValueType) (v : Value) : List String := if t = .string then [] else v.texts

def quotedTexts (t : ValueType) (v : Value) : List String := if t = .string then v.texts else []

def emptiedAs (t : ValueType) (v : Value) : Value := if t = .string then v.emptied else v

theorem asItems_emptiedAs (t : ValueType) (v : Value) : (v.emptiedAs t).asItems = v.asItems.emptiedAs t := by
  by_cases ht : t = .string
  · cases v <;> simp [emptiedAs, ht, asItems, emptied, emptiedItems]
  · simp [emptiedAs, ht]

section Literals

variable {p : Prop} {t : ValueType}

theorem isNeutral_of_isPlainChar {c : Char} (h : isPlainChar c = true) : Quoting.isNeutral c = true := by
  have hne : ∀ d, isPlainChar d = false → c ≠ d := by
    rintro d hd rfl
    rw [h] at hd
    cases hd
  have hdouble := hne '"' (by decide)
  have hsingle := hne '\'' (by decide)
  have hopen := hne '(' (by decide)
  have hclose := hne ')' (by decide)
  simp [Quoting.isNeutral, Quoting.isQuote, hdouble, hsingle, hopen, hclose]

theorem alike_plain (v : Value) (hq : ∀ s ∈ v.texts, HasNoQuote s)
    (hp : p → ∀ s ∈ v.texts, HasNoParenthesis s) : Alike p v.plain v.plain := by
  have hmem : ∀ c ∈ v.plain.toList, Quoting.isNeutral c = true ∨ ∃ s ∈ v.texts, c ∈ s.toList :=
    fun c hc => (mem_plain v hc).imp_left isNeutral_of_isPlainChar
  refine .bare (fun c hc => ?_) fun h => ⟨fun ho => ?_, fun hc => ?_⟩
  · rcases hmem c hc with hn | ⟨s, hs, hc⟩
    · simp only [Quoting.isNeutral, Bool.and_eq_true, Bool.not_eq_true'] at hn
      exact hn.1.1
    · exact hq s hs c hc
  · rcases hmem '(' ho with hn | ⟨s, hs, hc⟩
    · cases hn
    · exact (hp h s hs).1 hc
  · rcases hmem ')' hc with hn | ⟨s, hs, hc⟩
    · cases hn
    · exact (hp h s hs).2 hc

theorem alike_list {items : List Value} {f : Value → Value}
    (h : ∀ v ∈ items, Alike p (v.literal t) ((f v).literal t)) :
    Alike p ((list items).literal t) ((list (items.map f)).literal t) := by
  have hcomma : Alike p ", " ", " := .neutral (by decide)
  have hopen : Alike p "[" "[" := .neutral (by decide)
  have hclose : Alike p "]" "]" := .neutral (by decide)
  rw [literal, literal, literals_eq, literals_eq, List.map_map]
  exact (hopen.append (Alike.intercalate hcomma h)).append hclose

theorem alike_quoted (v : Value) (h : ∀ s ∈ v.texts, '"' ∉ s.toList) :
    Alike p (v.literal .string) (v.emptied.literal .string) := by
  have scalar : ∀ w : Value, w.texts = [] → Alike p ("\"" ++ w.plain ++ "\"") ("\"" ++ w.plain ++ "\"") := by
    intro w hw
    have hn : '"' ∉ w.plain.toList := by
      intro hc
      rcases mem_plain w hc with hc | ⟨s, hs, -⟩
      · exact absurd hc (by decide)
      · simp [hw] at hs
    exact .quoted hn hn
  induction v using induct with
  | text s => exact .quoted (h s (by simp [texts])) (by simp [emptied, plain])
  | list items ih =>
    rw [emptied, emptiedItems_eq]
    exact alike_list fun v hv => ih v hv fun s hs => h s (mem_texts_list hv hs)
  | integer n => exact scalar (.integer n) rfl
  | double x => exact scalar (.double x) rfl
  | truth b => exact scalar (.truth b) rfl
  | null => exact scalar .null rfl

theorem alike_bare (ht : t ≠ .string) (v : Value) (hq : ∀ s ∈ v.texts, HasNoQuote s)
    (hp : p → ∀ s ∈ v.texts, HasNoParenthesis s) : Alike p (v.literal t) (v.literal t) := by
  have scalar : ∀ w : Value, w.asList? = none → (∀ s ∈ w.texts, HasNoQuote s) →
      (p → ∀ s ∈ w.texts, HasNoParenthesis s) → Alike p (w.literal t) (w.literal t) := by
    intro w hw hwq hwp
    rcases literal_cases t hw with ⟨hs, -⟩ | ⟨-, hl⟩
    · exact absurd hs ht
    · rw [hl]
      exact alike_plain w hwq hwp
  induction v using induct with
  | list items ih =>
    have hlist := alike_list (p := p) (t := t) (f := id) fun v hv =>
      ih v hv (fun s hs => hq s (mem_texts_list hv hs)) fun h s hs => hp h s (mem_texts_list hv hs)
    rwa [List.map_id] at hlist
  | _ => exact scalar _ rfl hq hp

/-- The texts of a value stay where a declared type has them written. Under `p` those that stand bare have no
parenthesis. -/
structure Stays (p : Prop) (t : ValueType) (v : Value) : Prop where
  quoted : ∀ s ∈ v.quotedTexts t, '"' ∉ s.toList
  bare : ∀ s ∈ v.bareTexts t, HasNoQuote s
  level : p → ∀ s ∈ v.bareTexts t, HasNoParenthesis s

theorem Stays.asItems {v : Value} (h : v.Stays p t) : v.asItems.Stays p t := by
  have hquoted : v.asItems.quotedTexts t = v.quotedTexts t := by simp [quotedTexts, texts_asItems]
  have hbare : v.asItems.bareTexts t = v.bareTexts t := by simp [bareTexts, texts_asItems]
  exact ⟨hquoted ▸ h.quoted, hbare ▸ h.bare, hbare ▸ h.level⟩

theorem alike_literal {v : Value} (h : v.Stays p t) :
    Alike p (v.literal t) ((v.emptiedAs t).literal t) := by
  obtain ⟨hquoted, hq, hp⟩ := h
  unfold quotedTexts bareTexts emptiedAs at *
  by_cases ht : t = .string
  · rw [if_pos ht] at hquoted ⊢
    subst ht
    exact alike_quoted v hquoted
  · rw [if_neg ht] at hq hp ⊢
    exact alike_bare ht v hq hp

end Literals

end Value

/-- Whether a comparison with the operator writes its value. A `between` writes the bounds. -/
def Operator.writesValue : Operator → Bool
  | .inList | .and | .or | .not | .unknown => false
  | _ => true

namespace Clause

def bareTexts (c : Clause) : List String :=
  match c.subject? with
  | none => []
  | some v =>
    if c.operator = .between then c.value.bounds.1.texts ++ c.value.bounds.2.texts
    else if c.operator.writesValue then c.value.bareTexts v.valueType
    else []

def quotedTexts (c : Clause) : List String :=
  match c.subject? with
  | none => []
  | some v => if c.operator = .between then [] else c.value.quotedTexts v.valueType

def emptied (c : Clause) : Clause :=
  match c.subject? with
  | none => c
  | some v => if c.operator = .between then c else { c with value := c.value.emptiedAs v.valueType }

/-- No quote stands bare in the text of the clause, and no quoted text ends its own quotes. -/
structure IsContained (c : Clause) : Prop where
  id : ∀ v ∈ c.subject?, HasNoQuote v.id
  bare : ∀ s ∈ c.bareTexts, HasNoQuote s
  quoted : ∀ s ∈ c.quotedTexts, '"' ∉ s.toList

/-- No parenthesis stands bare but those that the clause writes of its own. -/
structure LacksParentheses (c : Clause) : Prop where
  id : ∀ v ∈ c.subject?, HasNoParenthesis v.id
  bare : ∀ s ∈ c.bareTexts, HasNoParenthesis s

instance (c : Clause) : Decidable c.IsContained :=
  decidable_of_iff ((∀ v ∈ c.subject?, HasNoQuote v.id) ∧ (∀ s ∈ c.bareTexts, HasNoQuote s) ∧
      ∀ s ∈ c.quotedTexts, '"' ∉ s.toList)
    ⟨fun ⟨hid, hbare, hquoted⟩ => ⟨hid, hbare, hquoted⟩, fun h => ⟨h.id, h.bare, h.quoted⟩⟩

instance (c : Clause) : Decidable c.LacksParentheses :=
  decidable_of_iff ((∀ v ∈ c.subject?, HasNoParenthesis v.id) ∧ ∀ s ∈ c.bareTexts, HasNoParenthesis s)
    ⟨fun ⟨hid, hbare⟩ => ⟨hid, hbare⟩, fun h => ⟨h.id, h.bare⟩⟩

section Texts

variable {p : Prop} {v : Variable}

theorem alike_call {s s' t t' call name : String} (hcall : call = name ++ "(") (hname : Alike p name name)
    (hs : Alike p s s') (ht : Alike p t t') : Alike p (s ++ call ++ t ++ ")") (s' ++ call ++ t' ++ ")") := by
  have h := (hs.append hname).append ht.parenthesised
  simpa [hcall, String.append_assoc] using h

theorem alike_symbol (o : Operator) : Alike p o.symbol o.symbol := by
  cases o <;> exact .neutral (by decide)

theorem alike_comparisonText {o : Operator} {value : Value} (ho : o ≠ .between) (hid : Alike p v.id v.id)
    (hvalue : o.writesValue = true → value.Stays p v.valueType) :
    Alike p (comparisonText v o value) (comparisonText v o (value.emptiedAs v.valueType)) := by
  have hincludes : Alike p ".includes" ".includes" := .neutral (by decide)
  have hstarts : Alike p ".startsWith" ".startsWith" := .neutral (by decide)
  have hends : Alike p ".endsWith" ".endsWith" := .neutral (by decide)
  cases o with
  | between => exact absurd rfl ho
  | equal | notEqual | greater | greaterOrEqual | less | lessOrEqual =>
    have hliteral := Value.alike_literal (hvalue rfl)
    exact (((hid.append .space).append (alike_symbol _)).append .space).append hliteral
  | contains => exact alike_call rfl hincludes hid (Value.alike_literal (hvalue rfl))
  | startsWith => exact alike_call rfl hstarts hid (Value.alike_literal (hvalue rfl))
  | endsWith => exact alike_call rfl hends hid (Value.alike_literal (hvalue rfl))
  | among =>
    have hitems := Value.alike_literal (hvalue rfl).asItems
    rw [← Value.asItems_emptiedAs] at hitems
    exact alike_call rfl hincludes hitems hid
  | inList | and | or | not | unknown => exact .neutral (s := "true") (by decide)

section Contained

variable {c : Clause} (hc : c.IsContained) (hp : p → c.LacksParentheses) (hv : c.subject? = some v)

include hc hp hv

theorem alike_id : Alike p v.id v.id := .bare (hc.id v hv) fun h => (hp h).id v hv

theorem stays_of_isContained (ho : c.operator ≠ .between) (hw : c.operator.writesValue = true) :
    c.value.Stays p v.valueType := by
  have hquoted : c.quotedTexts = c.value.quotedTexts v.valueType := by simp [quotedTexts, hv, ho]
  have hbare : c.bareTexts = c.value.bareTexts v.valueType := by simp [bareTexts, hv, ho, hw]
  exact ⟨hquoted ▸ hc.quoted, hbare ▸ hc.bare, fun h => hbare ▸ (hp h).bare⟩

theorem alike_between (ho : c.operator = .between) : Alike p c.text c.text := by
  have hbare : c.bareTexts = c.value.bounds.1.texts ++ c.value.bounds.2.texts := by
    simp [bareTexts, hv, ho]
  have hq := hc.bare
  have hn := fun h => (hp h).bare
  rw [hbare] at hq hn
  simp only [List.forall_mem_append] at hq hn
  have hid := alike_id hc hp hv
  have hlow := Value.alike_plain c.value.bounds.1 hq.1 fun h => (hn h).1
  have hhigh := Value.alike_plain c.value.bounds.2 hq.2 fun h => (hn h).2
  have hge : Alike p " >= " " >= " := .neutral (by decide)
  have hand : Alike p " && " " && " := .neutral (by decide)
  have hle : Alike p " <= " " <= " := .neutral (by decide)
  rw [text, hv, ho]
  exact (((((hid.append hge).append hlow).append hand).append hid).append hle).append hhigh

end Contained

theorem alike_text {c : Clause} (hc : c.IsContained) (hp : p → c.LacksParentheses) :
    Alike p c.text c.emptied.text := by
  cases hv : c.subject? with
  | none =>
    have htext : c.text = "true" := by simp [text, hv]
    have hempty : c.emptied = c := by simp [emptied, hv]
    rw [hempty, htext]
    exact .neutral (by decide)
  | some v =>
    by_cases ho : c.operator = .between
    · have hempty : c.emptied = c := by simp [emptied, hv, ho]
      rw [hempty]
      exact alike_between hc hp hv ho
    · have htext : c.text = comparisonText v c.operator c.value := by simp [text, hv]
      have hempty : c.emptied.text = comparisonText v c.operator (c.value.emptiedAs v.valueType) := by
        simp [emptied, hv, ho, text]
      rw [htext, hempty]
      exact alike_comparisonText ho (alike_id hc hp hv) fun hw => stays_of_isContained hc hp hv ho hw

theorem connective_emptied (c : Clause) : c.emptied.connective = c.connective := by
  unfold emptied
  split
  next => rfl
  next => split <;> rfl

theorem alike_joinedText {c : Clause} (hc : c.IsContained) (hp : p → c.LacksParentheses) :
    Alike p c.joinedText c.emptied.joinedText := by
  have htext := alike_text hc hp
  unfold joinedText
  rw [connective_emptied]
  cases c.connective with
  | none => exact htext
  | some k =>
    have hsymbol : Alike p k.symbol k.symbol := by
      cases k <;> exact .neutral (by decide)
    exact (htext.append .space).append hsymbol

theorem alike_expression {cs : List Clause} (hc : ∀ c ∈ cs, c.IsContained)
    (hp : p → ∀ c ∈ cs, c.LacksParentheses) :
    Alike p (expression cs) (expression (cs.map emptied)) := by
  cases cs with
  | nil => exact .neutral (s := "true") (by decide)
  | cons c cs =>
    have h := Alike.intercalate (f := joinedText) (g := fun d => d.emptied.joinedText) .space fun d hd =>
      alike_joinedText (hc d hd) fun h => hp h d hd
    rw [expression, expression, List.map_map]
    · exact h
    · simp
    · simp

end Texts

section Emptied

variable {c d : Clause}

@[simp] theorem subject?_emptied (c : Clause) : c.emptied.subject? = c.subject? := by
  unfold emptied
  split
  next => rfl
  next => split <;> rfl

@[simp] theorem bareTexts_emptied (c : Clause) : c.emptied.bareTexts = c.bareTexts := by
  cases hv : c.subject? with
  | none => simp [emptied, hv]
  | some v =>
    by_cases ho : c.operator = .between
    · simp [emptied, hv, ho]
    · by_cases ht : v.valueType = .string
      · simp [emptied, bareTexts, hv, ho, ht, Value.bareTexts]
      · simp [emptied, bareTexts, hv, ho, ht, Value.emptiedAs]

theorem subject?_of_emptied_eq (h : d.emptied = c.emptied) : d.subject? = c.subject? := by
  simpa using congrArg subject? h

theorem bareTexts_of_emptied_eq (h : d.emptied = c.emptied) : d.bareTexts = c.bareTexts := by
  simpa using congrArg bareTexts h

theorem IsContained.of_emptied_eq (hc : c.IsContained) (h : d.emptied = c.emptied)
    (hd : ∀ s ∈ d.quotedTexts, '"' ∉ s.toList) : d.IsContained := by
  have hsubject := subject?_of_emptied_eq h
  have hbare := bareTexts_of_emptied_eq h
  exact ⟨hsubject ▸ hc.id, hbare ▸ hc.bare, hd⟩

theorem LacksParentheses.of_emptied_eq (hc : c.LacksParentheses) (h : d.emptied = c.emptied) :
    d.LacksParentheses := by
  have hsubject := subject?_of_emptied_eq h
  have hbare := bareTexts_of_emptied_eq h
  exact ⟨hsubject ▸ hc.id, hbare ▸ hc.bare⟩

end Emptied

/-- Texts between quotes stay there as long as they have no double quote themselves. Where no quote stands bare,
two lists of clauses that differ in nothing but such texts have the same stored form outside quotes, and if
no parenthesis stands bare either, both forms pass the check of quotes and parentheses. -/
theorem outside_expression_eq (cs ds : List Clause) (hcs : ∀ c ∈ cs, c.IsContained)
    (hsame : ds.map emptied = cs.map emptied) (hds : ∀ d ∈ ds, ∀ s ∈ d.quotedTexts, '"' ∉ s.toList) :
    Quoting.outside (expression ds) = Quoting.outside (expression cs) ∧
    ((∀ c ∈ cs, c.LacksParentheses) →
      Quoting.fault? (expression cs) = none ∧ Quoting.fault? (expression ds) = none) := by
  have partner : ∀ d ∈ ds, ∃ c ∈ cs, d.emptied = c.emptied := by
    intro d hd
    have hmem : d.emptied ∈ cs.map emptied := hsame ▸ List.mem_map_of_mem hd
    obtain ⟨c, hc, he⟩ := List.mem_map.mp hmem
    exact ⟨c, hc, he.symm⟩
  have hcontained : ∀ d ∈ ds, d.IsContained := by
    intro d hd
    obtain ⟨c, hc, he⟩ := partner d hd
    exact (hcs c hc).of_emptied_eq he (hds d hd)
  have alike : ∀ p : Prop, (p → ∀ c ∈ cs, c.LacksParentheses) →
      Alike p (expression cs) (expression (cs.map emptied)) ∧
        Alike p (expression ds) (expression (cs.map emptied)) := by
    intro p hp
    refine ⟨alike_expression hcs hp, hsame ▸ alike_expression hcontained fun h d hd => ?_⟩
    obtain ⟨c, hc, he⟩ := partner d hd
    exact (hp h c hc).of_emptied_eq he
  refine ⟨?_, fun hlevel => ?_⟩
  · obtain ⟨hc, hd⟩ := alike False False.elim
    exact hd.outside_eq.trans hc.outside_eq.symm
  · obtain ⟨hc, hd⟩ := alike True fun _ => hlevel
    exact ⟨hc.fault?_eq_none trivial, hd.fault?_eq_none trivial⟩

def guestClauses (name zone : String) : List Clause :=
  [⟨"1", some ⟨"customer.name", "Name", .string, "customer", "", []⟩, .startsWith, .text name, some .or⟩,
    ⟨"2", some ⟨"booking.zone", "Zone", .string, "booking", "", []⟩, .among,
      .list [.text zone, .list [.text name, .integer 4]], some .and⟩,
    ⟨"3", some ⟨"booking.fare", "Fare", .number, "booking", "", []⟩, .between,
      .list [.integer 10, .text "50"], none⟩]

theorem outside_expression_eq_guest :
    Quoting.outside (expression (guestClauses "it's (late) ||" "north' && (")) =
        Quoting.outside (expression (guestClauses "Jo" "")) ∧
      Quoting.fault? (expression (guestClauses "it's (late) ||" "north' && (")) = none := by
  have h := outside_expression_eq (guestClauses "Jo" "") (guestClauses "it's (late) ||" "north' && (")
    (by decide) rfl (by decide)
  exact ⟨h.1, (h.2 (by decide)).2⟩

end Clause

end Eligibility
