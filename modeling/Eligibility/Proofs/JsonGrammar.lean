import Eligibility.Json.Relaxed.Numeral
import Eligibility.Proofs.StrictLexing

/-!
The grammar of JSON, as far as texts, arrays and objects go: nothing else stands in a stored configuration.
Numerals, words and escapes of two halves are left out. Every relation here takes the characters from some
place on and leaves those that follow. What is written in any layout keeps to the grammar.
-/

set_option autoImplicit false

namespace Eligibility.Json

namespace Grammar

inductive Gap : List Char → List Char → Prop where
  | none {cs : List Char} : Gap cs cs
  | more {c : Char} {cs rest : List Char} : c ∈ [' ', '\t', '\n', '\r'] → Gap cs rest → Gap (c :: cs) rest

def letters : List (Char × Char) :=
  [('"', '"'), ('\\', '\\'), ('/', '/'), ('b', '\x08'), ('f', '\x0c'), ('n', '\n'), ('r', '\r'), ('t', '\t')]

/-- The characters of a text up to the quote that ends it. All but the quote, the backslash and the controls
may stand for themselves, and so may the line and the paragraph separator. -/
inductive Chars : List Char → List Char → List Char → Prop where
  | close {rest : List Char} : Chars ('"' :: rest) [] rest
  | plain {c : Char} {cs s rest : List Char} : c ≠ '"' → c ≠ '\\' → 0x20 ≤ c.toNat → Chars cs s rest →
      Chars (c :: cs) (c :: s) rest
  | letter {l c : Char} {cs s rest : List Char} : (l, c) ∈ letters → Chars cs s rest →
      Chars ('\\' :: l :: cs) (c :: s) rest
  | number {h i j k : Char} {n : Nat} {cs s rest : List Char} : Relaxed.hexNumber? [h, i, j, k] = some n →
      isHighHalf n = false → isLowHalf n = false → Chars cs s rest →
      Chars ('\\' :: 'u' :: h :: i :: j :: k :: cs) (Char.ofNat n :: s) rest

inductive Part where
  | value (v : Json)
  /-- A value with the blanks around it. -/
  | element (v : Json)
  /-- Elements with commas between them, one at least. -/
  | elements (vs : List Json)
  | member (k : String) (v : Json)
  | members (ms : List (String × Json))

inductive Writes : List Char → Part → List Char → Prop where
  | text {cs s rest : List Char} : Chars cs s rest → Writes ('"' :: cs) (.value (.text (String.ofList s))) rest
  | emptyArray {cs rest : List Char} : Gap cs (']' :: rest) → Writes ('[' :: cs) (.value (.array [])) rest
  | array {cs rest : List Char} {vs : List Json} : Writes cs (.elements vs) (']' :: rest) →
      Writes ('[' :: cs) (.value (.array vs)) rest
  | emptyObject {cs rest : List Char} : Gap cs ('\x7d' :: rest) →
      Writes ('\x7b' :: cs) (.value (.object [])) rest
  | object {cs rest : List Char} {ms : List (String × Json)} : Writes cs (.members ms) ('\x7d' :: rest) →
      Writes ('\x7b' :: cs) (.value (.object ms)) rest
  | element {cs ds es rest : List Char} {v : Json} : Gap cs ds → Writes ds (.value v) es → Gap es rest →
      Writes cs (.element v) rest
  | lastElement {cs rest : List Char} {v : Json} : Writes cs (.element v) rest → Writes cs (.elements [v]) rest
  | nextElement {cs ds rest : List Char} {v w : Json} {vs : List Json} : Writes cs (.element v) (',' :: ds) →
      Writes ds (.elements (w :: vs)) rest → Writes cs (.elements (v :: w :: vs)) rest
  | member {cs ds es fs k rest : List Char} {v : Json} : Gap cs ('"' :: ds) → Chars ds k es →
      Gap es (':' :: fs) → Writes fs (.element v) rest → Writes cs (.member (String.ofList k) v) rest
  | lastMember {cs rest : List Char} {k : String} {v : Json} : Writes cs (.member k v) rest →
      Writes cs (.members [(k, v)]) rest
  | nextMember {cs ds rest : List Char} {k : String} {v : Json} {m : String × Json}
      {ms : List (String × Json)} : Writes cs (.member k v) (',' :: ds) → Writes ds (.members (m :: ms)) rest →
      Writes cs (.members ((k, v) :: m :: ms)) rest

end Grammar

open Grammar

/-- The reader takes every text of the grammar for the value that it writes. JSON5 holds all of JSON, so whoever
reads JSON5 as specified does so. -/
def ReadsGrammar (find? : String → Option Document) : Prop :=
  ∀ (s : String) (v : Json), Writes s.toList (.element v) [] → find? s = some v.toDocument

mutual

/-- The value is made of texts alone. -/
def IsVerbal : Json → Prop
  | .text _ => True
  | .array items => ItemsVerbal items
  | .object members => MembersVerbal members
  | _ => False

def ItemsVerbal : List Json → Prop
  | [] => True
  | v :: vs => v.IsVerbal ∧ ItemsVerbal vs

def MembersVerbal : List (String × Json) → Prop
  | [] => True
  | (_, v) :: vs => v.IsVerbal ∧ MembersVerbal vs

end

theorem itemsVerbal_iff {vs : List Json} : ItemsVerbal vs ↔ ∀ v ∈ vs, v.IsVerbal := by
  induction vs with
  | nil => simp [ItemsVerbal]
  | cons v vs ih => simp [ItemsVerbal, ih]

theorem membersVerbal_iff {ms : List (String × Json)} : MembersVerbal ms ↔ ∀ m ∈ ms, m.2.IsVerbal := by
  induction ms with
  | nil => simp [MembersVerbal]
  | cons m ms ih => simp [MembersVerbal, ih]

section Written

theorem Grammar.Gap.of_blanks {bs : List Char} (h : ∀ c ∈ bs, c = ' ' ∨ c = '\n') (rest : List Char) :
    Gap (bs ++ rest) rest := by
  induction bs with
  | nil => exact .none
  | cons b bs ih =>
    simp only [List.forall_mem_cons] at h
    refine .more ?_ (ih h.2)
    rcases h.1 with rfl | rfl <;> decide

theorem hexNumber?_control {c : Char} (h : c.toNat < 0x20) :
    Relaxed.hexNumber? ['0', '0', hexDigit (c.toNat / 16), hexDigit (c.toNat % 16)] = some c.toNat := by
  obtain ⟨hzero, hfst, hsnd, hvalue⟩ := hexValues_control h
  simp [Relaxed.hexNumber?, hfst, hsnd, hzero, hvalue]

theorem chars_escaped {cs s rest : List Char} (h : Chars cs s rest) (c : Char) :
    Chars (escaped c ++ cs) (c :: s) rest := by
  unfold escaped
  split
  case h_8 hquote hback _ _ _ _ _ =>
    split
    next hc =>
      obtain ⟨hhigh, hlow⟩ := not_half_of_lt hc
      have hnumber := Chars.number (hexNumber?_control hc) hhigh hlow h
      rwa [Char.ofNat_toNat] at hnumber
    next hc => exact .plain hquote hback (Nat.not_lt.mp hc) h
  all_goals exact .letter (by decide) h

theorem chars_escapeds (cs rest : List Char) : Chars (cs.flatMap escaped ++ '"' :: rest) cs rest := by
  induction cs with
  | nil => exact .close
  | cons c cs ih =>
    rw [List.flatMap_cons, List.append_assoc]
    exact chars_escaped ih c

theorem writeText_append (s : String) (rest : List Char) :
    writeText s ++ rest = '"' :: (s.toList.flatMap escaped ++ '"' :: rest) := by
  simp [writeText]

theorem writes_writeText (s : String) (rest : List Char) :
    Writes (writeText s ++ rest) (.value (.text s)) rest := by
  have h := Writes.text (chars_escapeds s.toList rest)
  rwa [String.ofList_toList, ← writeText_append] at h

variable (l : Layout)

theorem writes_member {k : String} {v : Json} {depth : Nat} {rest rest' : List Char}
    (h : Writes (v.writeIn l depth ++ rest) (.value v) rest) (hrest : Gap rest rest') :
    Writes (l.gap depth ++ (writeText k ++ ':' :: (l.space ++ (v.writeIn l depth ++ rest)))) (.member k v)
      rest' := by
  have hvalue := Writes.element (.of_blanks l.space_blank _) h hrest
  have hkey := chars_escapeds k.toList (':' :: (l.space ++ (v.writeIn l depth ++ rest)))
  have hmember := Writes.member (.of_blanks (l.gap_blank depth) _) hkey .none hvalue
  rwa [String.ofList_toList, ← writeText_append] at hmember

mutual

/-- A value of texts is written as the grammar has it, in any layout. -/
theorem writes_writeIn (depth : Nat) : (v : Json) → v.IsVerbal → (rest : List Char) →
    Writes (v.writeIn l depth ++ rest) (.value v) rest
  | .text s, _, rest => writes_writeText s rest
  | .array [], _, rest => .emptyArray .none
  | .array (v :: vs), hv, rest => by
    have hgap := Gap.of_blanks (l.gap_blank depth) (']' :: rest)
    have hitems := writes_itemsIn (depth + 1) (v :: vs) (by simp) hv hgap
    simpa [writeIn] using Writes.array hitems
  | .object [], _, rest => .emptyObject .none
  | .object (m :: ms), hv, rest => by
    have hgap := Gap.of_blanks (l.gap_blank depth) ('\x7d' :: rest)
    have hmembers := writes_membersIn (depth + 1) (m :: ms) (by simp) hv hgap
    simpa [writeIn] using Writes.object hmembers

theorem writes_itemsIn (depth : Nat) : (vs : List Json) → vs ≠ [] → ItemsVerbal vs →
    {rest rest' : List Char} → Gap rest rest' → Writes (itemsIn l depth vs ++ rest) (.elements vs) rest'
  | [], hne, _, _, _, _ => absurd rfl hne
  | [v], _, hv, rest, _, hrest => by
    have hvalue := writes_writeIn depth v hv.1 rest
    have helement := Writes.element (.of_blanks (l.gap_blank depth) _) hvalue hrest
    simpa [itemsIn] using Writes.lastElement helement
  | v :: w :: vs, _, hv, rest, _, hrest => by
    have hvalue := writes_writeIn depth v hv.1 (',' :: (itemsIn l depth (w :: vs) ++ rest))
    have helement := Writes.element (.of_blanks (l.gap_blank depth) _) hvalue .none
    have hitems := writes_itemsIn depth (w :: vs) (by simp) hv.2 hrest
    simpa [itemsIn] using Writes.nextElement helement hitems

theorem writes_membersIn (depth : Nat) : (ms : List (String × Json)) → ms ≠ [] → MembersVerbal ms →
    {rest rest' : List Char} → Gap rest rest' → Writes (membersIn l depth ms ++ rest) (.members ms) rest'
  | [], hne, _, _, _, _ => absurd rfl hne
  | [(k, v)], _, hv, rest, _, hrest => by
    have hmember := writes_member l (k := k) (writes_writeIn depth v hv.1 rest) hrest
    simpa [membersIn] using Writes.lastMember hmember
  | (k, v) :: m :: ms, _, hv, rest, _, hrest => by
    have hvalue := writes_writeIn depth v hv.1 (',' :: (membersIn l depth (m :: ms) ++ rest))
    have hmembers := writes_membersIn depth (m :: ms) (by simp) hv.2 hrest
    simpa [membersIn] using Writes.nextMember (writes_member l hvalue .none) hmembers

end

theorem ReadsGrammar.find?_pretty {find? : String → Option Document} (h : ReadsGrammar find?) {v : Json}
    (hv : v.IsVerbal) : find? v.pretty = some v.toDocument := by
  have hvalue := writes_writeIn .indented 0 v hv []
  rw [List.append_nil, writeIn_indented] at hvalue
  refine h v.pretty v (.element .none ?_ .none)
  rwa [pretty, String.toList_ofList]

end Written

end Eligibility.Json
