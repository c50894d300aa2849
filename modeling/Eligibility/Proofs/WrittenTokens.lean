import Eligibility.Json.Numeral
import Eligibility.Json.Token
import Eligibility.Json.Writer

/-!
The tokens of a written value. They depend on the form that it is read in and not on its layout: a lexer
passes over the blanks between them. `Lexes` is what a lexer has to do for that, and the main statement says
what it then makes of a value in either layout.
-/

set_option autoImplicit false

namespace Eligibility.Json

/-- The line and the paragraph separator, which a relaxed document must not have inside a text. -/
def isSeparator (c : Char) : Bool := c.toNat = 0x2028 || c.toNat = 0x2029

def hasSeparator (s : String) : Bool := s.toList.any isSeparator

def Token.isBroken : Token → Bool
  | .broken => true
  | _ => false

def wordToken (form : Form) (name : String) (d : Document) : Token :=
  match form with
  | .strict => .scalar d
  | .relaxed => .name (.ok name) (some d)

/-- Texts are written raw, and then a relaxed document breaks off at a separator. -/
def textToken (form : Form) (s : String) : Token :=
  if form = .relaxed ∧ hasSeparator s = true then .broken else .text (.ok s)

mutual

def tokens (form : Form) : Json → List Token
  | .null => [wordToken form "null" .null]
  | .truth b => [wordToken form (if b then "true" else "false") (.truth b)]
  | .integer n => [.scalar (.integer n)]
  | .double x => [.scalar (.double x)]
  | .text s => [textToken form s]
  | .array items => .openArray :: (itemTokens form items ++ [.closeArray])
  | .object members => .openObject :: (memberTokens form members ++ [.closeObject])

def itemTokens (form : Form) : List Json → List Token
  | [] => []
  | [v] => v.tokens form
  | v :: w :: vs => v.tokens form ++ .comma :: itemTokens form (w :: vs)

def memberTokens (form : Form) : List (String × Json) → List Token
  | [] => []
  | [(k, v)] => textToken form k :: .colon :: v.tokens form
  | (k, v) :: w :: vs =>
    textToken form k :: .colon :: (v.tokens form ++ .comma :: memberTokens form (w :: vs))

end

mutual

def allTexts : Json → List String
  | .text s => [s]
  | .array items => itemTexts items
  | .object members => memberTexts members
  | _ => []

def itemTexts : List Json → List String
  | [] => []
  | v :: vs => v.allTexts ++ itemTexts vs

def memberTexts : List (String × Json) → List String
  | [] => []
  | (k, v) :: vs => k :: (v.allTexts ++ memberTexts vs)

end

theorem itemTexts_eq_flatMap (vs : List Json) : itemTexts vs = vs.flatMap allTexts := by
  induction vs with
  | nil => rfl
  | cons v vs ih => rw [itemTexts, ih, List.flatMap_cons]

theorem memberTexts_eq_flatMap (ms : List (String × Json)) :
    memberTexts ms = ms.flatMap fun m => m.1 :: m.2.allTexts := by
  induction ms with
  | nil => rfl
  | cons m ms ih => simp [memberTexts, ih]

def breaksOff (form : Form) (ss : List String) : Bool := form = .relaxed && ss.any hasSeparator

theorem breaksOff_nil (form : Form) : breaksOff form [] = false := by simp [breaksOff]

theorem breaksOff_cons (form : Form) (s : String) (ss : List String) :
    breaksOff form (s :: ss) = ((textToken form s).isBroken || breaksOff form ss) := by
  cases form <;> cases h : hasSeparator s <;> simp [breaksOff, textToken, Token.isBroken, h]

theorem breaksOff_append (form : Form) (ss rs : List String) :
    breaksOff form (ss ++ rs) = (breaksOff form ss || breaksOff form rs) := by
  simp [breaksOff, Bool.and_or_distrib_left]

theorem isBroken_wordToken (form : Form) (name : String) (d : Document) :
    (wordToken form name d).isBroken = false := by
  cases form <;> rfl

mutual

theorem any_isBroken_tokens (form : Form) :
    (v : Json) → (v.tokens form).any Token.isBroken = breaksOff form v.allTexts
  | .null | .truth _ => by simp [tokens, allTexts, isBroken_wordToken, breaksOff_nil]
  | .integer _ | .double _ => by simp [tokens, allTexts, Token.isBroken, breaksOff_nil]
  | .text s => by simp [tokens, allTexts, breaksOff_cons, breaksOff_nil]
  | .array items => by simp [tokens, allTexts, Token.isBroken, any_isBroken_itemTokens form items]
  | .object members => by simp [tokens, allTexts, Token.isBroken, any_isBroken_memberTokens form members]

theorem any_isBroken_itemTokens (form : Form) :
    (vs : List Json) → (itemTokens form vs).any Token.isBroken = breaksOff form (itemTexts vs)
  | [] => by simp [itemTokens, itemTexts, breaksOff_nil]
  | [v] => by simp [itemTokens, itemTexts, any_isBroken_tokens form v]
  | v :: w :: vs => by
    have hs : itemTexts (v :: w :: vs) = v.allTexts ++ itemTexts (w :: vs) := rfl
    rw [itemTokens, List.any_append, List.any_cons, any_isBroken_tokens form v,
      any_isBroken_itemTokens form (w :: vs), hs, breaksOff_append]
    rfl

theorem any_isBroken_memberTokens (form : Form) : (ms : List (String × Json)) →
    (memberTokens form ms).any Token.isBroken = breaksOff form (memberTexts ms)
  | [] => by simp [memberTokens, memberTexts, breaksOff_nil]
  | [(k, v)] => by
    rw [memberTokens, List.any_cons, List.any_cons, any_isBroken_tokens form v, memberTexts,
      breaksOff_cons, memberTexts, List.append_nil]
    rfl
  | (k, v) :: w :: vs => by
    have hs : memberTexts ((k, v) :: w :: vs) = k :: (v.allTexts ++ memberTexts (w :: vs)) := rfl
    rw [memberTokens, List.any_cons, List.any_cons, List.any_append, List.any_cons,
      any_isBroken_tokens form v, any_isBroken_memberTokens form (w :: vs), hs, breaksOff_cons,
      breaksOff_append]
    rfl

end

mutual

/-- The value holds no double, and its integers fit a signed machine integer. -/
def IsWhole : Json → Prop
  | .integer n => -(Numeral.largestSigned : Int) - 1 ≤ n ∧ n ≤ Numeral.largestSigned
  | .double _ => False
  | .array items => ItemsWhole items
  | .object members => MembersWhole members
  | _ => True

def ItemsWhole : List Json → Prop
  | [] => True
  | v :: vs => v.IsWhole ∧ ItemsWhole vs

def MembersWhole : List (String × Json) → Prop
  | [] => True
  | (_, v) :: vs => v.IsWhole ∧ MembersWhole vs

end

theorem itemsWhole_iff {vs : List Json} : ItemsWhole vs ↔ ∀ v ∈ vs, v.IsWhole := by
  induction vs with
  | nil => simp [ItemsWhole]
  | cons v vs ih => simp [ItemsWhole, ih]

theorem membersWhole_iff {ms : List (String × Json)} : MembersWhole ms ↔ ∀ m ∈ ms, m.2.IsWhole := by
  induction ms with
  | nil => simp [MembersWhole]
  | cons m ms ih => simp [MembersWhole, ih]

section Layout

/-- What stands before the items and the end of a container, by depth, and after the colon of a member. -/
structure Layout where
  gap : Nat → List Char
  space : List Char
  gap_blank : ∀ depth, ∀ c ∈ gap depth, c = ' ' ∨ c = '\n'
  space_blank : ∀ c ∈ space, c = ' ' ∨ c = '\n'

def Layout.compact : Layout := ⟨fun _ => [], [], by simp, by simp⟩

def Layout.indented : Layout where
  gap := newLine
  space := [' ']
  gap_blank depth c hc := by
    rcases List.mem_cons.mp hc with rfl | hc
    · exact .inr rfl
    · exact .inl (List.mem_replicate.mp hc).2
  space_blank := by simp

variable (l : Layout)

mutual

def writeIn (l : Layout) (depth : Nat) : Json → List Char
  | .array (v :: vs) => '[' :: (itemsIn l (depth + 1) (v :: vs) ++ (l.gap depth ++ [']']))
  | .object (m :: ms) =>
    '\x7b' :: (membersIn l (depth + 1) (m :: ms) ++ (l.gap depth ++ ['\x7d']))
  | v => v.writeCompact

def itemsIn (l : Layout) (depth : Nat) : List Json → List Char
  | [] => []
  | [v] => l.gap depth ++ v.writeIn l depth
  | v :: w :: vs => l.gap depth ++ (v.writeIn l depth ++ ',' :: itemsIn l depth (w :: vs))

def membersIn (l : Layout) (depth : Nat) : List (String × Json) → List Char
  | [] => []
  | [(k, v)] => l.gap depth ++ (writeText k ++ ':' :: (l.space ++ v.writeIn l depth))
  | (k, v) :: w :: vs =>
    l.gap depth ++ (writeText k ++ ':' :: (l.space ++
      (v.writeIn l depth ++ ',' :: membersIn l depth (w :: vs))))

end

end Layout

mutual

theorem writeIn_compact (depth : Nat) : (v : Json) → v.writeIn .compact depth = v.writeCompact
  | .array [] => rfl
  | .array (v :: vs) => by
    rw [writeIn, itemsIn_compact, writeCompact]
    rfl
  | .object [] => rfl
  | .object (m :: ms) => by
    rw [writeIn, membersIn_compact, writeCompact]
    rfl
  | .null | .truth _ | .integer _ | .double _ | .text _ => rfl

theorem itemsIn_compact (depth : Nat) : (vs : List Json) → itemsIn .compact depth vs = writeItems vs
  | [] => rfl
  | [v] => writeIn_compact depth v
  | v :: w :: vs => by
    rw [itemsIn, writeIn_compact, itemsIn_compact, writeItems]
    rfl

theorem membersIn_compact (depth : Nat) :
    (ms : List (String × Json)) → membersIn .compact depth ms = writeMembers ms
  | [] => rfl
  | [(k, v)] => by
    rw [membersIn, writeIn_compact, writeMembers]
    rfl
  | (k, v) :: w :: vs => by
    rw [membersIn, writeIn_compact, membersIn_compact, writeMembers]
    rfl

end

mutual

theorem writeIn_indented (depth : Nat) :
    (v : Json) → v.writeIn .indented depth = v.writeIndented depth
  | .array [] => rfl
  | .array (v :: vs) => by
    rw [writeIn, itemsIn_indented, writeIndented, List.cons_append, List.cons_append, List.append_assoc]
    rfl
  | .object [] => rfl
  | .object (m :: ms) => by
    rw [writeIn, membersIn_indented, writeIndented, List.cons_append, List.cons_append,
      List.append_assoc]
    rfl
  | .null | .truth _ | .integer _ | .double _ | .text _ => rfl

theorem itemsIn_indented (depth : Nat) :
    (vs : List Json) → itemsIn .indented depth vs = indentedItems depth vs
  | [] => rfl
  | [v] => by
    rw [itemsIn, writeIn_indented, indentedItems]
    rfl
  | v :: w :: vs => by
    rw [itemsIn, writeIn_indented, itemsIn_indented, indentedItems, List.append_assoc]
    rfl

theorem membersIn_indented (depth : Nat) :
    (ms : List (String × Json)) → membersIn .indented depth ms = indentedMembers depth ms
  | [] => rfl
  | [(k, v)] => by
    rw [membersIn, writeIn_indented, indentedMembers, List.append_assoc]
    rfl
  | (k, v) :: w :: vs => by
    rw [membersIn, writeIn_indented, membersIn_indented, indentedMembers, List.append_assoc]
    rfl

end

/-- Goes on with `k` after the tokens, or ends with the first broken one. The tokens before them are kept
last first. -/
def resume (k : List Token → List Token) : List Token → List Token → List Token
  | ts, [] => k ts
  | ts, t :: more => if t.isBroken then (t :: ts).reverse else resume k (t :: ts) more

theorem resume_append (k : List Token → List Token) (ts xs ys : List Token) :
    resume k ts (xs ++ ys) = resume (fun us => resume k us ys) ts xs := by
  induction xs generalizing ts with
  | nil => rfl
  | cons x xs ih =>
    rw [List.cons_append, resume, resume]
    split
    · rfl
    · exact ih (x :: ts)

theorem resume_of_any_eq_false {k : List Token → List Token} {xs : List Token}
    (h : xs.any Token.isBroken = false) (ts : List Token) :
    resume k ts xs = k (xs.reverse ++ ts) := by
  induction xs generalizing ts with
  | nil => rfl
  | cons x xs ih =>
    simp only [List.any_cons, Bool.or_eq_false_iff] at h
    rw [resume, if_neg (by simp [h.1]), ih h.2, List.reverse_cons, List.append_assoc]
    rfl

theorem any_isBroken_resume {k : List Token → List Token} {xs : List Token}
    (h : xs.any Token.isBroken = true) (ts : List Token) :
    (resume k ts xs).any Token.isBroken = true := by
  induction xs generalizing ts with
  | nil => simp at h
  | cons x xs ih =>
    rw [resume]
    split
    next hx => simp [hx]
    next hx => exact ih (by simpa [hx] using h) (x :: ts)

/-- What may follow a numeral or a word. -/
def Ends (rest : List Char) : Prop := ∀ c ∈ rest.head?, c ∈ [',', ']', '\x7d', ' ', '\n']

theorem Ends.nil : Ends [] := by simp [Ends]

theorem Ends.cons {c : Char} (rest : List Char) (h : c ∈ [',', ']', '\x7d', ' ', '\n']) :
    Ends (c :: rest) := by
  intro d hd
  obtain rfl : c = d := by simpa using hd
  exact h

theorem Ends.gap {cs : List Char} (h : ∀ c ∈ cs, c = ' ' ∨ c = '\n') {rest : List Char}
    (hrest : Ends rest) : Ends (cs ++ rest) := by
  cases cs with
  | nil => exact hrest
  | cons c cs =>
    rcases h c List.mem_cons_self with rfl | rfl
    · exact .cons _ (by decide)
    · exact .cons _ (by decide)

def mark? : Char → Option Token
  | '[' => some .openArray
  | ']' => some .closeArray
  | '\x7b' => some .openObject
  | '\x7d' => some .closeObject
  | ',' => some .comma
  | ':' => some .colon
  | _ => none

theorem isBroken_of_mark? {c : Char} {t : Token} (h : mark? c = some t) : t.isBroken = false := by
  unfold mark? at h
  split at h <;> cases h <;> rfl

def scalarToken? (form : Form) : Json → Option Token
  | .null => some (wordToken form "null" .null)
  | .truth b => some (wordToken form (if b then "true" else "false") (.truth b))
  | .integer n => some (.scalar (.integer n))
  | _ => none

theorem isBroken_of_scalarToken? {form : Form} {v : Json} {t : Token}
    (h : v.scalarToken? form = some t) : t.isBroken = false := by
  unfold scalarToken? at h
  split at h <;> cases h <;> cases form <;> rfl

/-- From wherever a token may begin, the characters before `rest` are lexed as the tokens. The first
argument of `lex` holds the tokens so far, last first. -/
def Makes (lex : List Token → List Char → List Token) (cs rest : List Char) (made : List Token) : Prop :=
  ∀ ts, lex ts (cs ++ rest) = resume (fun us => lex us rest) ts made

/-- What a lexer has to make of the characters that writing uses. -/
structure Lexes (form : Form) (lex : List Token → List Char → List Token) : Prop where
  nil : ∀ ts, lex ts [] = ts.reverse
  blank : ∀ c, c = ' ' ∨ c = '\n' → ∀ ts cs, lex ts (c :: cs) = lex ts cs
  mark : ∀ c t, mark? c = some t → ∀ ts cs, lex ts (c :: cs) = lex (t :: ts) cs
  text : ∀ s rest, Makes lex (writeText s) rest [textToken form s]
  scalar : ∀ (v : Json) t, v.scalarToken? form = some t → v.IsWhole → ∀ rest, Ends rest →
    ∀ ts, lex ts (v.writeCompact ++ rest) = lex (t :: ts) rest

section Makes

variable {form : Form} {lex : List Token → List Char → List Token} {rest : List Char}

theorem Makes.append {xs ys : List Char} {a b : List Token} (hx : Makes lex xs (ys ++ rest) a)
    (hy : Makes lex ys rest b) : Makes lex (xs ++ ys) rest (a ++ b) := by
  intro ts
  rw [List.append_assoc, hx ts, resume_append, funext hy]

variable (h : Lexes form lex)

include h

theorem Lexes.makes_blanks {bs : List Char} (hb : ∀ c ∈ bs, c = ' ' ∨ c = '\n') :
    Makes lex bs rest [] := by
  intro ts
  induction bs with
  | nil => rfl
  | cons b bs ih =>
    simp only [List.forall_mem_cons] at hb
    rw [List.cons_append, h.blank b hb.1, ih hb.2]

theorem Lexes.makes_mark {c : Char} {t : Token} (hc : mark? c = some t) : Makes lex [c] rest [t] := by
  intro ts
  rw [resume, isBroken_of_mark? hc]
  exact h.mark c t hc ts rest

theorem Lexes.makes_scalar {v : Json} {t : Token} (ht : v.scalarToken? form = some t)
    (hv : v.IsWhole) (hrest : Ends rest) : Makes lex v.writeCompact rest [t] := by
  intro ts
  rw [resume, isBroken_of_scalarToken? ht]
  exact h.scalar v t ht hv rest hrest ts

end Makes

namespace Lexes

variable {form : Form} {lex : List Token → List Char → List Token} (h : Lexes form lex) (l : Layout)

include h

mutual

theorem makes_writeIn (depth : Nat) : (v : Json) → v.IsWhole → {rest : List Char} → Ends rest →
    Makes lex (v.writeIn l depth) rest (v.tokens form)
  | .null, hv, _, hrest => h.makes_scalar (v := .null) rfl hv hrest
  | .truth b, hv, _, hrest => h.makes_scalar (v := .truth b) rfl hv hrest
  | .integer n, hv, _, hrest => h.makes_scalar (v := .integer n) rfl hv hrest
  | .double x, hv, _, _ => hv.elim
  | .text s, _, rest, _ => h.text s rest
  | .array [], _, _, _ => (h.makes_mark rfl).append (h.makes_mark rfl)
  | .array (v :: vs), hv, rest, _ => by
    have hgap := l.gap_blank depth
    have hitems := makes_itemsIn (depth + 1) (v :: vs) hv (.gap hgap (.cons rest (c := ']') (by decide)))
    refine (h.makes_mark rfl).append (Makes.append ?_ ((h.makes_blanks hgap).append (h.makes_mark rfl)))
    simpa using hitems
  | .object [], _, _, _ => (h.makes_mark rfl).append (h.makes_mark rfl)
  | .object (m :: ms), hv, rest, _ => by
    have hgap := l.gap_blank depth
    have hmembers :=
      makes_membersIn (depth + 1) (m :: ms) hv (.gap hgap (.cons rest (c := '\x7d') (by decide)))
    refine (h.makes_mark rfl).append (Makes.append ?_ ((h.makes_blanks hgap).append (h.makes_mark rfl)))
    simpa using hmembers

theorem makes_itemsIn (depth : Nat) : (vs : List Json) → ItemsWhole vs → {rest : List Char} → Ends rest →
    Makes lex (itemsIn l depth vs) rest (itemTokens form vs)
  | [], _, _, _ => fun _ => rfl
  | [v], hv, _, hrest => (h.makes_blanks (l.gap_blank depth)).append (makes_writeIn depth v hv.1 hrest)
  | v :: w :: vs, hv, _, hrest =>
    (h.makes_blanks (l.gap_blank depth)).append
      ((makes_writeIn depth v hv.1 (.cons _ (by decide))).append
        ((h.makes_mark rfl).append (makes_itemsIn depth (w :: vs) hv.2 hrest)))

theorem makes_membersIn (depth : Nat) : (ms : List (String × Json)) → MembersWhole ms →
    {rest : List Char} → Ends rest → Makes lex (membersIn l depth ms) rest (memberTokens form ms)
  | [], _, _, _ => fun _ => rfl
  | [(k, v)], hv, _, hrest =>
    (h.makes_blanks (l.gap_blank depth)).append
      ((h.text k _).append ((h.makes_mark rfl).append
        ((h.makes_blanks l.space_blank).append (makes_writeIn depth v hv.1 hrest))))
  | (k, v) :: w :: vs, hv, _, hrest =>
    (h.makes_blanks (l.gap_blank depth)).append
      ((h.text k _).append ((h.makes_mark rfl).append
        ((h.makes_blanks l.space_blank).append
          ((makes_writeIn depth v hv.1 (.cons _ (by decide))).append
            ((h.makes_mark rfl).append (makes_membersIn depth (w :: vs) hv.2 hrest))))))

end

theorem lex_writeIn {v : Json} (hv : v.IsWhole) (depth : Nat) :
    lex [] (v.writeIn l depth) = resume List.reverse [] (v.tokens form) := by
  have hall := h.makes_writeIn l depth v hv .nil []
  rwa [List.append_nil, funext h.nil] at hall

end Lexes

end Eligibility.Json
