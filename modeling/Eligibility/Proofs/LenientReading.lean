import Eligibility.Proofs.JsonGrammar
import Eligibility.Proofs.TokenReading

/-!
A reader of relaxed documents that reads all of the grammar of JSON. The reader in use refuses a text with a
line or a paragraph separator in it; JSON5 as specified lets both stand there, and so does this one.
-/

set_option autoImplicit false

namespace Eligibility.Json

namespace Relaxed

def Lexing.stepLenient (x : Lexing) (c : Char) : Lexing :=
  match x.mode with
  | .string quote ps | .continued quote ps =>
    if isSeparator c then x.enter (.string quote (.plain c :: ps)) else x.step c
  | _ => x.step c

def lenientTokens (cs : List Char) : List Token := (cs.foldl Lexing.stepLenient Lexing.start).finish

end Relaxed

def readLenient? (s : String) : Option Document := wholeDocument? (Relaxed.lenientTokens s.toList)

namespace Relaxed.Lenient

open Lexing Grammar

def run (x : Lexing) (cs : List Char) : Lexing := cs.foldl stepLenient x

@[simp] theorem run_cons (x : Lexing) (c : Char) (cs : List Char) :
    run x (c :: cs) = run (x.stepLenient c) cs := rfl

def lex (ts : List Token) (cs : List Char) : List Token := (run ⟨.between, ts⟩ cs).finish

theorem lex_gap {cs rest : List Char} (h : Gap cs rest) (ts : List Token) : lex ts cs = lex ts rest := by
  induction h with
  | none => rfl
  | @more c cs rest hc _ ih =>
    rw [← ih]
    simp only [List.mem_cons, List.not_mem_nil, or_false] at hc
    rcases hc with rfl | rfl | rfl | rfl <;> rfl

section Texts

variable (ps : List Piece) (ts : List Token)

theorem run_plain {c : Char} (hquote : c ≠ '"') (hback : c ≠ '\\') (hc : 0x20 ≤ c.toNat) (cs : List Char) :
    run (inText ps ts) (c :: cs) = run (inText (.plain c :: ps) ts) cs := by
  have hends : isLineEnd c = isSeparator c := isLineEnd_eq_isSeparator (Nat.not_lt.mpr hc)
  cases hs : isSeparator c <;>
    simp [inText, stepLenient, step, stepString, enter, hquote, hback, hends, hs]

theorem run_letter {l c : Char} (h : (l, c) ∈ letters) (cs : List Char) :
    run (inText ps ts) ('\\' :: l :: cs) = run (inText (.character l c :: ps) ts) cs := by
  simp only [letters, List.mem_cons, Prod.mk.injEq, List.not_mem_nil, or_false] at h
  rcases h with ⟨rfl, rfl⟩ | ⟨rfl, rfl⟩ | ⟨rfl, rfl⟩ | ⟨rfl, rfl⟩ | ⟨rfl, rfl⟩ | ⟨rfl, rfl⟩ | ⟨rfl, rfl⟩ |
    ⟨rfl, rfl⟩ <;> rfl

theorem run_number {h i j k : Char} {n : Nat} (hn : hexNumber? [h, i, j, k] = some n) (cs : List Char) :
    run (inText ps ts) ('\\' :: 'u' :: h :: i :: j :: k :: cs) = run (inText (.unit n :: ps) ts) cs := by
  simp only [hexNumber?, List.foldl_cons, List.foldl_nil, Option.bind_eq_bind, Option.bind_some,
    Option.bind_eq_some_iff, Option.pure_def, Option.some.injEq] at hn
  obtain ⟨_, ⟨_, ⟨_, ⟨a, ha, rfl⟩, b, hb, rfl⟩, c, hc, rfl⟩, d, hd, rfl⟩ := hn
  have hback : isSeparator '\\' = false := by decide
  have hends : isLineEnd '\\' = false ∧ isLineEnd 'u' = false := by decide
  simp [inText, stepLenient, step, stepString, stepEscape, stepDigit, enter, hback, hends, ha, hb, hc, hd]

/-- Inside a text the characters write `s`, and then the text is over. -/
def Closes (cs s rest : List Char) : Prop := ∀ ps, ∃ qs, charsOf qs = .ok s ∧
  run (inText ps ts) cs = run ⟨.between, .text (textOf (qs.reverse ++ ps)) :: ts⟩ rest

theorem Closes.cons {p : Piece} {c : Char} {cs ds s rest : List Char} (hp : p.Writes c)
    (hrun : ∀ ps, run (inText ps ts) cs = run (inText (p :: ps) ts) ds) (h : Closes ts ds s rest) :
    Closes ts cs (c :: s) rest := by
  intro ps
  obtain ⟨qs, hqs, hclose⟩ := h (p :: ps)
  refine ⟨p :: qs, ?_, ?_⟩
  · rw [hp qs, hqs]
    rfl
  · rw [hrun, hclose, List.reverse_cons, List.append_assoc]
    rfl

theorem closes_of_chars {cs s rest : List Char} (h : Chars cs s rest) : Closes ts cs s rest := by
  induction h with
  | close => exact fun ps => ⟨[], rfl, rfl⟩
  | plain hquote hback hc _ ih =>
    exact ih.cons ts (Piece.writes_character _ _) fun ps => run_plain ps ts hquote hback hc _
  | letter hl _ ih => exact ih.cons ts (Piece.writes_character _ _) fun ps => run_letter ps ts hl _
  | number hn hhigh hlow _ ih =>
    exact ih.cons ts (Piece.writes_unit hhigh hlow) fun ps => run_number ps ts hn _

theorem lex_chars {cs s rest : List Char} (h : Chars cs s rest) :
    lex ts ('"' :: cs) = lex (.text (.ok (String.ofList s)) :: ts) rest := by
  obtain ⟨qs, hqs, hrun⟩ := closes_of_chars ts h []
  have htext : textOf (qs.reverse ++ []) = .ok (String.ofList s) := by simp [textOf, hqs]
  have hopen : lex ts ('"' :: cs) = (run (inText [] ts) cs).finish := rfl
  rw [hopen, hrun, htext]
  rfl

end Texts

def partTokens : Part → List Token
  | .value v | .element v => v.tokens .strict
  | .elements vs => itemTokens .strict vs
  | .member k v => memberTokens .strict [(k, v)]
  | .members ms => memberTokens .strict ms

theorem lex_mark {c : Char} {t : Token} (h : mark? c = some t) (ts : List Token) (cs : List Char) :
    lex ts (c :: cs) = lex (t :: ts) cs := by
  unfold mark? at h
  split at h <;> cases h <;> rfl

theorem lex_writes {cs rest : List Char} {p : Part} (h : Writes cs p rest) (ts : List Token) :
    lex ts cs = lex ((partTokens p).reverse ++ ts) rest := by
  induction h generalizing ts with
  | text h => exact lex_chars ts h
  | emptyArray h =>
    rw [lex_mark rfl, lex_gap h, lex_mark rfl]
    rfl
  | array _ ih =>
    rw [lex_mark rfl, ih, lex_mark rfl]
    simp [partTokens, Json.tokens]
  | emptyObject h =>
    rw [lex_mark rfl, lex_gap h, lex_mark rfl]
    rfl
  | object _ ih =>
    rw [lex_mark rfl, ih, lex_mark rfl]
    simp [partTokens, Json.tokens]
  | element hbefore _ hafter ih => rw [lex_gap hbefore, ih, lex_gap hafter, partTokens]; rfl
  | lastElement _ ih => exact ih ts
  | nextElement _ _ ih ihs =>
    rw [ih, lex_mark rfl, ihs]
    simp [partTokens, itemTokens]
  | member hbefore hkey hafter _ ih =>
    rw [lex_gap hbefore, lex_chars ts hkey, lex_gap hafter, lex_mark rfl, ih]
    simp [partTokens, memberTokens, textToken]
  | lastMember _ ih => exact ih ts
  | nextMember _ _ ih ihs =>
    rw [ih, lex_mark rfl, ihs]
    simp [partTokens, memberTokens]

theorem lenientTokens_of_writes {v : Json} {cs : List Char} (h : Writes cs (.element v) []) :
    lenientTokens cs = v.tokens .strict := by
  have hlex := lex_writes h []
  have hend : lex ((v.tokens .strict).reverse ++ []) [] = v.tokens .strict := by simp [lex, run, finish]
  exact hlex.trans hend

end Relaxed.Lenient

theorem readsGrammar_readLenient? : ReadsGrammar readLenient? := by
  intro s v h
  have hbroken : (v.tokens .strict).any Token.isBroken = false := any_isBroken_tokens .strict v
  rw [readLenient?, Relaxed.Lenient.lenientTokens_of_writes h, wholeDocument?,
    readTokens_tokens hbroken (by simp)]
  simp [skippable_toDocument]

end Eligibility.Json
