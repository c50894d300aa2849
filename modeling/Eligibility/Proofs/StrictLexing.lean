import Eligibility.Json.Strict
import Eligibility.Proofs.WrittenNumerals
import Eligibility.Proofs.WrittenTokens
import Mathlib.Tactic.IntervalCases

/-!
Strict JSON reads back the tokens that writing puts down: every text whatever its characters are, every
word, and every integer of a signed machine integer.
-/

set_option autoImplicit false

namespace Eligibility.Json

theorem hexValue?_hexDigit : ∀ n < 16, hexValue? (hexDigit n) = some n := by decide

theorem not_half_of_lt {n : Nat} (h : n < 0x20) : isHighHalf n = false ∧ isLowHalf n = false := by
  simp [isHighHalf, isLowHalf]
  omega

theorem hexValues_control {c : Char} (h : c.toNat < 0x20) :
    hexValue? '0' = some 0 ∧ hexValue? (hexDigit (c.toNat / 16)) = some (c.toNat / 16) ∧
      hexValue? (hexDigit (c.toNat % 16)) = some (c.toNat % 16) ∧
      16 * (c.toNat / 16) + c.toNat % 16 = c.toNat :=
  ⟨by decide, hexValue?_hexDigit _ (by omega), hexValue?_hexDigit _ (by omega), by omega⟩

namespace Strict

namespace Lexing

def run (x : Lexing) (cs : List Char) : Lexing := cs.foldl step x

@[simp] theorem run_nil (x : Lexing) : x.run [] = x := rfl

@[simp] theorem run_cons (x : Lexing) (c : Char) (cs : List Char) : x.run (c :: cs) = (x.step c).run cs :=
  rfl

theorem run_append (x : Lexing) (cs ds : List Char) : x.run (cs ++ ds) = (x.run cs).run ds :=
  List.foldl_append

end Lexing

open Lexing

def lex (ts : List Token) (cs : List Char) : List Token := (run ⟨.between, ts⟩ cs).finish

section Texts

variable (chars : List Char) (ts : List Token)

def inText : Lexing := ⟨.string ⟨chars, none, true⟩, ts⟩

theorem run_control {c : Char} (h : c.toNat < 0x20) :
    (inText chars ts).run ['\\', 'u', '0', '0', hexDigit (c.toNat / 16), hexDigit (c.toNat % 16)] =
      inText (c :: chars) ts := by
  obtain ⟨hzero, hfst, hsnd, hvalue⟩ := hexValues_control h
  have hhalf := not_half_of_lt h
  simp [inText, step, stepString, stepEscape, stepUnicode, enter, hfst, hsnd, hzero, hvalue,
    Gathered.addUnit, Gathered.add, hhalf]

theorem run_escaped (c : Char) : (inText chars ts).run (escaped c) = inText (c :: chars) ts := by
  unfold escaped
  split
  case h_8 hquote hback _ _ _ _ _ =>
    have hplain : c ≠ '"' ∧ c ≠ '\\' := ⟨hquote, hback⟩
    split
    next h => exact run_control chars ts h
    next h => simp [inText, step, stepString, enter, Gathered.add, hplain, h]
  all_goals rfl

theorem run_escapeds (cs : List Char) :
    (inText chars ts).run (cs.flatMap escaped) = inText (cs.reverse ++ chars) ts := by
  induction cs generalizing chars with
  | nil => rfl
  | cons c cs ih => simp [run_append, run_escaped, ih]

theorem lex_writeText (s : String) (rest : List Char) :
    lex ts (writeText s ++ rest) = lex (.text (.ok s) :: ts) rest := by
  have hopen : run ⟨.between, ts⟩ ['"'] = inText [] ts := rfl
  have hclose : (inText s.toList.reverse ts).run ['"'] = ⟨.between, .text (.ok s) :: ts⟩ := by
    simp [inText, step, stepString, emit, Gathered.finish]
  have hparts : writeText s ++ rest = ['"'] ++ (s.toList.flatMap escaped ++ (['"'] ++ rest)) := by
    simp [writeText]
  rw [lex, hparts, run_append, hopen, run_append, run_escapeds, List.append_nil, run_append, hclose]
  rfl

end Texts

section Numerals

variable (ts : List Token)

/-- Inside a whole numeral, with its digits last first. -/
def inWhole (phase : Phase) (negative : Bool) (ds : List Char) : Lexing :=
  ⟨.numeral phase ⟨negative, ds, [], false, []⟩, ts⟩

theorem run_digits (negative : Bool) {ds : List Char} (h : ∀ c ∈ ds, c.isDigit = true) (before : List Char) :
    (inWhole ts .whole negative before).run ds = inWhole ts .whole negative (ds.reverse ++ before) := by
  induction ds generalizing before with
  | nil => rfl
  | cons d ds ih =>
    simp only [List.forall_mem_cons] at h
    have hstep : (inWhole ts .whole negative before).step d = inWhole ts .whole negative (d :: before) := by
      simp [inWhole, step, stepNumeral, extend?, enter, h.1]
    rw [run_cons, hstep, ih h.2]
    simp

theorem run_toDigits (n : Nat) : ∃ phase, (phase = .zero ∨ phase = .whole) ∧
    run ⟨.between, ts⟩ (Nat.toDigits 10 n) = inWhole ts phase false (Nat.toDigits 10 n).reverse ∧
    (inWhole ts .minus true []).run (Nat.toDigits 10 n) =
      inWhole ts phase true (Nat.toDigits 10 n).reverse := by
  rcases Nat.eq_zero_or_pos n with rfl | hn
  · exact ⟨.zero, .inl rfl, rfl, rfl⟩
  · obtain ⟨k, ds, heq, hk, hk', hds⟩ := exists_toDigits_eq_cons hn
    have hfirst : step ⟨.between, ts⟩ (Nat.digitChar k) = inWhole ts .whole false [Nat.digitChar k] ∧
        (inWhole ts .minus true []).step (Nat.digitChar k) = inWhole ts .whole true [Nat.digitChar k] := by
      interval_cases k <;> exact ⟨rfl, rfl⟩
    refine ⟨.whole, .inr rfl, ?_, ?_⟩
    · rw [heq, run_cons, hfirst.1, run_digits ts false hds, List.reverse_cons]
    · rw [heq, run_cons, hfirst.2, run_digits ts true hds, List.reverse_cons]

theorem finish_run_inWhole {phase : Phase} (hphase : phase = .zero ∨ phase = .whole) (negative : Bool)
    (ds : List Char) {rest : List Char} (hrest : Ends rest) :
    ((inWhole ts phase negative ds).run rest).finish =
      lex (.scalar (Numeral.strictDocument ⟨negative, ds.reverse, none, none⟩) :: ts) rest := by
  cases rest with
  | nil => rcases hphase with rfl | rfl <;> rfl
  | cons c cs =>
    have hc := hrest c rfl
    simp only [List.mem_cons, List.not_mem_nil, or_false] at hc
    rcases hphase with rfl | rfl <;> rcases hc with rfl | rfl | rfl | rfl | rfl <;> rfl

theorem lex_writeInteger {n : Int} (hn : (Json.integer n).IsWhole) {rest : List Char} (hrest : Ends rest) :
    lex ts (writeInteger n ++ rest) = lex (.scalar (.integer n) :: ts) rest := by
  obtain ⟨phase, hphase, hplain, hminus⟩ := run_toDigits ts n.natAbs
  have hdocument : Numeral.strictDocument ⟨n < 0, Nat.toDigits 10 n.natAbs, none, none⟩ = .integer n :=
    Numeral.strictDocument_ofInt hn
  have hrun : run ⟨.between, ts⟩ (writeInteger n) =
      inWhole ts phase (n < 0) (Nat.toDigits 10 n.natAbs).reverse := by
    unfold writeInteger
    split
    next h =>
      rw [run_cons, decide_eq_true h]
      exact hminus
    next h => rw [hplain, decide_eq_false h]
  rw [lex, run_append, hrun, finish_run_inWhole ts hphase _ _ hrest, List.reverse_reverse, hdocument]

end Numerals

theorem lex_scalar {v : Json} {t : Token} (ht : v.scalarToken? .strict = some t) (hv : v.IsWhole)
    {rest : List Char} (hrest : Ends rest) (ts : List Token) :
    lex ts (v.writeCompact ++ rest) = lex (t :: ts) rest := by
  unfold scalarToken? at ht
  split at ht
  case h_1 => cases ht; rfl
  case h_2 b => cases ht; cases b <;> rfl
  case h_3 n => cases ht; exact lex_writeInteger ts hv hrest
  case h_4 => cases ht

theorem lex_mark {c : Char} {t : Token} (h : mark? c = some t) (ts : List Token) (cs : List Char) :
    lex ts (c :: cs) = lex (t :: ts) cs := by
  unfold mark? at h
  split at h <;> cases h <;> rfl

theorem lexes : Lexes .strict lex where
  nil _ := rfl
  blank c hc _ _ := by rcases hc with rfl | rfl <;> rfl
  mark c t h ts cs := lex_mark h ts cs
  text s rest ts := lex_writeText ts s rest
  scalar _ _ ht hv _ hrest ts := lex_scalar ht hv hrest ts

/-- A written value is read as its own tokens. -/
theorem tokens_writeIn {v : Json} (hv : v.IsWhole) (l : Layout) :
    tokens (v.writeIn l 0) = v.tokens .strict := by
  have hwhole : (v.tokens .strict).any Token.isBroken = false := any_isBroken_tokens .strict v
  have hlex : lex [] (v.writeIn l 0) = resume List.reverse [] (v.tokens .strict) :=
    lexes.lex_writeIn l hv 0
  rw [resume_of_any_eq_false hwhole, List.append_nil, List.reverse_reverse] at hlex
  exact hlex

end Strict

end Eligibility.Json
