import Eligibility.Json.Relaxed
import Eligibility.Proofs.ClockTimes
import Eligibility.Proofs.StrictLexing
import Eligibility.Proofs.WrittenNumerals
import Eligibility.Proofs.WrittenTokens
import Mathlib.Data.List.TakeWhile
import Mathlib.Tactic.IntervalCases

/-!
Relaxed JSON reads back the tokens that writing puts down, up to the first text with a line or a paragraph
separator. Writing leaves these two raw, and a relaxed document that has one inside a text is not well
formed.
-/

set_option autoImplicit false

namespace Eligibility.Json.Relaxed

/-- In front of any pieces, this piece writes this character. -/
def Piece.Writes (p : Piece) (c : Char) : Prop :=
  ∀ rest, charsOf (p :: rest) = (c :: ·) <$> charsOf rest

theorem Piece.writes_character (letter c : Char) : (Piece.character letter c).Writes c := fun _ => rfl

theorem Piece.writes_unit {n : Nat} (hhigh : isHighHalf n = false) (hlow : isLowHalf n = false) :
    (Piece.unit n).Writes (Char.ofNat n) := by
  intro rest
  cases rest <;> simp [charsOf, hhigh, hlow]

namespace Lexing

def run (x : Lexing) (cs : List Char) : Lexing := cs.foldl step x

@[simp] theorem run_nil (x : Lexing) : x.run [] = x := rfl

@[simp] theorem run_cons (x : Lexing) (c : Char) (cs : List Char) : x.run (c :: cs) = (x.step c).run cs :=
  rfl

theorem run_append (x : Lexing) (cs ds : List Char) : x.run (cs ++ ds) = (x.run cs).run ds :=
  List.foldl_append

theorem run_dead (ts : List Token) (cs : List Char) : run ⟨.dead, ts⟩ cs = ⟨.dead, ts⟩ := by
  induction cs with
  | nil => rfl
  | cons c cs ih => exact ih

end Lexing

open Lexing

def lex (ts : List Token) (cs : List Char) : List Token := (run ⟨.between, ts⟩ cs).finish

theorem isLineEnd_eq_isSeparator {c : Char} (h : ¬ c.toNat < 0x20) : isLineEnd c = isSeparator c := by
  have hends : c ≠ '\n' ∧ c ≠ '\r' := by
    constructor
    · rintro rfl; exact h (by decide)
    · rintro rfl; exact h (by decide)
  simp [isLineEnd, isSeparator, hends]

section Texts

variable (ps : List Piece) (ts : List Token)

def inText : Lexing := ⟨.string '"' ps, ts⟩

theorem run_control {c : Char} (h : c.toNat < 0x20) :
    (inText ps ts).run ['\\', 'u', '0', '0', hexDigit (c.toNat / 16), hexDigit (c.toNat % 16)] =
      inText (.unit c.toNat :: ps) ts := by
  obtain ⟨hzero, hfst, hsnd, hvalue⟩ := hexValues_control h
  have hends : isLineEnd '\\' = false ∧ isLineEnd 'u' = false := by decide
  simp [inText, step, stepString, stepEscape, stepDigit, enter, hfst, hsnd, hzero, hvalue, hends]

theorem run_escaped {c : Char} (hc : isSeparator c = false) :
    ∃ p : Piece, p.Writes c ∧ (inText ps ts).run (Json.escaped c) = inText (p :: ps) ts := by
  unfold Json.escaped
  split
  case h_8 hquote hback _ _ _ _ _ =>
    have hplain : c ≠ '"' ∧ c ≠ '\\' := ⟨hquote, hback⟩
    split
    next h =>
      obtain ⟨hhigh, hlow⟩ := not_half_of_lt h
      have hunit := Piece.writes_unit hhigh hlow
      rw [Char.ofNat_toNat] at hunit
      exact ⟨_, hunit, run_control ps ts h⟩
    next h =>
      refine ⟨.plain c, Piece.writes_character c c, ?_⟩
      simp [inText, step, stepString, enter, hplain, isLineEnd_eq_isSeparator h, hc]
  all_goals exact ⟨_, Piece.writes_character _ _, rfl⟩

theorem run_separator {c : Char} (hc : isSeparator c = true) :
    (inText ps ts).run (Json.escaped c) = ⟨.dead, .broken :: ts⟩ := by
  have hnat : c.toNat = 0x2028 ∨ c.toNat = 0x2029 := by simpa [isSeparator] using hc
  have hchar : c = '\u2028' ∨ c = '\u2029' := hnat.imp (Char.toNat_inj.mp ·) (Char.toNat_inj.mp ·)
  rcases hchar with rfl | rfl <;> rfl

theorem run_escapeds {cs : List Char} (h : cs.any isSeparator = false) :
    ∃ qs, charsOf qs = .ok cs ∧
      (inText ps ts).run (cs.flatMap Json.escaped) = inText (qs.reverse ++ ps) ts := by
  induction cs generalizing ps with
  | nil => exact ⟨[], rfl, rfl⟩
  | cons c cs ih =>
    simp only [List.any_cons, Bool.or_eq_false_iff] at h
    obtain ⟨p, hp, hrun⟩ := run_escaped ps ts h.1
    obtain ⟨qs, hqs, hruns⟩ := ih (p :: ps) h.2
    refine ⟨p :: qs, ?_, ?_⟩
    · rw [hp qs, hqs]
      rfl
    · rw [List.flatMap_cons, run_append, hrun, hruns, List.reverse_cons, List.append_assoc]
      rfl

theorem run_separators {cs : List Char} (h : cs.any isSeparator = true) :
    (inText ps ts).run (cs.flatMap Json.escaped) = ⟨.dead, .broken :: ts⟩ := by
  induction cs generalizing ps with
  | nil => simp at h
  | cons c cs ih =>
    rw [List.flatMap_cons, run_append]
    cases hc : isSeparator c with
    | true => rw [run_separator ps ts hc, run_dead]
    | false =>
      obtain ⟨p, -, hrun⟩ := run_escaped ps ts hc
      rw [hrun]
      exact ih (p :: ps) (by simpa [hc] using h)

theorem makes_writeText (s : String) (rest : List Char) :
    Makes lex (writeText s) rest [textToken .relaxed s] := by
  intro ts
  have hopen : run ⟨.between, ts⟩ ['"'] = inText [] ts := rfl
  have hparts : writeText s ++ rest = ['"'] ++ (s.toList.flatMap Json.escaped ++ (['"'] ++ rest)) := by
    simp [writeText]
  rw [lex, hparts, run_append, hopen, run_append]
  cases hs : hasSeparator s with
  | true =>
    have htoken : textToken .relaxed s = .broken := by simp [textToken, hs]
    rw [run_separators [] ts hs, run_dead, htoken]
    rfl
  | false =>
    obtain ⟨qs, hqs, hrun⟩ := run_escapeds [] ts hs
    have htoken : textToken .relaxed s = .text (.ok s) := by simp [textToken, hs]
    have hclose : (inText qs.reverse ts).run ['"'] = ⟨.between, .text (.ok s) :: ts⟩ := by
      simp [inText, step, stepString, emit, textOf, hqs]
    rw [hrun, List.append_nil, run_append, hclose, htoken]
    rfl

end Texts

section Numerals

/-- Digits without a zero in front, unless they are the zero. -/
structure Whole (ds : List Char) : Prop where
  nonempty : ds ≠ []
  digits : ∀ c ∈ ds, c.isDigit = true
  zero : ds.head? = some '0' → ds = ['0']

theorem whole_toDigits (n : Nat) : Whole (Nat.toDigits 10 n) := by
  rcases Nat.eq_zero_or_pos n with rfl | hn
  · have hzero : Nat.toDigits 10 0 = ['0'] := rfl
    rw [hzero]
    exact ⟨by simp, by simp, fun _ => rfl⟩
  · obtain ⟨k, ds, heq, hk, hk', hds⟩ := exists_toDigits_eq_cons hn
    have hfirst : (Nat.digitChar k).isDigit = true ∧ Nat.digitChar k ≠ '0' := by
      interval_cases k <;> decide
    rw [heq]
    exact ⟨by simp, by simpa using ⟨hk', hds⟩, fun h => absurd (by simpa using h) hfirst.2⟩

variable {ds : List Char} (h : Whole ds)

include h

theorem decimal?_whole (negative : Bool) :
    decimal? negative ds = some (Numeral.relaxedDocument ⟨negative, ds, none, none⟩) := by
  have hwhole : ds.takeWhile Char.isDigit = ds := List.takeWhile_eq_self_iff.mpr h.digits
  have hrest : ds.dropWhile Char.isDigit = [] := List.dropWhile_eq_nil_iff.mpr h.digits
  have hfirst : ¬ (1 < ds.length ∧ ds.head? = some '0') := by
    rintro ⟨hlength, hzero⟩
    simp [h.zero hzero] at hlength
  simp only [decimal?, hwhole, hrest]
  simp [exponent?, hfirst, h.nonempty]

theorem splitSign_whole : Binary64.splitSign ds = (false, ds) := by
  unfold Binary64.splitSign
  split
  · exact absurd (h.digits _ List.mem_cons_self) (by decide)
  · exact absurd (h.digits _ List.mem_cons_self) (by decide)
  · rfl

theorem numeral?_whole (negative : Bool) {cs : List Char} (hcs : Binary64.splitSign cs = (negative, ds)) :
    numeral? cs = some (Numeral.relaxedDocument ⟨negative, ds, none, none⟩) := by
  have hname : ∀ c rest, c.isDigit = false → ds ≠ c :: rest := by
    rintro c rest hc rfl
    simp [h.digits c List.mem_cons_self] at hc
  have hinfinity : ds ≠ "Infinity".toList := hname 'I' _ rfl
  have hnan : ds ≠ "NaN".toList := hname 'N' _ rfl
  simp only [numeral?, hcs]
  split
  next x ds' => simpa using h.zero rfl
  next => rw [if_neg hinfinity, if_neg hnan, decimal?_whole h]

end Numerals

theorem numeral?_writeInteger {n : Int} (hn : (Json.integer n).IsWhole) :
    numeral? (writeInteger n) = some (.integer n) := by
  have hds := whole_toDigits n.natAbs
  have hsplit : Binary64.splitSign (writeInteger n) = (decide (n < 0), Nat.toDigits 10 n.natAbs) := by
    unfold writeInteger
    split
    next h => rw [decide_eq_true h]; rfl
    next h => rw [decide_eq_false h]; exact splitSign_whole hds
  rw [numeral?_whole hds _ hsplit]
  exact congrArg some (Numeral.relaxedDocument_ofInt hn)

section Scalars

variable (ts : List Token)

theorem run_digits {ds : List Char} (h : ∀ c ∈ ds, c.isDigit = true) (before : List Char) :
    run ⟨.numeral before, ts⟩ ds = ⟨.numeral (ds.reverse ++ before), ts⟩ := by
  induction ds generalizing before with
  | nil => rfl
  | cons d ds ih =>
    simp only [List.forall_mem_cons] at h
    have hstep : step ⟨.numeral before, ts⟩ d = ⟨.numeral (d :: before), ts⟩ := by
      simp [step, extendsNumeral, Char.isAlphanum, enter, h.1]
    rw [run_cons, hstep, ih h.2, List.reverse_cons, List.append_assoc]
    rfl

theorem step_digit {c : Char} (h : c.isDigit = true) : step ⟨.between, ts⟩ c = ⟨.numeral [c], ts⟩ := by
  have hvalue := Clock.digitValue_lt h
  rw [← Clock.digitChar_digitValue h]
  generalize Binary64.digitValue c = k at hvalue
  interval_cases k <;> rfl

theorem run_whole {ds : List Char} (h : Whole ds) :
    run ⟨.between, ts⟩ ds = ⟨.numeral ds.reverse, ts⟩ := by
  cases ds with
  | nil => exact absurd rfl h.nonempty
  | cons d ds =>
    have hd := h.digits
    simp only [List.forall_mem_cons] at hd
    rw [run_cons, step_digit ts hd.1, run_digits ts hd.2, List.reverse_cons]

theorem run_writeInteger (n : Int) :
    run ⟨.between, ts⟩ (writeInteger n) = ⟨.numeral (writeInteger n).reverse, ts⟩ := by
  have hds := whole_toDigits n.natAbs
  unfold writeInteger
  split
  · rw [run_cons, List.reverse_cons]
    exact run_digits ts hds.digits ['-']
  · exact run_whole ts hds

theorem finish_run_numeral {cs : List Char} {d : Document} (hd : numeral? cs = some d) {rest : List Char}
    (hrest : Ends rest) :
    (run ⟨.numeral cs.reverse, ts⟩ rest).finish = lex (.scalar d :: ts) rest := by
  cases rest with
  | nil => simp [finish, emitNumeral, hd, lex, emit]
  | cons c rest =>
    have hc := hrest c rfl
    have hstep : step ⟨.numeral cs.reverse, ts⟩ c = stepBetween ⟨.between, .scalar d :: ts⟩ c := by
      simp only [List.mem_cons, List.not_mem_nil, or_false] at hc
      rcases hc with rfl | rfl | rfl | rfl | rfl <;> simp [step, extendsNumeral, hd, emit]
    rw [run_cons, hstep]
    rfl

theorem lex_writeInteger {n : Int} (hn : (Json.integer n).IsWhole) {rest : List Char} (hrest : Ends rest) :
    lex ts (writeInteger n ++ rest) = lex (.scalar (.integer n) :: ts) rest := by
  rw [lex, run_append, run_writeInteger, finish_run_numeral ts (numeral?_writeInteger hn) hrest]

theorem finish_run_name (ps : List Piece) {rest : List Char} (hrest : Ends rest) :
    (run ⟨.name ps, ts⟩ rest).finish = lex (.name (textOf ps) (meaningOf ps) :: ts) rest := by
  cases rest with
  | nil => rfl
  | cons c cs =>
    have hc := hrest c rfl
    simp only [List.mem_cons, List.not_mem_nil, or_false] at hc
    rcases hc with rfl | rfl | rfl | rfl | rfl <;> rfl

theorem lex_scalar {v : Json} {t : Token} (ht : v.scalarToken? .relaxed = some t) (hv : v.IsWhole)
    {rest : List Char} (hrest : Ends rest) : lex ts (v.writeCompact ++ rest) = lex (t :: ts) rest := by
  unfold scalarToken? at ht
  split at ht
  case h_1 => cases ht; exact finish_run_name ts _ hrest
  case h_2 b => cases ht; cases b <;> exact finish_run_name ts _ hrest
  case h_3 n => cases ht; exact lex_writeInteger ts hv hrest
  case h_4 => cases ht

end Scalars

theorem lex_mark {c : Char} {t : Token} (h : mark? c = some t) (ts : List Token) (cs : List Char) :
    lex ts (c :: cs) = lex (t :: ts) cs := by
  unfold mark? at h
  split at h <;> cases h <;> rfl

theorem lexes : Lexes .relaxed lex where
  nil _ := rfl
  blank c hc _ _ := by rcases hc with rfl | rfl <;> rfl
  mark c t h ts cs := lex_mark h ts cs
  text s rest := makes_writeText s rest
  scalar _ _ ht hv _ hrest ts := lex_scalar ts ht hv hrest

/-- A written value is read as its own tokens, up to the first text that breaks off. -/
theorem tokens_writeIn {v : Json} (hv : v.IsWhole) (l : Layout) :
    tokens (v.writeIn l 0) = resume List.reverse [] (v.tokens .relaxed) :=
  lexes.lex_writeIn l hv 0

end Eligibility.Json.Relaxed
