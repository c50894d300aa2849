import Eligibility.Condition.Rule
import Eligibility.Proofs.FirstMatch
import Eligibility.Proofs.QuotedSpans

/-!
Clauses whose own text is not well quoted. A quote that opens a span also closes it, so each character only
permutes what a scan may be inside of, and a clause that is well quoted never brings a scan back to its
start. So one broken clause breaks the text of the whole list, wherever it stands; two of them may cancel
each other, and then nothing is reported.
-/

set_option autoImplicit false

namespace Eligibility

namespace Quoting

namespace Scan

def IsProper (s : Scan) : Prop := ∀ q ∈ s.quote, isQuote q = true

theorem isProper_start : start.IsProper := by simp [IsProper, start]

variable {s t : Scan}

theorem IsProper.step (h : s.IsProper) (c : Char) : (s.step c).IsProper := by
  unfold Scan.step
  split
  next q hq =>
    split
    · simp [IsProper]
    · exact h
  next =>
    split
    next hc => simpa [IsProper] using hc
    next =>
      split
      · simp [IsProper]
      · split
        · simp [IsProper]
        · exact h

theorem IsProper.run (h : s.IsProper) (cs : List Char) : (cs.foldl Scan.step s).IsProper := by
  induction cs generalizing s with
  | nil => exact h
  | cons c cs ih => exact ih (h.step c)

/-- What is open after a character, read off what was open before it. -/
def turn (c : Char) (quote : Option Char) : Option Char :=
  if isQuote c then
    if quote = none then some c else if quote = some c then none else quote
  else quote

theorem quote_step (h : s.IsProper) (c : Char) : (s.step c).quote = turn c s.quote := by
  obtain ⟨depth, quote⟩ := s
  unfold turn
  cases quote with
  | none =>
    by_cases hc : isQuote c = true
    · simp [Scan.step, hc]
    · by_cases ho : c = '('
      · subst ho; rfl
      · by_cases hcl : c = ')'
        · subst hcl; rfl
        · simp [Scan.step, hc, ho, hcl]
  | some q =>
    have hq : isQuote q = true := h q rfl
    by_cases hc : c = q
    · subst hc
      simp [Scan.step, hq]
    · simp [Scan.step, hc, Ne.symm hc]

theorem turn_injective {c : Char} {p q : Option Char} (h : turn c p = turn c q) : p = q := by
  unfold turn at h
  grind

theorem quote_step_injective (hs : s.IsProper) (ht : t.IsProper) (c : Char)
    (h : (s.step c).quote = (t.step c).quote) : s.quote = t.quote := by
  rw [quote_step hs, quote_step ht] at h
  exact turn_injective h

/-- Two scans of one text that end inside the same quote, or both outside, began so. -/
theorem quote_run_injective (hs : s.IsProper) (ht : t.IsProper) (cs : List Char)
    (h : (cs.foldl Scan.step s).quote = (cs.foldl Scan.step t).quote) : s.quote = t.quote := by
  induction cs generalizing s t with
  | nil => exact h
  | cons c cs ih => exact quote_step_injective hs ht c (ih (hs.step c) (ht.step c) h)

def deeper (d : Int) (s : Scan) : Scan := ⟨s.depth + d, s.quote⟩

theorem step_deeper (d : Int) (c : Char) : (s.deeper d).step c = (s.step c).deeper d := by
  simp only [Scan.step, deeper]
  split
  · split <;> rfl
  · split
    · rfl
    · split
      · simp only [Scan.mk.injEq, and_true]; omega
      · split
        · simp only [Scan.mk.injEq, and_true]; omega
        · rfl

theorem run_deeper (d : Int) (cs : List Char) :
    cs.foldl Scan.step (s.deeper d) = (cs.foldl Scan.step s).deeper d := by
  induction cs generalizing s with
  | nil => rfl
  | cons c cs ih => rw [List.foldl_cons, step_deeper, ih, List.foldl_cons]

end Scan

/-- A text that is well quoted leaves a scan at its start only where it met it there. -/
theorem run_eq_start_iff {cs : List Char} {s : Scan} (hcs : scan cs = .start) (hs : s.IsProper) :
    cs.foldl Scan.step s = .start ↔ s = .start := by
  have hstart : cs.foldl Scan.step .start = .start := hcs
  constructor
  · intro h
    -- the text ends outside quotes, so it was met there, and then it closes what it opens
    have hquote : s.quote = none :=
      Scan.quote_run_injective hs Scan.isProper_start cs (by rw [h, hstart])
    have hd : s = Scan.start.deeper s.depth := by
      obtain ⟨depth, quote⟩ := s
      simp_all [Scan.deeper, Scan.start]
    have hrun : cs.foldl Scan.step s = s := by
      rw [hd, Scan.run_deeper, hstart]
    exact hrun.symm.trans h
  · intro h
    rw [h, hstart]

theorem step_neutral {c : Char} {s : Scan} (hc : isNeutral c = true) (hs : s.IsProper) :
    s.step c = s := by
  obtain ⟨depth, quote⟩ := s
  simp only [isNeutral, Bool.and_eq_true, Bool.not_eq_true', decide_eq_true_eq] at hc
  obtain ⟨⟨hq, ho⟩, hcl⟩ := hc
  cases quote with
  | none => simp [Scan.step, hq, ho, hcl]
  | some q =>
    have hne : c ≠ q := by
      rintro rfl
      rw [hs c rfl] at hq
      cases hq
    simp [Scan.step, hne]

theorem run_neutral {cs : List Char} {s : Scan} (hcs : cs.all isNeutral = true) (hs : s.IsProper) :
    cs.foldl Scan.step s = s := by
  induction cs with
  | nil => rfl
  | cons c cs ih =>
    simp only [List.all_cons, Bool.and_eq_true] at hcs
    rw [List.foldl_cons, step_neutral hcs.1 hs, ih hcs.2]

end Quoting

open Quoting (Scan)

namespace Clause

def isBroken (c : Clause) : Bool := (Quoting.fault? c.text).isSome

theorem isBroken_eq_false_iff {c : Clause} :
    c.isBroken = false ↔ Quoting.scan c.text.toList = .start := by
  rw [isBroken, Option.isSome_eq_false_iff, Option.isNone_iff_eq_none, Quoting.fault?_eq_none_iff]

def scanned (s : Scan) (c : Clause) : Scan := c.text.toList.foldl Scan.step s

section Scanned

variable {s : Scan} (hs : s.IsProper)

include hs

theorem isProper_scanned (c : Clause) : (scanned s c).IsProper := hs.run _

theorem isProper_foldl_scanned (cs : List Clause) : (cs.foldl scanned s).IsProper := by
  induction cs generalizing s with
  | nil => exact hs
  | cons c cs ih => exact ih (isProper_scanned hs c)

/-- A connective shows a scan nothing, inside quotes or outside. -/
theorem run_joinedText (c : Clause) : c.joinedText.toList.foldl Scan.step s = scanned s c := by
  unfold joinedText
  split
  · rfl
  next k _ =>
    have hk : (" ".toList ++ k.symbol.toList).all Quoting.isNeutral = true := by
      cases k <;> decide
    rw [String.append_assoc, String.toList_append, String.toList_append, List.foldl_append]
    exact Quoting.run_neutral hk (isProper_scanned hs c)

theorem run_expression (cs : List Clause) :
    (expression cs).toList.foldl Scan.step s = cs.foldl scanned s := by
  match cs with
  | [] => exact Quoting.run_neutral (by decide) hs
  | c :: cs =>
    induction cs generalizing s c with
    | nil =>
      have hone : expression [c] = c.joinedText := by simp [expression]
      rw [hone, run_joinedText hs]
      rfl
    | cons d cs ih =>
      have hcons : expression (c :: d :: cs) = c.joinedText ++ " " ++ expression (d :: cs) := by
        simp [expression]
      have hspace : " ".toList.foldl Scan.step (scanned s c) = scanned s c :=
        Quoting.run_neutral (by decide) (isProper_scanned hs c)
      rw [hcons, String.toList_append, String.toList_append, List.foldl_append, List.foldl_append,
        run_joinedText hs, hspace, ih (isProper_scanned hs c) d]
      rfl

theorem foldl_scanned_eq_start_iff {cs : List Clause} (h : ∀ c ∈ cs, c.isBroken = false) :
    cs.foldl scanned s = .start ↔ s = .start := by
  induction cs generalizing s with
  | nil => rfl
  | cons c cs ih =>
    simp only [List.forall_mem_cons] at h
    rw [List.foldl_cons, ih (isProper_scanned hs c) h.2]
    exact Quoting.run_eq_start_iff (isBroken_eq_false_iff.mp h.1) hs

end Scanned

theorem fault?_expression_eq_none_iff {cs : List Clause} :
    Quoting.fault? (expression cs) = none ↔ cs.foldl scanned .start = .start := by
  rw [Quoting.fault?_eq_none_iff, Quoting.scan, run_expression Scan.isProper_start]

/-- Well-quoted clauses at the two ends of a list make no difference. -/
theorem fault?_expression_surrounded {before mid after : List Clause}
    (h : ∀ a ∈ before ++ after, a.isBroken = false) :
    Quoting.fault? (expression (before ++ mid ++ after)) = none ↔
      Quoting.fault? (expression mid) = none := by
  have hbefore : before.foldl scanned .start = .start :=
    (foldl_scanned_eq_start_iff Scan.isProper_start fun a ha => h a (by simp [ha])).mpr rfl
  have hproper := isProper_foldl_scanned Scan.isProper_start mid
  rw [fault?_expression_eq_none_iff, fault?_expression_eq_none_iff, List.foldl_append,
    List.foldl_append, hbefore]
  exact foldl_scanned_eq_start_iff hproper fun a ha => h a (by simp [ha])

theorem fault?_expression_singleton {b : Clause} (hb : b.isBroken = true) :
    Quoting.fault? (expression [b]) ≠ none := by
  intro h
  have hstart : scanned .start b = .start := fault?_expression_eq_none_iff.mp h
  rw [isBroken_eq_false_iff.mpr hstart] at hb
  cases hb

end Clause

namespace Rule

variable {c : Context} {cs : List Clause}

theorem exists_quoting_mem_faults_iff :
    (∃ f, RuleFault.quoting f ∈ (compile c cs).faults) ↔
      Quoting.fault? (Clause.expression cs) ≠ none := by
  have hclause : ∀ f, RuleFault.quoting f ∉ c.clauseFaults cs := by
    simp [Context.clauseFaults]
  simp only [compile, List.mem_append, hclause, or_false]
  cases Quoting.fault? (Clause.expression cs) <;> simp

theorem isValid_eq_false_of_fault (h : Quoting.fault? (Clause.expression cs) ≠ none) :
    (compile c cs).isValid = false := by
  obtain ⟨f, hf⟩ := exists_quoting_mem_faults_iff (c := c).mpr h
  rw [isValid, List.isEmpty_eq_false_iff]
  exact List.ne_nil_of_mem hf

/-- A rule with a broken clause is not valid if no second clause is broken. In general the stretch from the
first broken clause to the last decides alone: the text of the list is found wrong when the text of the
stretch is. -/
theorem isValid_eq_false_of_isBroken (c : Context) (cs : List Clause) :
    (AtMostOne Clause.isBroken cs → ∀ b ∈ cs, b.isBroken = true → (compile c cs).isValid = false) ∧
    ∀ before mid after, cs = before ++ mid ++ after → (∀ a ∈ before ++ after, a.isBroken = false) →
      ((∃ f, RuleFault.quoting f ∈ (compile c cs).faults) ↔
        Quoting.fault? (Clause.expression mid) ≠ none) := by
  constructor
  · intro hone b hb hbroken
    obtain ⟨before, after, rfl, hothers⟩ := hone.exists_split hb hbroken
    refine isValid_eq_false_of_fault fun h => ?_
    rw [List.append_cons, Clause.fault?_expression_surrounded hothers] at h
    exact Clause.fault?_expression_singleton hbroken h
  · rintro before mid after rfl h
    rw [exists_quoting_mem_faults_iff, ne_eq, Clause.fault?_expression_surrounded h]

def zone : Variable := Builtin.plain "booking.pickupZone" "Pickup zone" .string "booking"

def zoneContext : Context := .ofVars "booking_event" "Booking event" "" [zone]

/-- One clause for each text; the pickup zone has to be it. -/
def zoneClauses (texts : List String) : List Clause :=
  texts.map fun s => ⟨"", some zone, .equal, .text s, some .and⟩

theorem isValid_eq_false_of_isBroken_zone :
    (compile zoneContext (zoneClauses ["it's (here", "a\"b", "\" || \""])).isValid = false := by
  have hone : AtMostOne Clause.isBroken (zoneClauses ["it's (here", "a\"b", "\" || \""]) := by
    decide +kernel
  refine (isValid_eq_false_of_isBroken zoneContext _).1 hone
    ⟨"", some zone, .equal, .text "a\"b", some .and⟩ ?_ (by decide +kernel)
  simp [zoneClauses]

/-- Two broken clauses pass together. -/
theorem not_isValid_eq_false_of_isBroken :
    ¬ ∀ (c : Context) (cs : List Clause) (b : Clause), b ∈ cs → b.isBroken = true →
      (compile c cs).isValid = false := by
  intro h
  have hvalid : (compile zoneContext (zoneClauses ["a\"b", "a\"b"])).isValid = true := by
    decide +kernel
  have hfalse := h zoneContext (zoneClauses ["a\"b", "a\"b"])
    ⟨"", some zone, .equal, .text "a\"b", some .and⟩ (by simp [zoneClauses]) (by decide +kernel)
  rw [hvalid] at hfalse
  cases hfalse

end Rule

end Eligibility
