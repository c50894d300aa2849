import Eligibility.Condition.Quoting

/-!
What a scan meets outside quotes. A text that closes every quote it opens shows the scan the same characters
wherever it stands, and texts that are put together show theirs one after the other. Nothing inside a quoted
span is shown.
-/

set_option autoImplicit false

namespace Eligibility

namespace Quoting

/-- The characters that a scan meets while no quote is open. The quote that opens a span is one of them, and
the quote that closes it is not. -/
def outsideFrom (s : Scan) : List Char → List Char
  | [] => []
  | c :: cs =>
    if s.quote.isNone then c :: outsideFrom (s.step c) cs else outsideFrom (s.step c) cs

def outside (text : String) : List Char := outsideFrom .start text.toList

def isNeutral (c : Char) : Bool := !isQuote c && c ≠ '(' && c ≠ ')'

def net (cs : List Char) : Int := (cs.count '(' : Int) - cs.count ')'

theorem fault?_eq_none_iff {text : String} : fault? text = none ↔ scan text.toList = .start := by
  unfold fault?
  generalize scan text.toList = s
  obtain ⟨depth, quote⟩ := s
  by_cases hd : depth = 0 <;> cases quote <;> simp [Scan.fault?, Scan.start, hd]

theorem net_append (xs ys : List Char) : net (xs ++ ys) = net xs + net ys := by
  simp only [net, List.count_append]
  omega

theorem net_cons (c : Char) (cs : List Char) : net (c :: cs) = net [c] + net cs :=
  net_append [c] cs

theorem outsideFrom_append (s : Scan) (xs ys : List Char) :
    outsideFrom s (xs ++ ys) = outsideFrom s xs ++ outsideFrom (xs.foldl Scan.step s) ys := by
  induction xs generalizing s with
  | nil => rfl
  | cons x xs ih =>
    by_cases h : s.quote.isNone = true
    · simp [outsideFrom, h, ih]
    · simp [outsideFrom, h, ih]

theorem step_bare {c : Char} (h : isQuote c = false) (d : Int) :
    Scan.step ⟨d, none⟩ c = ⟨d + net [c], none⟩ := by
  by_cases ho : c = '('
  · subst ho; rfl
  · by_cases hc : c = ')'
    · subst hc; rfl
    · simp [Scan.step, h, ho, hc, net]

theorem step_inside {q c : Char} (h : c ≠ q) (d : Int) : Scan.step ⟨d, some q⟩ c = ⟨d, some q⟩ := by
  simp [Scan.step, h]

/-- A scan that comes to the text outside quotes meets `seen` there, goes as much deeper as `seen` says, and
is outside quotes after it. -/
structure Shows (text seen : List Char) : Prop where
  state : ∀ d, text.foldl Scan.step ⟨d, none⟩ = ⟨d + net seen, none⟩
  met : ∀ d, outsideFrom ⟨d, none⟩ text = seen

namespace Shows

variable {xs ys a b : List Char}

theorem append (hx : Shows xs a) (hy : Shows ys b) : Shows (xs ++ ys) (a ++ b) where
  state d := by
    rw [List.foldl_append, hx.state, hy.state, net_append, Int.add_assoc]
  met d := by
    rw [outsideFrom_append, hx.met, hx.state, hy.met]

theorem bare (h : ∀ c ∈ xs, isQuote c = false) : Shows xs xs := by
  induction xs with
  | nil => exact ⟨fun d => by simp [net], fun d => rfl⟩
  | cons c cs ih =>
    simp only [List.forall_mem_cons] at h
    have hcs := ih h.2
    refine ⟨fun d => ?_, fun d => ?_⟩
    · rw [List.foldl_cons, step_bare h.1, hcs.state, net_cons c cs, Int.add_assoc]
    · simp [outsideFrom, step_bare h.1, hcs.met]

section Inside

variable {q : Char} (h : q ∉ xs) (d : Int)

include h

theorem foldl_inside : xs.foldl Scan.step ⟨d, some q⟩ = ⟨d, some q⟩ := by
  induction xs with
  | nil => rfl
  | cons c cs ih =>
    obtain ⟨hc, hcs⟩ := List.ne_and_not_mem_of_not_mem_cons h
    rw [List.foldl_cons, step_inside hc.symm, ih hcs]

theorem outsideFrom_inside : outsideFrom ⟨d, some q⟩ xs = [] := by
  induction xs with
  | nil => rfl
  | cons c cs ih =>
    obtain ⟨hc, hcs⟩ := List.ne_and_not_mem_of_not_mem_cons h
    simp [outsideFrom, step_inside hc.symm, ih hcs]

end Inside

theorem quoted (h : '"' ∉ xs) : Shows ('"' :: (xs ++ ['"'])) ['"'] := by
  have hopen : ∀ d, Scan.step ⟨d, none⟩ '"' = ⟨d, some '"'⟩ := fun d => rfl
  have hclose : ∀ d, Scan.step ⟨d, some '"'⟩ '"' = ⟨d, none⟩ := fun d => rfl
  refine ⟨fun d => ?_, fun d => ?_⟩
  · rw [List.foldl_cons, hopen, List.foldl_append, foldl_inside h, List.foldl_cons, hclose]
    simp [net]
  · rw [outsideFrom, hopen, outsideFrom_append, outsideFrom_inside h, foldl_inside h]
    rfl

end Shows

/-- The two texts show a scan the same. Under `p` they close as many parentheses outside quotes as they
open. -/
def Alike (p : Prop) (s t : String) : Prop :=
  ∃ seen, Shows s.toList seen ∧ Shows t.toList seen ∧ (p → net seen = 0)

namespace Alike

variable {p : Prop} {s t s' t' : String}

theorem outside_eq (h : Alike p s t) : outside s = outside t := by
  obtain ⟨seen, hs, ht, -⟩ := h
  exact (hs.met 0).trans (ht.met 0).symm

theorem fault?_eq_none (h : Alike p s t) (hp : p) : fault? s = none := by
  obtain ⟨seen, hs, -, hn⟩ := h
  have hscan : scan s.toList = ⟨0, none⟩ := by
    rw [scan, Scan.start, hs.state, hn hp, Int.add_zero]
  rw [fault?, hscan]
  rfl

theorem append (h : Alike p s t) (h' : Alike p s' t') : Alike p (s ++ s') (t ++ t') := by
  obtain ⟨a, hs, ht, ha⟩ := h
  obtain ⟨b, hs', ht', hb⟩ := h'
  refine ⟨a ++ b, ?_, ?_, fun hp => ?_⟩
  · rw [String.toList_append]
    exact hs.append hs'
  · rw [String.toList_append]
    exact ht.append ht'
  · rw [net_append, ha hp, hb hp, Int.add_zero]

theorem bare (hq : ∀ c ∈ s.toList, isQuote c = false) (hp : p → '(' ∉ s.toList ∧ ')' ∉ s.toList) :
    Alike p s s := by
  refine ⟨s.toList, .bare hq, .bare hq, fun h => ?_⟩
  obtain ⟨ho, hc⟩ := hp h
  rw [net, List.count_eq_zero_of_not_mem ho, List.count_eq_zero_of_not_mem hc]
  rfl

theorem neutral (h : s.toList.all isNeutral = true) : Alike p s s := by
  have hall : ∀ c ∈ s.toList, isQuote c = false ∧ c ≠ '(' ∧ c ≠ ')' := by
    simpa [isNeutral, and_assoc] using h
  refine bare (fun c hc => (hall c hc).1) fun _ => ⟨fun ho => ?_, fun hc => ?_⟩
  · exact (hall '(' ho).2.1 rfl
  · exact (hall ')' hc).2.2 rfl

theorem space : Alike p " " " " := neutral (by decide)

theorem quoted (hs : '"' ∉ s.toList) (ht : '"' ∉ t.toList) :
    Alike p ("\"" ++ s ++ "\"") ("\"" ++ t ++ "\"") := by
  refine ⟨['"'], ?_, ?_, fun _ => rfl⟩
  · simpa using Shows.quoted hs
  · simpa using Shows.quoted ht

theorem parenthesised (h : Alike p s t) : Alike p ("(" ++ s ++ ")") ("(" ++ t ++ ")") := by
  obtain ⟨a, hs, ht, ha⟩ := h
  have hopen : Shows ['('] ['('] := .bare (List.forall_mem_singleton.mpr rfl)
  have hclose : Shows [')'] [')'] := .bare (List.forall_mem_singleton.mpr rfl)
  refine ⟨['('] ++ a ++ [')'], ?_, ?_, fun hp => ?_⟩
  · simpa using (hopen.append hs).append hclose
  · simpa using (hopen.append ht).append hclose
  · rw [net_append, net_append, ha hp]
    rfl

theorem intercalate {α : Type} {f g : α → String} {xs : List α} {sep : String} (hsep : Alike p sep sep)
    (h : ∀ x ∈ xs, Alike p (f x) (g x)) :
    Alike p (sep.intercalate (xs.map f)) (sep.intercalate (xs.map g)) := by
  induction xs with
  | nil => exact neutral (s := "") rfl
  | cons x xs ih =>
    simp only [List.forall_mem_cons] at h
    by_cases hxs : xs = []
    · subst hxs
      simpa using h.1
    · rw [List.map_cons, List.map_cons, String.intercalate_cons_of_ne_nil (by simpa using hxs),
        String.intercalate_cons_of_ne_nil (by simpa using hxs)]
      exact (h.1.append hsep).append (ih h.2)

end Alike

end Quoting

end Eligibility
