import Eligibility.Json.Decoding
import Eligibility.Proofs.TokenReading

/-!
What a strict reading can hold. Containers that are read to their end do not lie deeper than the limit,
and no integer lies below those of a signed machine integer. The frames of a reading carry the bound: the
deeper a frame lies, the less its items may hold.
-/

set_option autoImplicit false

namespace Eligibility.Json

mutual

/-- Whatever is read to its end here nests at most so deep. -/
def Document.Fits : Document → Nat → Prop
  | .integer n, _ => -(Numeral.largestSigned : Int) - 1 ≤ n
  | .array items closed, k => closed = true → 0 < k ∧ ItemsFit items (k - 1)
  | .object members closed, k => closed = true → 0 < k ∧ MembersFit members (k - 1)
  | _, _ => True

def ItemsFit : List Document → Nat → Prop
  | [], _ => True
  | d :: ds, k => d.Fits k ∧ ItemsFit ds k

def MembersFit : List Member → Nat → Prop
  | [], _ => True
  | (_, d) :: ms, k => d.Fits k ∧ MembersFit ms k

end

theorem itemsFit_iff {ds : List Document} {k : Nat} : ItemsFit ds k ↔ ∀ d ∈ ds, d.Fits k := by
  induction ds with
  | nil => simp [ItemsFit]
  | cons d ds ih => simp [ItemsFit, ih]

theorem membersFit_iff {ms : List Member} {k : Nat} : MembersFit ms k ↔ ∀ m ∈ ms, m.2.Fits k := by
  induction ms with
  | nil => simp [MembersFit]
  | cons m ms ih => simp [MembersFit, ih]

theorem Numeral.strictDocument_fits (n : Numeral) (k : Nat) : n.strictDocument.Fits k := by
  simp only [strictDocument]
  split
  next => exact Int.le_trans (by decide) (Int.natCast_nonneg _)
  next =>
    split
    next h =>
      simp only [Bool.and_eq_true, decide_eq_true_eq] at h
      simp only [Document.Fits]
      omega
    next => split <;> trivial

def Token.Fits : Token → Prop
  | .name _ (some d) => ∀ k, d.Fits k
  | .scalar d => ∀ k, d.Fits k
  | _ => True

namespace Strict

def Mode.Fits : Mode → Prop
  | .word _ meaning => ∀ k, meaning.Fits k
  | _ => True

structure Lexing.Fits (x : Lexing) : Prop where
  mode : x.mode.Fits
  tokens : ∀ t ∈ x.tokens, t.Fits

namespace Lexing.Fits

variable {x : Lexing} (h : x.Fits)

include h

theorem emit {t : Token} (ht : t.Fits) : (x.emit t).Fits :=
  ⟨trivial, List.forall_mem_cons.mpr ⟨ht, h.tokens⟩⟩

theorem refuse : x.refuse.Fits := ⟨trivial, List.forall_mem_cons.mpr ⟨trivial, h.tokens⟩⟩

theorem enter {m : Mode} (hm : m.Fits) : (x.enter m).Fits := ⟨hm, h.tokens⟩

theorem stepBetween (c : Char) : (x.stepBetween c).Fits := by
  unfold Lexing.stepBetween
  split
  all_goals first | exact h.emit trivial | exact h.enter trivial | exact h.enter fun _ => trivial | skip
  split
  · exact h.enter trivial
  · exact h.refuse

theorem stepNumeral (phase : Phase) (d : Digits) (c : Char) : (x.stepNumeral phase d c).Fits := by
  unfold Lexing.stepNumeral
  split
  · exact h.enter trivial
  · split
    · exact (h.emit (t := .scalar _) (Numeral.strictDocument_fits _)).stepBetween c
    · exact h.refuse

theorem stepWord {rest : List Char} {meaning : Document} (hm : ∀ k, meaning.Fits k) (c : Char) :
    (x.stepWord rest meaning c).Fits := by
  unfold Lexing.stepWord
  split
  · exact (h.emit (t := .scalar _) hm).stepBetween c
  · split
    · exact h.emit (t := .scalar _) hm
    · exact h.refuse
  · split
    · exact h.enter (m := .word _ _) hm
    · exact h.refuse

theorem step (c : Char) : (x.step c).Fits := by
  have hmode := h.mode
  unfold Lexing.step
  split
  next => exact h.stepBetween c
  next rest meaning he => exact h.stepWord (by rwa [he] at hmode) c
  next =>
    unfold Lexing.stepString
    split
    · exact h.emit trivial
    · split
      · exact h.enter trivial
      · split
        · exact h.refuse
        · exact h.enter trivial
  next =>
    unfold Lexing.stepEscape
    split <;> first | exact h.enter trivial | exact h.refuse
  next =>
    unfold Lexing.stepUnicode
    split
    · exact h.refuse
    · split <;> exact h.enter trivial
  next => exact h.stepNumeral _ _ c
  next => exact h

theorem run (cs : List Char) : (x.run cs).Fits := by
  induction cs generalizing x with
  | nil => exact h
  | cons c cs ih => exact ih (h.step c)

theorem finish : ∀ t ∈ x.finish, t.Fits := by
  unfold Lexing.finish
  split
  case h_3 =>
    split
    · simpa using (h.emit (t := .scalar _) (Numeral.strictDocument_fits _)).tokens
    · simpa using h.refuse.tokens
  case h_4 => simpa using h.refuse.tokens
  all_goals simpa using h.tokens

end Lexing.Fits

theorem tokens_fit (cs : List Char) : ∀ t ∈ tokens cs, t.Fits :=
  (Lexing.Fits.run (x := Lexing.start) ⟨trivial, by simp [Lexing.start]⟩ cs).finish

end Strict

def Frame.Fits : Frame → Nat → Prop
  | .array items, k => ItemsFit items k
  | .object members, k => MembersFit members k
  | .member members _, k => MembersFit members k

/-- Each frame may hold what the limit leaves under the containers around it. -/
def FramesFit : List Frame → Prop
  | [] => True
  | f :: rest => f.Fits (Reading.depthLimit - (rest.length + 1)) ∧ FramesFit rest

def Expecting.Fits : Expecting → Prop
  | .nothing root _ => root.Fits Reading.depthLimit
  | .stopped root => root.Fits Reading.depthLimit
  | _ => True

structure Reading.Fits (r : Reading) : Prop where
  frames : FramesFit r.frames
  expecting : r.expecting.Fits

namespace Reading

theorem put_fits {frames : List Frame} (h : FramesFit frames) {d : Document}
    (hd : d.Fits (depthLimit - frames.length)) : (put frames d).Fits := by
  unfold put
  split
  next => exact ⟨trivial, hd⟩
  next => exact ⟨⟨⟨hd, h.1⟩, h.2⟩, trivial⟩
  next => exact ⟨⟨⟨hd, h.1⟩, h.2⟩, trivial⟩
  next => exact ⟨h, trivial⟩

/-- A container that lies too deep is refused, so one that is kept has room below it. -/
theorem close_fits {frames : List Frame} (h : FramesFit frames) {d : Document}
    (hd : frames.length < depthLimit → d.Fits (depthLimit - frames.length)) :
    (close .strict frames d).Fits := by
  unfold close
  split
  next => exact put_fits h trivial
  next hc => exact put_fits h (hd (by simpa using hc))

theorem array_fits {items : List Document} {n : Nat} (h : ItemsFit items (depthLimit - (n + 1)))
    (hn : n < depthLimit) : (Document.array items.reverse true).Fits (depthLimit - n) := by
  refine fun _ => ⟨by omega, ?_⟩
  rw [Nat.sub_sub]
  exact itemsFit_iff.mpr fun d hd => itemsFit_iff.mp h d (List.mem_reverse.mp hd)

theorem object_fits {members : List Member} {n : Nat} (h : MembersFit members (depthLimit - (n + 1)))
    (hn : n < depthLimit) : (Document.object members.reverse true).Fits (depthLimit - n) := by
  refine fun _ => ⟨by omega, ?_⟩
  rw [Nat.sub_sub]
  exact membersFit_iff.mpr fun d hd => membersFit_iff.mp h d (List.mem_reverse.mp hd)

/-- What breaks off is not read to its end. -/
theorem brokenOff_fits (frames : List Frame) {d : Document} {k : Nat} (h : d.Fits k) :
    (brokenOff d frames).Fits k := by
  induction frames generalizing d with
  | nil => exact h
  | cons f frames ih =>
    cases f
    case array => exact ih nofun
    case object => exact ih nofun
    case member => exact ih nofun

variable {r : Reading} (h : r.Fits)

include h

theorem stop_fits : r.stop.Fits := by
  refine ⟨trivial, ?_⟩
  show r.abandoned.Fits depthLimit
  have hroot := h.expecting
  unfold abandoned
  split
  next he => rwa [he] at hroot
  next he => rwa [he] at hroot
  next => exact brokenOff_fits _ trivial
  next => exact brokenOff_fits _ trivial
  next => exact brokenOff_fits _ nofun
  next => exact brokenOff_fits _ nofun
  next => exact brokenOff_fits _ trivial

theorem beginValue_fits {t : Token} (ht : t.Fits) : (r.beginValue t).Fits := by
  unfold beginValue
  split
  next => exact ⟨⟨trivial, h.frames⟩, trivial⟩
  next => exact ⟨⟨trivial, h.frames⟩, trivial⟩
  next s => exact put_fits h.frames (by cases s <;> trivial)
  next => exact put_fits h.frames (ht _)
  next => exact put_fits h.frames (ht _)
  next => exact stop_fits h

theorem readKey_fits (t : Token) : (r.readKey t).Fits := by
  have hframes := h.frames
  unfold readKey
  split
  next he => rw [he] at hframes; exact ⟨hframes, trivial⟩
  next he => rw [he] at hframes; exact ⟨hframes, trivial⟩
  next => exact stop_fits h

theorem endArray_fits : (r.endArray .strict).Fits := by
  have hframes := h.frames
  unfold endArray
  split
  next he => rw [he] at hframes; exact close_fits hframes.2 (array_fits hframes.1)
  next => exact stop_fits h

theorem endObject_fits : (r.endObject .strict).Fits := by
  have hframes := h.frames
  unfold endObject
  split
  next he => rw [he] at hframes; exact close_fits hframes.2 (object_fits hframes.1)
  next => exact stop_fits h

theorem afterComma_fits : (r.afterComma .strict).Fits := by
  unfold afterComma
  split
  · exact ⟨h.frames, trivial⟩
  · exact ⟨h.frames, trivial⟩

theorem step_fits {t : Token} (ht : t.Fits) : (r.step .strict t).Fits := by
  have hroot := h.expecting
  unfold step
  split
  next => exact h
  next he => rw [he] at hroot; exact ⟨trivial, hroot⟩
  next => exact beginValue_fits h ht
  next =>
    split
    · exact endArray_fits h
    · exact beginValue_fits h ht
  next =>
    split
    · split
      · exact endObject_fits h
      · exact stop_fits h
    · exact readKey_fits h _
  next =>
    split
    · exact ⟨h.frames, trivial⟩
    · exact stop_fits h
  next =>
    split
    · exact afterComma_fits h
    · exact endArray_fits h
    · exact endObject_fits h
    · exact stop_fits h

theorem run_fits {ts : List Token} (hts : ∀ t ∈ ts, t.Fits) : (r.run .strict ts).Fits := by
  induction ts generalizing r with
  | nil => exact h
  | cons t ts ih =>
    simp only [List.forall_mem_cons] at hts
    exact ih (step_fits h hts.1) hts.2

theorem finish_fits : r.finish.1.Fits depthLimit := by
  have hroot := h.expecting
  unfold finish
  split
  next he => rwa [he] at hroot
  next => exact (stop_fits h).expecting

end Reading

theorem readStrict_fits (s : String) : (readStrict s).1.Fits Reading.depthLimit :=
  Reading.finish_fits (Reading.run_fits (r := .start) ⟨trivial, trivial⟩ (Strict.tokens_fit s.toList))

end Eligibility.Json
