import Eligibility.Proofs.RelaxedLexing
import Eligibility.Proofs.StrictLexing

/-!
Reading what was written. The tokens of a value are read as its document, in a strict document as long as
its containers do not lie too deep; and a relaxed text in which some token is broken is no document at all.
-/

set_option autoImplicit false

namespace Eligibility.Json

mutual

def depth : Json → Nat
  | .array items => itemsDepth items + 1
  | .object members => membersDepth members + 1
  | _ => 0

def itemsDepth : List Json → Nat
  | [] => 0
  | v :: vs => max v.depth (itemsDepth vs)

def membersDepth : List (String × Json) → Nat
  | [] => 0
  | (_, v) :: vs => max v.depth (membersDepth vs)

end

theorem itemsDepth_le_iff {vs : List Json} {k : Nat} : itemsDepth vs ≤ k ↔ ∀ v ∈ vs, v.depth ≤ k := by
  induction vs with
  | nil => simp [itemsDepth]
  | cons v vs ih => simp [itemsDepth, ih]

theorem membersDepth_le_iff {ms : List (String × Json)} {k : Nat} :
    membersDepth ms ≤ k ↔ ∀ m ∈ ms, m.2.depth ≤ k := by
  induction ms with
  | nil => simp [membersDepth]
  | cons m ms ih => simp [membersDepth, ih]

theorem textToken_of_not_isBroken {form : Form} {s : String} (h : (textToken form s).isBroken = false) :
    textToken form s = .text (.ok s) := by
  unfold textToken at h ⊢
  split
  next hs => simp [hs, Token.isBroken] at h
  next => rfl

mutual

theorem skippable_toDocument : (v : Json) → v.toDocument.skippable = true
  | .null | .truth _ | .integer _ | .double _ | .text _ => rfl
  | .array items => by simp [toDocument, Document.skippable, allSkippable_itemDocuments items]
  | .object members => by
    simp [toDocument, Document.skippable, allMembersSkippable_memberDocuments members]

theorem allSkippable_itemDocuments : (vs : List Json) → allSkippable (itemDocuments vs) = true
  | [] => rfl
  | v :: vs => by
    simp [itemDocuments, allSkippable, skippable_toDocument v, allSkippable_itemDocuments vs]

theorem allMembersSkippable_memberDocuments :
    (ms : List (String × Json)) → allMembersSkippable (memberDocuments ms) = true
  | [] => rfl
  | (k, v) :: ms => by
    simp [memberDocuments, allMembersSkippable, skippable_toDocument v,
      allMembersSkippable_memberDocuments ms]

end

namespace Reading

def run (form : Form) (r : Reading) (ts : List Token) : Reading := ts.foldl (step form) r

@[simp] theorem run_cons (form : Form) (r : Reading) (t : Token) (ts : List Token) :
    r.run form (t :: ts) = (r.step form t).run form ts := rfl

theorem run_append (form : Form) (r : Reading) (ts us : List Token) :
    r.run form (ts ++ us) = (r.run form ts).run form us :=
  List.foldl_append

section Written

variable {form written : Form}

theorem room_first {n a b : Nat} (h : form = .strict → n + (max a b + 1) ≤ depthLimit) :
    form = .strict → n + 1 + a ≤ depthLimit := fun hf => by
  have := h hf
  omega

theorem room_rest {n a b : Nat} (h : form = .strict → n + (max a b + 1) ≤ depthLimit) :
    form = .strict → n + (b + 1) ≤ depthLimit := fun hf => by
  have := h hf
  omega

theorem close_eq_put {frames : List Frame} {k : Nat}
    (h : form = .strict → frames.length + (k + 1) ≤ depthLimit) (d : Document) :
    close form frames d = put frames d := by
  unfold close
  split
  next hd =>
    have := h hd.1
    omega
  next => rfl

theorem run_closeArray {frames : List Frame} {k : Nat}
    (h : form = .strict → frames.length + (k + 1) ≤ depthLimit) (ds : List Document) :
    run form ⟨.array ds.reverse :: frames, .separator⟩ [.closeArray] = put frames (.array ds true) := by
  have hstep : run form ⟨.array ds.reverse :: frames, .separator⟩ [.closeArray] =
      close form frames (.array ds.reverse.reverse true) := rfl
  rw [hstep, List.reverse_reverse, close_eq_put h]

theorem run_closeObject {frames : List Frame} {k : Nat}
    (h : form = .strict → frames.length + (k + 1) ≤ depthLimit) (ms : List Member) :
    run form ⟨.object ms.reverse :: frames, .separator⟩ [.closeObject] = put frames (.object ms true) := by
  have hstep : run form ⟨.object ms.reverse :: frames, .separator⟩ [.closeObject] =
      close form frames (.object ms.reverse.reverse true) := rfl
  rw [hstep, List.reverse_reverse, close_eq_put h]

/-- No value starts with a closing bracket. -/
theorem run_item {v : Json} (hb : (v.tokens written).any Token.isBroken = false) (frames : List Frame) :
    run form ⟨frames, .item⟩ (v.tokens written) = run form ⟨frames, .value⟩ (v.tokens written) := by
  cases v
  case text s =>
    have hs : (textToken written s).isBroken = false := by simpa [tokens] using hb
    rw [tokens, textToken_of_not_isBroken hs]
    rfl
  all_goals cases written <;> rfl

/-- Where items follow, the two forms differ in whether the array may be closed instead. -/
theorem run_items {v : Json} {vs : List Json} (hb : (itemTokens written (v :: vs)).any Token.isBroken = false)
    {frames : List Frame} {e : Expecting} (he : e = .item ∨ e = .value) :
    run form ⟨frames, e⟩ (itemTokens written (v :: vs)) =
      run form ⟨frames, .value⟩ (itemTokens written (v :: vs)) := by
  obtain ⟨ts, hts⟩ : ∃ ts, itemTokens written (v :: vs) = v.tokens written ++ ts := by
    cases vs with
    | nil => exact ⟨[], by simp [itemTokens]⟩
    | cons w vs => exact ⟨_, rfl⟩
  rw [hts, List.any_append, Bool.or_eq_false_iff] at hb
  rcases he with rfl | rfl
  · rw [hts, run_append, run_append, run_item hb.1]
  · rfl

theorem run_key {key : String} (hb : (textToken written key).isBroken = false) (members : List Member)
    (frames : List Frame) (closable : Bool) :
    run form ⟨.object members :: frames, .key closable⟩ [textToken written key, .colon] =
      ⟨.member members (.ok key) :: frames, .value⟩ := by
  rw [textToken_of_not_isBroken hb]
  rfl

mutual

theorem run_tokens : (v : Json) → (v.tokens written).any Token.isBroken = false → {frames : List Frame} →
    (form = .strict → frames.length + v.depth ≤ depthLimit) →
    run form ⟨frames, .value⟩ (v.tokens written) = put frames v.toDocument
  | .null, _, _, _ => by cases written <;> rfl
  | .truth _, _, _, _ => by cases written <;> rfl
  | .integer _, _, _, _ => rfl
  | .double _, _, _, _ => rfl
  | .text s, hb, _, _ => by
    have hs : (textToken written s).isBroken = false := by simpa [tokens] using hb
    rw [tokens, textToken_of_not_isBroken hs]
    rfl
  | .array [], _, _, hd => close_eq_put hd _
  | .array (v :: vs), hb, frames, hd => by
    have hitems : (itemTokens written (v :: vs)).any Token.isBroken = false := by
      simpa [tokens, Token.isBroken] using hb
    have hinner : run form ⟨.array [] :: frames, .item⟩ (itemTokens written (v :: vs)) =
        ⟨.array (itemDocuments (v :: vs)).reverse :: frames, .separator⟩ := by
      rw [run_items hitems (.inl rfl), run_itemTokens (v :: vs) (by simp) hitems [] hd, List.append_nil]
    rw [tokens, run_cons, run_append]
    exact (congrArg (run form · [.closeArray]) hinner).trans (run_closeArray hd _)
  | .object [], _, _, hd => close_eq_put hd _
  | .object ((k, v) :: ms), hb, frames, hd => by
    have hmembers : (memberTokens written ((k, v) :: ms)).any Token.isBroken = false := by
      simpa [tokens, Token.isBroken] using hb
    have hinner : run form ⟨.object [] :: frames, .key true⟩ (memberTokens written ((k, v) :: ms)) =
        ⟨.object (memberDocuments ((k, v) :: ms)).reverse :: frames, .separator⟩ := by
      rw [run_memberTokens ((k, v) :: ms) (by simp) hmembers [] true hd, List.append_nil]
    rw [tokens, run_cons, run_append]
    exact (congrArg (run form · [.closeObject]) hinner).trans (run_closeObject hd _)

theorem run_itemTokens : (vs : List Json) → vs ≠ [] → (itemTokens written vs).any Token.isBroken = false →
    {frames : List Frame} → (done : List Document) →
    (form = .strict → frames.length + (itemsDepth vs + 1) ≤ depthLimit) →
    run form ⟨.array done :: frames, .value⟩ (itemTokens written vs) =
      ⟨.array ((itemDocuments vs).reverse ++ done) :: frames, .separator⟩
  | [], hne, _, _, _, _ => absurd rfl hne
  | [v], _, hb, frames, done, hd => by
    have hfirst : run form ⟨.array done :: frames, .value⟩ (v.tokens written) =
        ⟨.array (v.toDocument :: done) :: frames, .separator⟩ :=
      run_tokens v hb (room_first hd)
    rw [itemTokens, hfirst]
    rfl
  | v :: w :: vs, _, hb, frames, done, hd => by
    simp only [itemTokens, List.any_append, List.any_cons, Bool.or_eq_false_iff] at hb
    obtain ⟨hv, -, hws⟩ := hb
    -- the relaxed form may close the array here, a choice that no value takes
    have hcomma : step form ⟨.array (v.toDocument :: done) :: frames, .separator⟩ .comma =
        ⟨.array (v.toDocument :: done) :: frames, if form = .relaxed then .item else .value⟩ := rfl
    have hfirst : run form ⟨.array done :: frames, .value⟩ (v.tokens written) =
        ⟨.array (v.toDocument :: done) :: frames, .separator⟩ :=
      run_tokens v hv (room_first hd)
    rw [itemTokens, run_append, hfirst, run_cons, hcomma, run_items hws (by split <;> simp),
      run_itemTokens (w :: vs) (by simp) hws _ (room_rest hd)]
    simp [itemDocuments]

theorem run_memberTokens : (ms : List (String × Json)) → ms ≠ [] →
    (memberTokens written ms).any Token.isBroken = false → {frames : List Frame} → (done : List Member) →
    (closable : Bool) → (form = .strict → frames.length + (membersDepth ms + 1) ≤ depthLimit) →
    run form ⟨.object done :: frames, .key closable⟩ (memberTokens written ms) =
      ⟨.object ((memberDocuments ms).reverse ++ done) :: frames, .separator⟩
  | [], hne, _, _, _, _, _ => absurd rfl hne
  | [(k, v)], _, hb, frames, done, closable, hd => by
    simp only [memberTokens, List.any_cons, Bool.or_eq_false_iff] at hb
    obtain ⟨hk, -, hv⟩ := hb
    have hvalue : run form ⟨.member done (.ok k) :: frames, .value⟩ (v.tokens written) =
        ⟨.object ((.ok k, v.toDocument) :: done) :: frames, .separator⟩ :=
      run_tokens v hv (room_first hd)
    have hparts : memberTokens written [(k, v)] = [textToken written k, .colon] ++ v.tokens written := rfl
    rw [hparts, run_append, run_key hk, hvalue]
    rfl
  | (k, v) :: (l, w) :: ms, _, hb, frames, done, closable, hd => by
    simp only [memberTokens, List.any_append, List.any_cons, Bool.or_eq_false_iff] at hb
    obtain ⟨hk, -, hv, -, hws⟩ := hb
    have hvalue : run form ⟨.member done (.ok k) :: frames, .value⟩ (v.tokens written) =
        ⟨.object ((.ok k, v.toDocument) :: done) :: frames, .separator⟩ :=
      run_tokens v hv (room_first hd)
    have hcomma : step form ⟨.object ((.ok k, v.toDocument) :: done) :: frames, .separator⟩ .comma =
        ⟨.object ((.ok k, v.toDocument) :: done) :: frames, .key (form = .relaxed)⟩ := rfl
    have hparts : memberTokens written ((k, v) :: (l, w) :: ms) = [textToken written k, .colon] ++
        (v.tokens written ++ .comma :: memberTokens written ((l, w) :: ms)) := rfl
    rw [hparts, run_append, run_key hk, run_append, hvalue, run_cons, hcomma,
      run_memberTokens ((l, w) :: ms) (by simp) hws _ _ (room_rest hd)]
    simp [memberDocuments]

end

end Written

section Broken

/-- If the tokens broke off, nobody can skip what was read. -/
def Honest (r : Reading) : Prop :=
  match r.expecting with
  | .stopped root => root.skippable = false
  | _ => True

/-- What was read cannot be taken as a whole, whatever follows. -/
def Lost (r : Reading) : Prop :=
  match r.expecting with
  | .stopped root => root.skippable = false
  | .nothing _ clean => clean = false
  | _ => False

theorem not_skippable_brokenOff (frames : List Frame) {d : Document} (h : d.skippable = false) :
    (brokenOff d frames).skippable = false := by
  induction frames generalizing d with
  | nil => exact h
  | cons f frames ih => cases f <;> exact ih rfl

theorem stop_lost {r : Reading} (h : ∀ root clean, r.expecting ≠ .nothing root clean)
    (h' : ∀ root, r.expecting ≠ .stopped root) : r.stop.Lost := by
  show r.abandoned.skippable = false
  unfold abandoned
  split
  next he => exact absurd he (h _ _)
  next he => exact absurd he (h' _)
  all_goals exact not_skippable_brokenOff _ rfl

theorem put_honest (frames : List Frame) (d : Document) : (put frames d).Honest := by
  unfold put
  split <;> trivial

theorem close_honest (form : Form) (frames : List Frame) (d : Document) : (close form frames d).Honest := by
  unfold close
  split <;> exact put_honest _ _

variable {form : Form} {r : Reading}

theorem Lost.honest (h : r.Lost) : r.Honest := by
  unfold Lost at h
  unfold Honest
  split at h <;> simp_all

theorem Lost.step (h : r.Lost) (t : Token) : (r.step form t).Lost := by
  unfold Lost at h
  unfold Reading.step
  split at h
  next root he => simp [he, Lost, h]
  next root clean he => simp [he, Lost]
  next => exact h.elim

theorem Lost.run (h : r.Lost) (ts : List Token) : (r.run form ts).Lost := by
  induction ts generalizing r with
  | nil => exact h
  | cons t ts ih => exact ih (h.step t)

theorem beginValue_honest (h : r.stop.Honest) (t : Token) : (r.beginValue t).Honest := by
  unfold beginValue
  split <;> first | exact h | exact put_honest _ _ | trivial

theorem readKey_honest (h : r.stop.Honest) (t : Token) : (r.readKey t).Honest := by
  unfold readKey
  split <;> first | exact h | trivial

theorem endArray_honest (h : r.stop.Honest) : (r.endArray form).Honest := by
  unfold endArray
  split <;> first | exact close_honest _ _ _ | exact h

theorem endObject_honest (h : r.stop.Honest) : (r.endObject form).Honest := by
  unfold endObject
  split <;> first | exact close_honest _ _ _ | exact h

theorem afterComma_honest : (r.afterComma form).Honest := by
  unfold afterComma
  split
  · cases form <;> trivial
  · trivial

theorem stop_honest (h : ∀ root clean, r.expecting ≠ .nothing root clean)
    (h' : ∀ root, r.expecting ≠ .stopped root) : r.stop.Honest := (stop_lost h h').honest

theorem Honest.step (h : r.Honest) (t : Token) : (r.step form t).Honest := by
  unfold Reading.step
  split
  next => exact h
  next => trivial
  next he => exact beginValue_honest (stop_honest (by simp [he]) (by simp [he])) t
  next he =>
    have hs := stop_honest (r := r) (by simp [he]) (by simp [he])
    split
    · exact endArray_honest hs
    · exact beginValue_honest hs _
  next he =>
    have hs := stop_honest (r := r) (by simp [he]) (by simp [he])
    split
    · split
      · exact endObject_honest hs
      · exact hs
    · exact readKey_honest hs _
  next he =>
    have hs := stop_honest (r := r) (by simp [he]) (by simp [he])
    split
    · trivial
    · exact hs
  next he =>
    have hs := stop_honest (r := r) (by simp [he]) (by simp [he])
    split
    · exact afterComma_honest
    · exact endArray_honest hs
    · exact endObject_honest hs
    · exact hs

theorem step_broken_lost (h : r.Honest) : (r.step form .broken).Lost := by
  unfold Honest at h
  unfold Reading.step
  split
  next root he => simpa [he, Lost] using h
  next => rfl
  all_goals next he => exact stop_lost (r := r) (by simp [he]) (by simp [he])

theorem Honest.run_lost (h : r.Honest) {ts : List Token} (hts : ts.any Token.isBroken = true) :
    (r.run form ts).Lost := by
  induction ts generalizing r with
  | nil => simp at hts
  | cons t ts ih =>
    cases t
    case broken => exact (step_broken_lost h).run ts
    all_goals exact ih (h.step _) (by simpa [Token.isBroken] using hts)

theorem start_honest : Reading.start.Honest := trivial

theorem Lost.finish (h : r.Lost) : (r.finish.2 && r.finish.1.skippable) = false := by
  unfold Lost at h
  unfold Reading.finish
  split at h
  next root he => simp [he, abandoned, h]
  next root clean he => simp [he, h]
  next => exact h.elim

end Broken

end Reading

/-- The tokens of a value are read as its document, with nothing after it. Those of the one form may stand in
a document of the other. -/
theorem readTokens_tokens {form written : Form} {v : Json}
    (hb : (v.tokens written).any Token.isBroken = false)
    (hd : form = .strict → v.depth ≤ Reading.depthLimit) :
    readTokens form (v.tokens written) = (v.toDocument, true) := by
  have hrun : (v.tokens written).foldl (Reading.step form) Reading.start =
      Reading.put [] v.toDocument :=
    Reading.run_tokens v hb (by simpa using hd)
  rw [readTokens, hrun]
  rfl

theorem readStrict_writeIn {v : Json} (hv : v.IsWhole) (hd : v.depth ≤ Reading.depthLimit) (l : Layout) :
    readStrict (String.ofList (v.writeIn l 0)) = (v.toDocument, true) := by
  have hwhole : (v.tokens .strict).any Token.isBroken = false := any_isBroken_tokens .strict v
  rw [readStrict, String.toList_ofList, Strict.tokens_writeIn hv l, readTokens_tokens hwhole fun _ => hd]

theorem readStrict_compact {v : Json} (hv : v.IsWhole) (hd : v.depth ≤ Reading.depthLimit) :
    readStrict v.compact = (v.toDocument, true) := by
  rw [compact, ← writeIn_compact 0, readStrict_writeIn hv hd]

theorem readStrict_pretty {v : Json} (hv : v.IsWhole) (hd : v.depth ≤ Reading.depthLimit) :
    readStrict v.pretty = (v.toDocument, true) := by
  rw [pretty, ← writeIn_indented 0, readStrict_writeIn hv hd]

/-- A relaxed text takes what was written unless one of its texts has a separator in it. -/
theorem readRelaxed?_pretty {v : Json} (hv : v.IsWhole) :
    readRelaxed? v.pretty = if v.allTexts.any hasSeparator then none else some v.toDocument := by
  have hlex : Relaxed.tokens v.pretty.toList = resume List.reverse [] (v.tokens .relaxed) := by
    rw [pretty, String.toList_ofList, ← writeIn_indented 0, Relaxed.tokens_writeIn hv]
  have hany : (v.tokens .relaxed).any Token.isBroken = v.allTexts.any hasSeparator :=
    any_isBroken_tokens .relaxed v
  cases hb : (v.tokens .relaxed).any Token.isBroken with
  | true =>
    have hlost : (Reading.run .relaxed Reading.start (Relaxed.tokens v.pretty.toList)).Lost :=
      Reading.start_honest.run_lost (hlex ▸ any_isBroken_resume hb [])
    have hfinish := hlost.finish
    rw [if_pos (hany ▸ hb), readRelaxed?, wholeDocument?, readTokens]
    exact if_neg (Bool.eq_false_iff.mp hfinish)
  | false =>
    rw [if_neg (by rw [← hany, hb]; simp), readRelaxed?, hlex, resume_of_any_eq_false hb,
      List.append_nil, List.reverse_reverse, wholeDocument?, readTokens_tokens hb (by simp)]
    simp [skippable_toDocument]

end Eligibility.Json
