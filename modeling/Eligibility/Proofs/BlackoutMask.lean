import Eligibility.Proofs.DateTexts
import Eligibility.Schedule.Activity

/-!
What blackouts take away from a schedule. They are held against the date of an instant as texts; written in
full, with blanks around them or not, they match the dates that they write and no others. So they switch
these dates off and leave all others as they were, whatever the kind of the schedule is.
-/

set_option autoImplicit false

namespace Eligibility

/-- The text is the date in full, with any blanks around it. -/
def Date.Writes (d : Date) (s : String) : Prop :=
  ∃ before after, s = before ++ d.text ++ after ∧ Text.allBlank before = true ∧
    Text.allBlank after = true

theorem Date.Writes.trim_eq {d : Date} {s : String} (h : d.Writes s) : Text.trim s = d.text := by
  obtain ⟨before, after, rfl, hbefore, hafter⟩ := h
  exact Text.trim_surrounded hbefore hafter fun _ hc => isBlank_of_mem_text hc

theorem listsDate_iff_mem {ds : List Date} {ss : List String} (h : List.Forall₂ Date.Writes ds ss)
    (d : Date) : listsDate ss d = true ↔ d ∈ ds := by
  induction h with
  | nil => simp [listsDate]
  | @cons e s ds ss hs _ ih =>
    have hsame : (Text.trim s == d.text) = true ↔ d = e := by
      rw [hs.trim_eq, beq_iff_eq]
      exact ⟨fun ht => (Date.text_injective ht).symm, fun hd => hd ▸ rfl⟩
    have hcons : listsDate (s :: ss) d = (Text.trim s == d.text || listsDate ss d) := rfl
    rw [hcons, Bool.or_eq_true, hsame, ih, List.mem_cons]

namespace Schedule

def withBlackouts (s : Schedule) (ss : List String) : Schedule := { s with blackoutDates := some ss }

variable {s : Schedule} {ss : List String} {now : Instant}

theorem isActive_withBlackouts :
    (s.withBlackouts ss).isActive now = (!listsDate ss now.date && (s.withBlackouts ss).isOpen now) := rfl

/-- Where no blackout applies, the kind that looks at them a second time does not tell them apart either. -/
theorem isOpen_withBlackouts (h : listsDate ss now.date = false) :
    (s.withBlackouts ss).isOpen now = (s.withBlackouts []).isOpen now := by
  have hss : (s.withBlackouts ss).isBlackedOut now.date = false := h
  have hnil : (s.withBlackouts []).isBlackedOut now.date = false := rfl
  unfold isOpen
  rw [hss, hnil]
  rfl

end Schedule

/-- Blackouts that are written in full switch a schedule off on their dates and nowhere else. -/
theorem isActive_withBlackouts_iff (s : Schedule) (ds : List Date) (ss : List String) (now : Instant)
    (h : List.Forall₂ Date.Writes ds ss) :
    isActive (some (s.withBlackouts ss)) now = true ↔
      isActive (some (s.withBlackouts [])) now = true ∧ now.date ∉ ds := by
  have hlists := listsDate_iff_mem h now.date
  have hnone : listsDate [] now.date = false := rfl
  simp only [isActive, Schedule.isActive_withBlackouts, hnone]
  by_cases hmem : now.date ∈ ds
  · simp [hlists.mpr hmem, hmem]
  · have hoff : listsDate ss now.date = false := Bool.eq_false_iff.mpr (mt hlists.mp hmem)
    simp [hoff, hmem, Schedule.isOpen_withBlackouts hoff]

/-- Christmas in a year before the first and in one of five digits. -/
def farChristmases : List Date := [⟨-719535, by decide⟩, ⟨3789749, by decide⟩]

def farChristmasTexts : List String := [" -0001-12-25\t", "+12345-12-25"]

def noonOf (d : Date) : Instant := .atMinute d ⟨720, by decide⟩

theorem isActive_withBlackouts_iff_far :
    List.Forall₂ Date.Writes farChristmases farChristmasTexts ∧
      isActive (some ((Schedule.blackout []).withBlackouts farChristmasTexts))
        (noonOf ⟨20812, by decide⟩) = true ∧
      isActive (some ((Schedule.blackout []).withBlackouts farChristmasTexts))
        (noonOf ⟨3789749, by decide⟩) = false := by
  have hwrites : List.Forall₂ Date.Writes farChristmases farChristmasTexts :=
    .cons ⟨" ", "\t", by decide +kernel, by decide, by decide⟩
      (.cons ⟨"", "", by decide +kernel, by decide, by decide⟩ .nil)
  have hthis := isActive_withBlackouts_iff (.blackout []) _ _ (noonOf ⟨20812, by decide⟩) hwrites
  have hfar := isActive_withBlackouts_iff (.blackout []) _ _ (noonOf ⟨3789749, by decide⟩) hwrites
  refine ⟨hwrites, hthis.mpr ⟨by decide +kernel, by decide⟩, ?_⟩
  rw [Bool.eq_false_iff]
  exact fun hon => (hfar.mp hon).2 (by decide)

end Eligibility
