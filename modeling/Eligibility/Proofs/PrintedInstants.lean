import Eligibility.CommandLine.Run
import Eligibility.Proofs.DateTexts

/-!
Written dates and instants are read back. A written text has no blanks, its numbers end where the next mark
stands, and the date of a day number is a day of the calendar; so the first layout reads an instant to its
end. What the commands print about instants can be given to them again.
-/

set_option autoImplicit false

namespace Eligibility

namespace Instant

variable (t : Instant)

theorem hour_lt : t.hour < 24 := by
  have hminute : t.minute.val < 1440 := t.minute.isLt
  unfold hour
  omega

theorem minuteOfHour_lt : t.minuteOfHour < 60 := by
  unfold minuteOfHour
  omega

theorem ofParts?_parts : ofParts? t.date.civil t.hour t.minuteOfHour t.second.val = some t := by
  have hvalue : 60 * t.hour + t.minuteOfHour = t.minute.val := by
    unfold hour minuteOfHour
    omega
  have hboth : t.minute.val < minutesPerDay ∧ t.second.val < 61 := ⟨t.minute.isLt, t.second.isLt⟩
  simp [ofParts?, Date.ofCivil?_civil, t.hour_lt, t.minuteOfHour_lt, hvalue, hboth]

theorem toList_text : t.text.toList = t.date.text.toList ++ 'T' :: (Calendar.padded 2 t.hour ++
    ':' :: (Calendar.padded 2 t.minuteOfHour ++ ':' :: Calendar.padded 2 t.second.val)) := by
  simp [text, Date.text]

theorem isBlank_of_mem_text {c : Char} (h : c ∈ t.text.toList) : Text.isBlank c = false := by
  have hpadded : ∀ n, c ∈ Calendar.padded 2 n → Text.isBlank c = false :=
    fun _ => Calendar.isBlank_of_mem_padded
  have hletter : c = 'T' → Text.isBlank c = false := by rintro rfl; decide
  have hcolon : c = ':' → Text.isBlank c = false := by rintro rfl; decide
  simp only [toList_text, List.mem_append, List.mem_cons] at h
  rcases h with hc | hc | hc | hc | hc | hc | hc
  · exact Date.isBlank_of_mem_text hc
  · exact hletter hc
  · exact hpadded _ hc
  · exact hcolon hc
  · exact hpadded _ hc
  · exact hcolon hc
  · exact hpadded _ hc

theorem readLayout?_text : Calendar.readLayout? .letterT true t.text.toList = some t := by
  have hhour : t.hour < 100 := Nat.lt_trans t.hour_lt (by decide)
  have hminute : t.minuteOfHour < 100 := Nat.lt_trans t.minuteOfHour_lt (by decide)
  have hsecond : t.second.val < 100 := by omega
  have hmark : ∀ (m : Char) (cs : List Char), m.isDigit = false →
      ∀ c ∈ (m :: cs).head?, c.isDigit = false := by simp
  have hend : Calendar.readField (Calendar.padded 2 t.second.val ++ []) = some (t.second.val, []) :=
    Calendar.readField_padded (by simp) hsecond
  rw [List.append_nil] at hend
  rw [toList_text, Calendar.readLayout?, t.date.readCivil_text (hmark 'T' _ rfl)]
  simp [Calendar.readSeparator, Calendar.readMark, Calendar.readField_padded (hmark ':' _ rfl), hhour, hminute,
    hend, ofParts?_parts]

theorem read?_text : read? t.text = some t := by
  have htrim : Text.trimmed t.text.toList = t.text.toList :=
    Text.trimmed_eq_self fun c hc => t.isBlank_of_mem_text hc
  simp [read?, Calendar.layouts, htrim, readLayout?_text]

theorem instantOf_text : instantOf t.text = .ok t := by rw [instantOf, read?_text]

end Instant

namespace Report

def instants : Report → List Instant
  | .active _ now _ _ => [now]
  | .opening now next => now :: next.toList
  | _ => []

def instantText? : String × Json → Option String
  | ("at", .text s) => some s
  | ("next", .text s) => some s
  | _ => none

def instantTexts (r : Report) : List String :=
  match r.toJson with
  | .object members => members.filterMap instantText?
  | _ => []

theorem instantTexts_eq (r : Report) : r.instantTexts = r.instants.map Instant.text := by
  cases r with
  | active on now summary timezone => cases timezone <;> rfl
  | opening now next => cases next <;> rfl
  | compiled contextId rule unresolved =>
    simp only [instantTexts, toJson, Rule.members]
    cases rule.error? <;> cases rule.problems <;> cases unresolved <;> rfl
  | evaluated contextId condition matched known unresolved => cases unresolved <;> rfl
  | _ => rfl

theorem exists_lines_active (on : Bool) (t : Instant) (summary : String) (timezone : Option String) :
    ∃ before after, (active on t summary timezone).lines = [before ++ t.text ++ after] := by
  cases timezone with
  | none =>
    refine ⟨(if on then "active" else "inactive") ++ " at ", "", ?_⟩
    rw [String.append_empty]
    rfl
  | some zone =>
    refine ⟨(if on then "active" else "inactive") ++ " at ", " (" ++ zone ++ ")", ?_⟩
    rw [← String.append_assoc, ← String.append_assoc]
    rfl

end Report

/-- Every date and every instant is read back from its text, whatever its year, and the leap second too. So is
each instant that a reply tells, and the text form of an answer has the instant in the same text: a next
opening alone on its line, and an instant with its state in one line. -/
theorem instants_read_back :
    (∀ t : Instant, Date.read? t.date.text = some t.date ∧ instantOf t.text = .ok t) ∧
    (∀ r : Report, r.instantTexts.map instantOf = r.instants.map .ok) ∧
    ∀ (t now : Instant) (on : Bool) (summary : String) (timezone : Option String),
      (Report.opening now (some t)).lines.map instantOf = [.ok t] ∧
      ∃ before after, (Report.active on t summary timezone).lines = [before ++ t.text ++ after] := by
  refine ⟨fun t => ⟨t.date.read?_text, t.instantOf_text⟩, fun r => ?_,
    fun t now on summary timezone => ⟨?_, ?_⟩⟩
  · simp only [Report.instantTexts_eq, List.map_map, Function.comp_def, Instant.instantOf_text]
  · simp [Report.lines, Instant.instantOf_text]
  · exact Report.exists_lines_active on t summary timezone

example : (Instant.atMinute ⟨firstDay, by decide⟩ ⟨61, by decide⟩).text = "-262143-01-01T01:01:00" := by
  decide +kernel

end Eligibility
