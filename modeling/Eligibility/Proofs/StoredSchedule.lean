import Eligibility.Proofs.RecordDecoding
import Eligibility.Proofs.RecordParts
import Eligibility.Schedule.Json

/-!
Stored schedules. Every schedule is read back from the text that it is stored as, whatever its texts are. A
list that is absent is left out and one that is empty is written, so the two stay apart.
-/

set_option autoImplicit false

namespace Eligibility

open Json (Fields decodeText decodeList)

section Decoding

theorem ScheduleKind.decode_toJson (k : ScheduleKind) : decode k.toJson.toDocument = .ok k := by
  have h : decode k.toJson.toDocument = .ok (ofName k.name) := rfl
  rw [h, ofName_name]

theorem TimePeriod.decode_toJson (p : TimePeriod) : decode p.toJson.toDocument = .ok p := by
  obtain ⟨start, finish⟩ := p
  have hnames : fields.fields.map Json.Field.name = ["startTime", "endTime"] := rfl
  refine Fields.Reads.decode_object ?_ (List.Sublist.refl _) (hnames ▸ by decide) .strict _
  refine ((Fields.Reads.withDefault ?_).map _).seq (.withDefault ?_)
  all_goals rfl

theorem TimePeriod.decode_periods (ps : List TimePeriod) :
    decodeList decode (Json.array (ps.map toJson)).toDocument = .ok ps :=
  Json.decodeList_map ps fun p _ => p.decode_toJson

theorem DayEntry.decode_toJson (e : DayEntry) : decode e.toJson.toDocument = .ok e := by
  obtain ⟨day, enabled, periods⟩ := e
  have hnames : fields.fields.map Json.Field.name = ["day", "enabled", "timePeriods"] := rfl
  refine Fields.Reads.decode_object ?_ (List.Sublist.refl _) (hnames ▸ by decide) .strict _
  refine (((Fields.Reads.required ?_).map _).seq (.withDefault ?_)).seq (.withDefault ?_)
  case refine_3 => exact TimePeriod.decode_periods periods
  all_goals rfl

theorem DateEntry.decode_toJson (e : DateEntry) : decode e.toJson.toDocument = .ok e := by
  obtain ⟨date, periods⟩ := e
  have hnames : fields.fields.map Json.Field.name = ["date", "timePeriods"] := rfl
  refine Fields.Reads.decode_object ?_ (List.Sublist.refl _) (hnames ▸ by decide) .strict _
  refine ((Fields.Reads.required ?_).map _).seq (.withDefault ?_)
  case refine_2 => exact TimePeriod.decode_periods periods
  all_goals rfl

theorem Json.decode_text (s : String) : decodeText (text s).toDocument = .ok s := rfl

theorem Json.decode_texts (ss : List String) : decodeList decodeText (texts ss).toDocument = .ok ss :=
  Json.decodeList_map ss fun s _ => decode_text s

/-- The members that are there are met under their own names, and the others are absent. -/
theorem Schedule.decode_toJson (s : Schedule) : decode s.toJson.toDocument = .ok s := by
  obtain ⟨kind, days, dates, blackouts, timezone⟩ := s
  have hnames : fields.fields.map Json.Field.name =
      ["type"] ++ ["daysOfWeek"] ++ ["specificDates"] ++ ["blackoutDates"] ++ ["timezone"] := rfl
  refine Fields.Reads.decode_object ?_ ?_ (hnames ▸ by decide) .strict _
  · refine (((((Fields.Reads.optional ?_ ScheduleKind.decode_toJson nofun).map _).seq
      (.optional ?_ (fun days => Json.decodeList_map days fun e _ => e.decode_toJson) nofun)).seq
      (.optional ?_ (fun dates => Json.decodeList_map dates fun e _ => e.decode_toJson) nofun)).seq
      (.optional ?_ Json.decode_texts nofun)).seq (.optional ?_ Json.decode_text nofun)
    all_goals simp [Json.documentMembers_append, Json.lookup_append, Json.lookup_optional]
  · rw [hnames]
    simp only [List.map_append]
    exact ((((Json.keys_optional _ _).append (Json.keys_optional _ _)).append
      (Json.keys_optional _ _)).append (Json.keys_optional _ _)).append (Json.keys_optional _ _)

end Decoding

section Whole

theorem TimePeriod.isWhole_toJson (p : TimePeriod) : p.toJson.IsWhole := by
  simp [toJson, Json.IsWhole, Json.membersWhole_iff]

theorem DayEntry.isWhole_toJson (e : DayEntry) : e.toJson.IsWhole := by
  simp [toJson, Json.IsWhole, Json.membersWhole_iff, Json.itemsWhole_iff, TimePeriod.isWhole_toJson]

theorem DateEntry.isWhole_toJson (e : DateEntry) : e.toJson.IsWhole := by
  simp [toJson, Json.IsWhole, Json.membersWhole_iff, Json.itemsWhole_iff, TimePeriod.isWhole_toJson]

theorem Schedule.isWhole_toJson (s : Schedule) : s.toJson.IsWhole := by
  simp [toJson, ScheduleKind.toJson, Json.texts, Json.IsWhole, Json.membersWhole_iff, Json.itemsWhole_iff,
    Json.forall_mem_optional, or_imp, forall_and, DayEntry.isWhole_toJson, DateEntry.isWhole_toJson]

end Whole

section Depth

theorem Json.depth_array_map_le {α : Type} {encode : α → Json} {k : Nat} {as : List α}
    (h : ∀ a ∈ as, (encode a).depth ≤ k) : (Json.array (as.map encode)).depth ≤ k + 1 := by
  rw [depth, Nat.add_le_add_iff_right, itemsDepth_le_iff]
  simpa using h

theorem TimePeriod.depth_periods (ps : List TimePeriod) : (Json.array (ps.map toJson)).depth ≤ 2 :=
  Json.depth_array_map_le fun _ _ => Nat.le_refl 1

theorem DayEntry.depth_toJson (e : DayEntry) : e.toJson.depth ≤ 3 := by
  have hday : (Json.text e.day).depth ≤ 2 := Nat.zero_le 2
  have henabled : (Json.truth e.enabled).depth ≤ 2 := Nat.zero_le 2
  rw [toJson, Json.depth, Nat.add_le_add_iff_right, Json.membersDepth_le_iff]
  simp [hday, henabled, TimePeriod.depth_periods e.periods]

theorem DateEntry.depth_toJson (e : DateEntry) : e.toJson.depth ≤ 3 := by
  have hdate : (Json.text e.date).depth ≤ 2 := Nat.zero_le 2
  rw [toJson, Json.depth, Nat.add_le_add_iff_right, Json.membersDepth_le_iff]
  simp [hdate, TimePeriod.depth_periods e.periods]

/-- A schedule, a list of entries, an entry, a list of periods and a period. -/
theorem Schedule.depth_toJson (s : Schedule) : s.toJson.depth ≤ 5 := by
  have hdays (days : List DayEntry) : (Json.array (days.map DayEntry.toJson)).depth ≤ 4 :=
    Json.depth_array_map_le fun e _ => e.depth_toJson
  have hdates (dates : List DateEntry) : (Json.array (dates.map DateEntry.toJson)).depth ≤ 4 :=
    Json.depth_array_map_le fun e _ => e.depth_toJson
  have htexts (ss : List String) : (Json.array (ss.map Json.text)).depth ≤ 4 :=
    Json.depth_array_map_le fun _ _ => Nat.zero_le 3
  have htext (s : String) : (Json.text s).depth ≤ 4 := Nat.zero_le 4
  rw [toJson, Json.depth, Nat.add_le_add_iff_right, Json.membersDepth_le_iff]
  simp [ScheduleKind.toJson, Json.texts, Json.forall_mem_optional, or_imp, forall_and, hdays, hdates, htexts,
    htext]

end Depth

/-- Storing a schedule and reading it is the identity. -/
theorem Schedule.read_toJson (s : Schedule) :
    Schedule.read s.toJson.compact = .ok s ∧ Schedule.read s.toJson.pretty = .ok s := by
  have hdepth : s.toJson.depth ≤ Json.Reading.depthLimit := Nat.le_trans s.depth_toJson (by decide)
  exact Json.decodeStrict_written s.decode_toJson s.isWhole_toJson hdepth

end Eligibility
