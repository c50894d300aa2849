import Eligibility.Json.Decoding
import Eligibility.Json.Writer
import Eligibility.Schedule.Basic

/-!
Schedules in documents.
-/

set_option autoImplicit false

namespace Eligibility

open Json (Decoder Fields Problem decodeText decodeTruth decodeList decodeOptional)

def ScheduleKind.toJson (k : ScheduleKind) : Json := .text k.name

/-- Every name is a kind; one that is not known is the unknown kind. -/
def ScheduleKind.decode : Decoder ScheduleKind :=
  Json.decodeVariant .strict fun s => .ok (ofName s)

namespace TimePeriod

def toJson (p : TimePeriod) : Json :=
  .object [("startTime", .text p.start), ("endTime", .text p.finish)]

def fields : Fields TimePeriod :=
  TimePeriod.mk <$> Fields.withDefault "startTime" decodeText "" <*>
    Fields.withDefault "endTime" decodeText ""

def decode : Decoder TimePeriod := fields.decode .strict "TimePeriod"

end TimePeriod

namespace DayEntry

def toJson (e : DayEntry) : Json :=
  .object [("day", .text e.day), ("enabled", .truth e.enabled),
    ("timePeriods", .array (e.periods.map TimePeriod.toJson))]

def fields : Fields DayEntry :=
  DayEntry.mk <$> Fields.required "day" decodeText <*>
    Fields.withDefault "enabled" decodeTruth false <*>
    Fields.withDefault "timePeriods" (decodeList TimePeriod.decode) []

def decode : Decoder DayEntry := fields.decode .strict "DaySchedule"

end DayEntry

namespace DateEntry

def toJson (e : DateEntry) : Json :=
  .object [("date", .text e.date), ("timePeriods", .array (e.periods.map TimePeriod.toJson))]

def fields : Fields DateEntry :=
  DateEntry.mk <$> Fields.required "date" decodeText <*>
    Fields.withDefault "timePeriods" (decodeList TimePeriod.decode) []

def decode : Decoder DateEntry := fields.decode .strict "SpecificDate"

end DateEntry

namespace Schedule

def toJson (s : Schedule) : Json :=
  .object (Json.optional "type" ScheduleKind.toJson s.kind ++
    Json.optional "daysOfWeek" (fun days => .array (days.map DayEntry.toJson)) s.daysOfWeek ++
    Json.optional "specificDates" (fun dates => .array (dates.map DateEntry.toJson))
      s.specificDates ++
    Json.optional "blackoutDates" Json.texts s.blackoutDates ++
    Json.optional "timezone" Json.text s.timezone)

def fields : Fields Schedule :=
  Schedule.mk <$> Fields.withDefault "type" (decodeOptional ScheduleKind.decode) none <*>
    Fields.withDefault "daysOfWeek" (decodeOptional (decodeList DayEntry.decode)) none <*>
    Fields.withDefault "specificDates" (decodeOptional (decodeList DateEntry.decode)) none <*>
    Fields.withDefault "blackoutDates" (decodeOptional (decodeList decodeText)) none <*>
    Fields.withDefault "timezone" (decodeOptional decodeText) none

def decode : Decoder Schedule := fields.decode .strict "PromotionSchedule"

def read (s : String) : Except Problem Schedule := Json.decodeStrict decode s

end Schedule

end Eligibility
