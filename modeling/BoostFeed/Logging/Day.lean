/-! Days and times of day in the calendar, from the seconds since 1970 in universal time. -/

namespace BoostFeed.Logging

/-- Year, month and day of a count of days since 1970. Years begin in March here, so that the leap day is the
last of its year; 719468 days lie between the first such year and 1970. -/
def civil (days : Int) : Int × Nat × Nat :=
  let shifted := days + 719468
  let era := shifted / 146097
  let dayOfEra := (shifted % 146097).toNat
  let yearOfEra := (dayOfEra - dayOfEra / 1460 + dayOfEra / 36524 - dayOfEra / 146096) / 365
  let dayOfYear := dayOfEra - (365 * yearOfEra + yearOfEra / 4 - yearOfEra / 100)
  let month := (5 * dayOfYear + 2) / 153
  let day := dayOfYear - (153 * month + 2) / 5 + 1
  let year := yearOfEra + 400 * era
  if month < 10 then (year, month + 3, day) else (year + 1, month - 9, day)

def twoDigits (n : Nat) : String := (if n < 10 then "0" else "") ++ n.repr

/-- The day of a time. -/
def dayText (seconds : Int) : String :=
  let (year, month, day) := civil (seconds / 86400)
  toString year ++ "-" ++ twoDigits month ++ "-" ++ twoDigits day

/-- The day and the time of day. -/
def timeText (seconds : Int) : String :=
  let ofDay := (seconds % 86400).toNat
  dayText seconds ++ "T" ++ twoDigits (ofDay / 3600) ++ ":" ++ twoDigits (ofDay / 60 % 60) ++ ":" ++
    twoDigits (ofDay % 60) ++ "Z"

end BoostFeed.Logging
