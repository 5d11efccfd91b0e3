-- Points in time as texts of the calendar, all of them in universal time.
import CompanySearch.Log.Output
import CompanySearch.Toml.Moments

namespace CompanySearch.Log

open CompanySearch.Toml

/-! ## Days -/

/-- The days of a year. -/
def daysOfYear (year : Nat) : Nat := if isLeap year then 366 else 365

/-- The year in which a day falls, counted from the start of a first year, and the number of the
day in it. The fuel bounds the number of years. -/
def yearOf : Nat → Nat → Nat → Nat × Nat
  | 0, year, day => (year, day)
  | fuel + 1, year, day =>
    if day < daysOfYear year then (year, day) else yearOf fuel (year + 1) (day - daysOfYear year)

/-- The month in which a day of a year falls, and the number of the day in it, from zero. -/
def monthOf (year : Nat) : Nat → Nat → Nat → Nat × Nat
  | 0, month, day => (month, day)
  | fuel + 1, month, day =>
    if day < daysIn year month then (month, day)
    else monthOf year fuel (month + 1) (day - daysIn year month)

/-- The text of the day so many days after the first of 1970. -/
def dayText (days : Nat) : String :=
  let (year, day) := yearOf days 1970 days
  let (month, day) := monthOf year 11 1 day
  String.ofList (padded 4 year ++ '-' :: padded 2 month ++ '-' :: padded 2 (day + 1))

/-! ## Times -/

/-- The day, hour and minute of a time in milliseconds since the start of 1970. -/
def stampAt (millis : Nat) : Stamp where
  day := dayText (millis / 86400000)
  hour := String.ofList (padded 2 (millis / 3600000 % 24))
  minute := String.ofList (padded 2 (millis / 60000 % 60))

/-- The text of a time in milliseconds since the start of 1970. -/
def timeText (millis : Nat) : String :=
  let s := stampAt millis
  s.day ++ "T" ++ s.hour ++ ":" ++ s.minute ++ ":" ++
    String.ofList (padded 2 (millis / 1000 % 60) ++ '.' :: padded 3 (millis % 1000)) ++ "Z"

end CompanySearch.Log
