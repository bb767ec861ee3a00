/-!
# Moments

A moment is a date, perhaps with a time of the day and a time zone. Two moments with time zones are
the same when they are at the same instant, wherever that is; other moments are the same when all
their parts are.
-/

namespace ModelGraph

/-- A time zone, by how many minutes it is ahead of the common time. -/
structure Zone where
  minutes : Int
  deriving DecidableEq, Repr

/-- A time of the day. -/
structure Clock where
  hour : Nat
  minute : Nat
  second : Nat
  microsecond : Nat
  zone : Option Zone
  deriving DecidableEq, Repr

/-- A date, perhaps with a time of the day. -/
structure Moment where
  year : Nat
  month : Nat
  day : Nat
  clock : Option Clock
  deriving DecidableEq, Repr

/-! ## Showing -/

namespace Zone

/-- A duration of some minutes as it is shown: in days and seconds, of which the seconds are not
negative. -/
def duration (minutes : Int) : String :=
  let days := Int.fdiv minutes 1440
  let seconds := 60 * Int.fmod minutes 1440
  let parts :=
    (if days = 0 then [] else ["days=" ++ toString days]) ++
      (if seconds = 0 then [] else ["seconds=" ++ toString seconds])
  "datetime.timedelta(" ++ (if parts.isEmpty then "0" else ", ".intercalate parts) ++ ")"

/-- A time zone as it is shown. -/
def shown (zone : Zone) : String :=
  if zone.minutes = 0 then "datetime.timezone.utc"
  else "datetime.timezone(" ++ duration zone.minutes ++ ")"

end Zone

/-- The parts of a time of the day as they are shown; seconds and their fraction are left out when
they are zero. -/
def Clock.shownParts (c : Clock) : List String :=
  let numbers :=
    if c.microsecond ≠ 0 then [c.hour, c.minute, c.second, c.microsecond]
    else if c.second ≠ 0 then [c.hour, c.minute, c.second]
    else [c.hour, c.minute]
  numbers.map toString ++ (c.zone.map fun zone => "tzinfo=" ++ zone.shown).toList

namespace Moment

/-- A moment as it is shown. -/
def shown (m : Moment) : String :=
  let date := [m.year, m.month, m.day].map toString
  match m.clock with
  | none => "datetime.date(" ++ ", ".intercalate date ++ ")"
  | some c => "datetime.datetime(" ++ ", ".intercalate (date ++ c.shownParts) ++ ")"

/-! ## The calendar -/

/-- Whether a year has a leap day. -/
def isLeap (year : Nat) : Bool :=
  year % 4 == 0 && (year % 100 != 0 || year % 400 == 0)

/-- The number of days of a month. -/
def daysIn (year month : Nat) : Nat :=
  if month = 2 then (if isLeap year then 29 else 28)
  else if month = 4 ∨ month = 6 ∨ month = 9 ∨ month = 11 then 30
  else 31

/-- The number of days before a date since the beginning of the year 1. -/
def daysBefore (year month day : Nat) : Nat :=
  let years := year - 1
  let months := (List.range (month - 1)).map fun m => daysIn year (m + 1)
  365 * years + years / 4 - years / 100 + years / 400 + months.foldr (· + ·) 0 + (day - 1)

/-- The instant of a moment with a time zone, in microseconds since the beginning of the year 1. -/
def instant? (m : Moment) : Option Int :=
  m.clock.bind fun c =>
    c.zone.map fun zone =>
      let minutes : Int := 1440 * daysBefore m.year m.month m.day + 60 * c.hour + c.minute
      (60 * (minutes - zone.minutes) + c.second) * 1000000 + c.microsecond

/-- Whether two moments are the same. -/
def same (m n : Moment) : Bool :=
  match m.instant?, n.instant? with
  | some a, some b => a == b
  | none, none => m == n
  | _, _ => false

end Moment

end ModelGraph
