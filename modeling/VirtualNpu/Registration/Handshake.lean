import VirtualNpu.Text.Digits

/-!
The handshake: the time of the last report, by which the scheduler knows that a node is alive.  It
is shown in the proleptic Gregorian calendar, by dates of days counted from 1970-01-01.
-/

namespace VirtualNpu
namespace Registration

/-! ### The calendar -/

structure CivilTime where
  year : Int
  month : Nat
  day : Nat
  hour : Nat
  minute : Nat
  second : Nat
  deriving DecidableEq

/-- Days before a year of an era of 400 years, which begins in March. -/
def daysBeforeYear (year : Nat) : Nat :=
  365 * year + year / 4 - year / 100

def daysBeforeMonth (month : Nat) : Nat :=
  (153 * month + 2) / 5

/-- The year of an era, the month from March on and the day from one on, by the number of days since
the era began. -/
def splitEraDay (eraDay : Nat) : Nat × Nat × Nat :=
  let year := (eraDay - eraDay / 1460 + eraDay / 36524 - eraDay / 146096) / 365
  let yearDay := eraDay - daysBeforeYear year
  let month := (5 * yearDay + 2) / 153
  (year, month, yearDay - daysBeforeMonth month + 1)

/-- The date that lies `days` after 1970-01-01.  Eras of 146097 days begin on the
first of March of the years divisible by 400. -/
def civilDate (days : Int) : Int × Nat × Nat :=
  let shifted := days + 719468
  let era := shifted.fdiv 146097
  let (eraYear, marchMonth, day) := splitEraDay (shifted.fmod 146097).toNat
  let month := if marchMonth < 10 then marchMonth + 3 else marchMonth - 9
  let year := eraYear + era * 400
  (if month ≤ 2 then year + 1 else year, month, day)

def CivilTime.ofSeconds (seconds : Int) : CivilTime :=
  let (year, month, day) := civilDate (seconds.fdiv 86400)
  let clock := (seconds.fmod 86400).toNat
  { year, month, day
    hour := clock / 3600
    minute := clock / 60 % 60
    second := clock % 60 }

/-- A year: four digits at least, and a sign outside 0 to 9999. -/
def yearText (year : Int) : String :=
  let digits := Text.padded 4 year.natAbs
  if year < 0 then "-" ++ digits
  else if year ≤ 9999 then digits
  else "+" ++ digits

def CivilTime.render (time : CivilTime) : String :=
  yearText time.year ++ "-" ++ Text.padded 2 time.month ++ "-" ++ Text.padded 2 time.day
    ++ " " ++ Text.padded 2 time.hour ++ ":" ++ Text.padded 2 time.minute
    ++ ":" ++ Text.padded 2 time.second

/-- The first second of the calendar, the start of the year -262143. -/
def firstSecond : Int := -8334601228800

/-- The last second of the calendar, the end of the year 262142. -/
def lastSecond : Int := 8210266876799

def inCalendar (seconds : Int) : Bool :=
  firstSecond ≤ seconds && seconds ≤ lastSecond

/-! ### The text of a handshake -/

/-- The largest number of seconds that a span of time may last, forwards or
backwards, when spans count milliseconds in 64 bits. -/
def longestSpan : Nat := 9223372036854775

def isSpan (seconds : Int) : Bool :=
  seconds.natAbs ≤ longestSpan

/-- The report time `now + offset` as a clock that is `zone` seconds east of UTC
shows it; `none` where a moment leaves the calendar. -/
def handshake? (now zone offset : Int) : Option String :=
  if inCalendar now && isSpan offset && inCalendar (now + offset) then
    some ("Reported " ++ (CivilTime.ofSeconds (now + offset + zone)).render)
  else none

end Registration
end VirtualNpu
