namespace ReleaseGate

/-- A point in time, in nanoseconds since the start of 1970 in UTC. -/
structure Instant where
  nanoseconds : Int
  deriving DecidableEq, Repr

/-- A day of the Gregorian calendar. -/
structure CivilDate where
  year : Int
  month : Nat
  day : Nat
  deriving DecidableEq, Repr

namespace CivilDate

/-- The date that many days after the start of 1970. Years are counted from March, so that the
leap day ends them; 400 of them have 146097 days. -/
def ofDays (days : Int) : CivilDate :=
  let shifted := days + 719468
  let era := shifted / 146097
  let dayOfEra := (shifted % 146097).toNat
  let yearOfEra := (dayOfEra - dayOfEra / 1460 + dayOfEra / 36524 - dayOfEra / 146096) / 365
  let dayOfYear := dayOfEra - (365 * yearOfEra + yearOfEra / 4 - yearOfEra / 100)
  let index := (5 * dayOfYear + 2) / 153
  let month := if index < 10 then index + 3 else index - 9
  { year := yearOfEra + era * 400 + if month ≤ 2 then 1 else 0
    month := month
    day := dayOfYear - (153 * index + 2) / 5 + 1 }

end CivilDate

namespace Instant

def padLeft (width n : Nat) : String :=
  let digits := Nat.toDigits 10 n
  String.ofList (List.replicate (width - digits.length) '0' ++ digits)

/-- Years of four digits stand alone; any other has its sign. -/
def yearText (year : Int) : String :=
  if 0 ≤ year ∧ year ≤ 9999 then padLeft 4 year.toNat
  else (if year < 0 then "-" else "+") ++ padLeft 4 year.natAbs

def seconds (t : Instant) : Int := t.nanoseconds / 1000000000

def milliseconds (t : Instant) : Int := t.nanoseconds / 1000000

def ofMilliseconds (ms : Int) : Instant := ⟨ms * 1000000⟩

def plusSeconds (t : Instant) (s : Int) : Instant := ⟨t.nanoseconds + s * 1000000000⟩

def dateText (t : Instant) : String :=
  let date := CivilDate.ofDays (t.seconds / 86400)
  yearText date.year ++ "-" ++ padLeft 2 date.month ++ "-" ++ padLeft 2 date.day

def timeText (t : Instant) (sep : String) : String :=
  let s := (t.seconds % 86400).toNat
  padLeft 2 (s / 3600) ++ sep ++ padLeft 2 (s / 60 % 60) ++ sep ++ padLeft 2 (s % 60)

/-- The date and the time to the second. -/
def stamp (t : Instant) : String := t.dateText ++ "T" ++ t.timeText ":" ++ "Z"

/-- The date and the time for use in a file name. -/
def fileStamp (t : Instant) : String := t.dateText ++ "_" ++ t.timeText "-"

/-- Parts of a second are written in thousandths, millionths or billionths, whichever is the first
to say all. -/
def fractionText (t : Instant) : String :=
  let n := (t.nanoseconds % 1000000000).toNat
  if n = 0 then ""
  else if n % 1000000 = 0 then "." ++ padLeft 3 (n / 1000000)
  else if n % 1000 = 0 then "." ++ padLeft 6 (n / 1000)
  else "." ++ padLeft 9 n

def text (t : Instant) : String := t.dateText ++ "T" ++ t.timeText ":" ++ t.fractionText ++ "Z"

/-- The calendar ends with the year 262142. -/
def inCalendar (t : Instant) : Bool := t.seconds / 86400 ≤ 95026236

end Instant

end ReleaseGate
