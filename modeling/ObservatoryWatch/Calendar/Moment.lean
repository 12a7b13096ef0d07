import ObservatoryWatch.Number.Decimal
import ObservatoryWatch.Number.Word

/-!
Moments of the proleptic Gregorian calendar.

A moment is a day, counted from the first of January of year 1, and a time of day.
Going forward or back by seconds is then plain division, and only days of the years
1 to 9999 are moments. Years, months and days matter for reading and writing alone.
-/

namespace ObservatoryWatch.Calendar

open Number

def secondsPerDay : Nat := 86400

/-- The last day of year 9999; the first day of year 1 is day 1. -/
def lastDay : Int := 3652059

/-- A second of a day in the years 1 to 9999, and the microseconds past it. -/
structure Moment where
  day : Int
  second : Nat
  microsecond : Nat
  day_pos : 0 < day
  day_le : day ≤ lastDay
  second_lt : second < secondsPerDay
  deriving DecidableEq

/-- The beginning of the calendar. -/
def Moment.first : Moment := ⟨1, 0, 0, by decide, by decide, by decide⟩

/-- The moment so many seconds after the first of year 1 begins; none outside the years. -/
def Moment.ofSeconds? (seconds : Int) (microsecond : Nat) : Option Moment :=
  let day := seconds / secondsPerDay + 1
  if bounds : 0 < day ∧ day ≤ lastDay then
    some
      { day
        second := (seconds % secondsPerDay).toNat
        microsecond
        day_pos := bounds.1
        day_le := bounds.2
        second_lt := by unfold secondsPerDay; omega }
  else none

/-- Seconds from the beginning of the calendar to a moment. -/
def Moment.seconds (moment : Moment) : Int :=
  (moment.day - 1) * secondsPerDay + moment.second

/-- The moment so many seconds later, or earlier; none outside the years. -/
def Moment.after? (moment : Moment) (seconds : Int) : Option Moment :=
  Moment.ofSeconds? (moment.seconds + seconds) moment.microsecond

/-! ## Dates -/

def isLeapYear (year : Nat) : Bool :=
  year % 4 == 0 && (year % 100 != 0 || year % 400 == 0)

def monthLengths (year : Nat) : List Nat :=
  [31, if isLeapYear year then 29 else 28, 31, 30, 31, 30, 31, 31, 30, 31, 30, 31]

/-- Days before the first of January of a year. -/
def daysBeforeYear (year : Nat) : Nat :=
  let complete := year - 1
  complete * 365 + complete / 4 - complete / 100 + complete / 400

/-- The number of a day given by its date. -/
def dayOfDate (year month day : Nat) : Nat :=
  daysBeforeYear year + ((monthLengths year).take (month - 1)).foldl (· + ·) 0 + day

/-- The year of a day. Four hundred years have 146097 days; the year found by that ratio
is the right one or a neighbour of it. -/
def yearOfDay (day : Nat) : Nat :=
  let guess := day * 400 / 146097 + 1
  if day ≤ daysBeforeYear guess then guess - 1
  else if daysBeforeYear (guess + 1) < day then guess + 1
  else guess

/-- Month and day of the month from the days left in a year. -/
def monthAndDay : Nat → List Nat → Nat → Nat × Nat
  | month, length :: rest, day =>
    if day ≤ length then (month, day) else monthAndDay (month + 1) rest (day - length)
  | month, [], day => (month, day)

def dateOfDay (day : Nat) : Nat × Nat × Nat :=
  let year := yearOfDay day
  let (month, dayOfMonth) := monthAndDay 1 (monthLengths year) (day - daysBeforeYear year)
  (year, month, dayOfMonth)

example : dateOfDay 1 = (1, 1, 1) ∧ dateOfDay 3652059 = (9999, 12, 31) := by decide +kernel
example : dateOfDay (dayOfDate 2024 2 29) = (2024, 2, 29) := by decide +kernel

/-! ## Reading and writing -/

/-- The time of day with two digits for each part. -/
def Moment.clockText (moment : Moment) : String :=
  padded 2 (moment.second / 3600) ++ ":" ++ padded 2 (moment.second / 60 % 60) ++ ":" ++
    padded 2 (moment.second % 60)

def Moment.dateText (moment : Moment) : String :=
  let (year, month, day) := dateOfDay moment.day.toNat
  padded 4 year ++ "-" ++ padded 2 month ++ "-" ++ padded 2 day

/-- Date, time and offset from universal time; a fraction appears only if there is one. -/
def Moment.utcText (moment : Moment) : String :=
  moment.dateText ++ "T" ++ moment.clockText ++
    (if moment.microsecond = 0 then "" else "." ++ padded 6 moment.microsecond) ++ "+00:00"

def ofDigits? (digits : List Char) : Option Nat :=
  if digits.isEmpty || !digits.all Char.isDigit then none else some (digitsValue digits)

/-- Reads the parts of a text that stand at fixed places. -/
def part? (characters : List Char) (start width : Nat) : Option Nat :=
  ofDigits? ((characters.drop start).take width)

/-- Reads a date and a time of day; a fraction counts to the microsecond and an offset
is passed over, since a local clock shows local time. -/
def Moment.ofText? (text : String) : Option Moment := do
  let characters := text.toList
  let year ← part? characters 0 4
  let month ← part? characters 5 2
  let day ← part? characters 8 2
  let hour ← part? characters 11 2
  let minute ← part? characters 14 2
  let second ← part? characters 17 2
  let fraction := match characters.drop 19 with
    | '.' :: rest => (rest.takeWhile Char.isDigit ++ List.replicate 6 '0').take 6
    | _ => []
  Moment.ofSeconds? (((dayOfDate year month day : Int) - 1) * secondsPerDay +
    (hour * 3600 + minute * 60 + second : Nat)) (digitsValue fraction)

/-! ## Since 1970 -/

/-- Why a count of seconds is no moment. -/
inductive TimestampFault where
  | notNumber
  | pastCounter
  | pastClock
  | pastYears (year : Int)
  deriving DecidableEq, Repr

def TimestampFault.message : TimestampFault → String
  | notNumber => "Invalid value NaN (not a number)"
  | pastCounter => "timestamp out of range for platform time_t"
  | pastClock => "[Errno 75] Value too large for defined data type"
  | pastYears year => "year " ++ toString year ++ " is out of range"

/-- Days of four hundred years, after which the calendar repeats. -/
def cycleDays : Nat := 146097

/-- The year of a day that may lie outside the years of moments. -/
def yearOfAnyDay (day : Int) : Int :=
  (day - 1) / cycleDays * 400 + yearOfDay (((day - 1) % cycleDays).toNat + 1)

/-- Seconds from the beginning of the calendar to the beginning of 1970. -/
def secondsBefore1970 : Int := (dayOfDate 1970 1 1 - 1 : Nat) * (secondsPerDay : Int)

/-- A clock keeps the years since 1900 in a signed 32-bit number. -/
def clockHasYear (year : Int) : Bool := isWord 32 (year - 1900)

/-- The moment so many microseconds after 1970 began. -/
def Moment.ofMicroseconds (microseconds : Int) : Except TimestampFault Moment :=
  let seconds := secondsBefore1970 + microseconds / 1000000
  match Moment.ofSeconds? seconds (microseconds % 1000000).toNat with
  | some moment => .ok moment
  | none =>
    let year := yearOfAnyDay (seconds / secondsPerDay + 1)
    .error (if clockHasYear year then .pastYears year else .pastClock)

/-- The moment of a count of seconds, rounded to the microsecond. The count must fit a
signed 64-bit number. -/
def Moment.ofTimestamp (timestamp : Binary64) : Except TimestampFault Moment :=
  if timestamp.isNaN then .error .notNumber
  else
    let moment? := do
      let whole ← timestamp.truncate?
      let fraction := timestamp - (Binary64.ofInt? whole).getD .nan
      let rest ← (fraction * Binary64.ofNat 1000000).nearest?
      let microseconds := whole * 1000000 + rest
      if isWord 64 (microseconds / 1000000) then some (Moment.ofMicroseconds microseconds)
      else none
    moment?.getD (.error .pastCounter)

example : yearOfAnyDay 0 = 0 ∧ yearOfAnyDay 3652060 = 10000 := by decide +kernel

end ObservatoryWatch.Calendar
