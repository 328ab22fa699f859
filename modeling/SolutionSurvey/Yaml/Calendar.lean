import SolutionSurvey.Failure
import SolutionSurvey.Number.Whole
import SolutionSurvey.Yaml.Tag

/-!
# Dates and times of YAML

A text for a point in time as a date or a moment, when the calendar has it.

## Main definitions

* `Yaml.readTime` — the date or moment that a text writes.
-/

namespace SolutionSurvey.Yaml

/-- The sentence for a part of a date or time outside its range. -/
def outside (sentence : String) : Except Failure Unit :=
  .error (.value (.outOfCalendar sentence))

/-- Whether a year has a day more. -/
def isLeap (year : Nat) : Bool :=
  year % 4 == 0 && (year % 100 != 0 || year % 400 == 0)

/-- The number of days of a month. -/
def daysOf (year month : Nat) : Nat :=
  if month = 2 then (if isLeap year then 29 else 28)
  else if [4, 6, 9, 11].contains month then 30
  else 31

/-- Checks a date: year, month and day, in this order. -/
def checkDate (year month day : Nat) : Except Failure Unit :=
  if year = 0 then outside ("year " ++ toString year ++ " is out of range")
  else if month < 1 ∨ 12 < month then outside "month must be in 1..12"
  else if day < 1 ∨ daysOf year month < day then outside "day is out of range for month"
  else .ok ()

/-- Checks a time of day: hour, minute and second, in this order. -/
def checkClock (hour minute second : Nat) : Except Failure Unit :=
  if 23 < hour then outside "hour must be in 0..23"
  else if 59 < minute then outside "minute must be in 0..59"
  else if 59 < second then outside "second must be in 0..59"
  else .ok ()

/-- The millionths of a second that the digits of a fraction write, cut after the sixth one. -/
def fractionOf (ds : List Char) : Nat :=
  Whole.ofDigits 10 ((ds ++ List.replicate 6 '0').take 6)

/-- A span of minutes in days and seconds, of which only the days may be below zero. -/
def spanText (minutes : Int) : String :=
  let days := minutes.fdiv 1440
  let seconds := minutes.fmod 1440 * 60
  "datetime.timedelta(days=" ++ toString days ++
    (if seconds = 0 then "" else ", seconds=" ++ toString seconds) ++ ")"

/-- The offset from universal time in minutes; it is less than a day. -/
def offsetOf (zone : Option Char × List Char × List Char) : Except Failure Int :=
  let minutes : Int := Whole.ofDigits 10 zone.2.1 * 60 + Whole.ofDigits 10 zone.2.2
  let minutes := if zone.1 == some '-' then -minutes else minutes
  if minutes.natAbs < 1440 then .ok minutes
  else (outside ("offset must be a timedelta strictly between -timedelta(hours=24) and " ++
    "timedelta(hours=24), not " ++ spanText minutes ++ ".")).map fun _ => minutes

/-- The date or moment that a text writes. A line feed at its end counts for nothing. -/
def readTime (cs : List Char) : Except Failure Value := do
  match Tag.time? (Tag.withoutFinalBreak cs) with
  | none => .error .attributeMissing
  | some t =>
    let year := Whole.ofDigits 10 t.year
    let month := Whole.ofDigits 10 t.month
    let day := Whole.ofDigits 10 t.day
    match t.clock with
    | none =>
      checkDate year month day
      pure (.date year month day)
    | some (hour, minute, second, fraction) =>
      let hour := Whole.ofDigits 10 hour
      let minute := Whole.ofDigits 10 minute
      let second := Whole.ofDigits 10 second
      let offset ← match t.zone with
        | none => pure none
        | some z => some <$> offsetOf z
      checkDate year month day
      checkClock hour minute second
      pure (.moment ⟨year, month, day, hour, minute, second, fractionOf fraction, offset⟩)

end SolutionSurvey.Yaml
