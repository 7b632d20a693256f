/-
  FieldRules/Yaml/Time.lean
  =========================
  **Dates and times of YAML documents.**

  A date has year, month and day; a time has hour, minute and second as well,
  and may have a fraction of a second and an offset from universal time.
-/
import FieldRules.Number.Numeral
import FieldRules.Value.Basic
import FieldRules.Yaml.Tag
import FieldRules.Yaml.Token

namespace FieldRules.Yaml

def padded (width value : Nat) : String :=
  let digits := toString value
  String.ofList (List.replicate (width - digits.length) '0') ++ digits

def daysInMonth (year month : Nat) : Nat :=
  if month == 2 then
    if year % 4 == 0 && (year % 100 != 0 || year % 400 == 0) then 29 else 28
  else if [4, 6, 9, 11].contains month then 30
  else 31

/-- A length of time in days and seconds, of which the seconds make less than a day. -/
def shownDuration (negative : Bool) (minutes : Nat) : String :=
  let seconds : Int := if negative then -(minutes * 60) else minutes * 60
  let days := seconds.fdiv 86400
  let rest := seconds.fmod 86400
  let parts := (if days == 0 then [] else ["days=" ++ toString days])
    ++ (if rest == 0 then [] else ["seconds=" ++ toString rest])
  "datetime.timedelta(" ++ (if parts.isEmpty then "0" else ", ".intercalate parts) ++ ")"

def TimeProblem.message : TimeProblem → String
  | year value => "year " ++ toString value ++ " is out of range"
  | month => "month must be in 1..12"
  | day => "day is out of range for month"
  | hour => "hour must be in 0..23"
  | minute => "minute must be in 0..59"
  | second => "second must be in 0..59"
  | offset negative minutes =>
    "offset must be a timedelta strictly between -timedelta(hours=24) and "
      ++ "timedelta(hours=24), not " ++ shownDuration negative minutes ++ "."

def timeForm : Regex :=
  form <|
    "^([0-9][0-9][0-9][0-9])-([0-9][0-9]?)-([0-9][0-9]?)" ++
    "(?:(?:[Tt]|[ \\t]+)([0-9][0-9]?):([0-9][0-9]):([0-9][0-9])(?:\\.([0-9]*))?" ++
    "(?:[ \\t]*(Z|([-+])([0-9][0-9]?)(?::([0-9][0-9]))?))?)?$"

structure Offset where
  negative : Bool
  minutes : Nat
deriving DecidableEq, Repr

structure Date where
  year : Nat
  month : Nat
  day : Nat
deriving DecidableEq, Repr

/-- A time of a day of the calendar, perhaps with its offset from universal time. -/
structure Moment where
  date : Date
  hour : Nat
  minute : Nat
  second : Nat
  microsecond : Nat
  offset : Option Offset
deriving DecidableEq, Repr

/-- What a scalar that is tagged as a time stands for. -/
inductive Time where
  | date (date : Date)
  | moment (moment : Moment)
deriving DecidableEq, Repr

/-! ### Problems -/

def dateProblem? (date : Date) : Option TimeProblem :=
  if date.year == 0 then some (.year date.year)
  else if date.month == 0 || 12 < date.month then some .month
  else if date.day == 0 || daysInMonth date.year date.month < date.day then some .day
  else none

def clockProblem? (moment : Moment) : Option TimeProblem :=
  if 23 < moment.hour then some .hour
  else if 59 < moment.minute then some .minute
  else if 59 < moment.second then some .second
  else none

/-- What is wrong with an offset, which has to be less than a day. -/
def offsetProblem? (offset : Option Offset) : Option TimeProblem :=
  match offset with
  | some zone =>
    if 24 * 60 ≤ zone.minutes then some (.offset zone.negative zone.minutes) else none
  | none => none

/-! ### Times as values -/

def Date.plain (date : Date) : String :=
  padded 4 date.year ++ "-" ++ padded 2 date.month ++ "-" ++ padded 2 date.day

def Date.value (date : Date) : Value :=
  let shown := "datetime.date(" ++ toString date.year ++ ", " ++ toString date.month ++ ", "
    ++ toString date.day ++ ")"
  .object "date" shown date.plain false

def Offset.plain (offset : Offset) : String :=
  (if offset.negative && offset.minutes != 0 then "-" else "+")
    ++ padded 2 (offset.minutes / 60) ++ ":" ++ padded 2 (offset.minutes % 60)

def Offset.shown (offset : Offset) : String :=
  if offset.minutes == 0 then "datetime.timezone.utc"
  else "datetime.timezone(" ++ shownDuration offset.negative offset.minutes ++ ")"

def Moment.value (moment : Moment) : Value :=
  let { date, hour, minute, second, microsecond, offset } := moment
  let clock :=
    if microsecond != 0 then [hour, minute, second, microsecond]
    else if second != 0 then [hour, minute, second]
    else [hour, minute]
  let parts := [date.year, date.month, date.day] ++ clock
  let zone := (offset.map fun offset => ", tzinfo=" ++ offset.shown).getD ""
  let shown := "datetime.datetime(" ++ ", ".intercalate (parts.map toString) ++ zone ++ ")"
  let plain := date.plain ++ " "
    ++ padded 2 hour ++ ":" ++ padded 2 minute ++ ":" ++ padded 2 second
    ++ (if microsecond == 0 then "" else "." ++ padded 6 microsecond)
    ++ (offset.map Offset.plain).getD ""
  .object "datetime" shown plain false

def Time.value : Time → Value
  | .date given => given.value
  | .moment given => given.value

/-! ### Instants -/

def Date.dayNumber (date : Date) : Nat :=
  let years := date.year - 1
  let months := (List.range (date.month - 1)).map fun month => daysInMonth date.year (month + 1)
  years * 365 + years / 4 - years / 100 + years / 400 + months.foldl Nat.add 0 + date.day

/-- The microseconds from the start of the first year, in universal time, to a time
    of which the offset is known. -/
def Moment.instant? (moment : Moment) : Option Int :=
  moment.offset.map fun offset =>
    let shift : Int := if offset.negative then -offset.minutes else offset.minutes
    let minutes : Int := (moment.date.dayNumber * 24 + moment.hour) * 60 + moment.minute
    ((minutes - shift) * 60 + moment.second) * 1000000 + moment.microsecond

def Time.instant? : Time → Option Int
  | .date _ => none
  | .moment given => given.instant?

/-! ### Reading -/

def readTime (content : String) : Except Fault Time := do
  let start : Regex.Cursor := { after := content.toList }
  match timeForm.matchAt start with
  | none => throw .notTime
  | some found =>
    let part (group : Nat) : Option (List Char) := found.groups.lookup group
    let number (group : Nat) : Nat := Number.ofDecimalChars ((part group).getD [])
    let date : Date := { year := number 1, month := number 2, day := number 3 }
    if (part 4).isNone then
      match dateProblem? date with
      | some problem => throw (.badTime problem)
      | none => return .date date
    else
      let fraction := ((part 7).getD []).take 6
      let offset : Option Offset :=
        match part 9 with
        | some sign => some { negative := sign == ['-'], minutes := number 10 * 60 + number 11 }
        | none => if (part 8).isSome then some { negative := false, minutes := 0 } else none
      let moment : Moment :=
        { date := date, hour := number 4, minute := number 5, second := number 6
          microsecond := Number.ofDecimalChars (fraction ++ List.replicate (6 - fraction.length) '0')
          offset := offset }
      match (offsetProblem? offset).or ((dateProblem? date).or (clockProblem? moment)) with
      | some problem => throw (.badTime problem)
      | none => return .moment moment

end FieldRules.Yaml
