/-!
# Dates and times

A file with settings may hold days, times of the day, and times on a day, which JSON has not.  None
of them is a value that a setting takes; they are read so that the rest of the file is.
-/

namespace LayeredMarks

/-- A day of the calendar. -/
structure Date where
  year : Nat
  month : Nat
  day : Nat
deriving DecidableEq, Repr, Inhabited

namespace Date

/-- The number of days of a month. -/
def daysIn (year month : Nat) : Nat :=
  if month = 2 then
    if year % 4 = 0 && (year % 100 ≠ 0 || year % 400 = 0) then 29 else 28
  else if month ∈ [4, 6, 9, 11] then 30
  else 31

/-- Whether there is such a day.  Years, months and days count from one. -/
def isValid (date : Date) : Bool :=
  0 < date.year && 0 < date.month && date.month ≤ 12 && 0 < date.day &&
    date.day ≤ daysIn date.year date.month

/-- The numbers of a day, as messages list them. -/
def numbers (date : Date) : List Nat := [date.year, date.month, date.day]

end Date

/-- A time of the day. -/
structure TimeOfDay where
  hour : Nat
  minute : Nat
  second : Nat
  microsecond : Nat
deriving DecidableEq, Repr, Inhabited

/-- The numbers of a time, as messages list them: seconds only where there are any, or parts of
them. -/
def TimeOfDay.numbers (time : TimeOfDay) : List Nat :=
  if time.microsecond ≠ 0 then [time.hour, time.minute, time.second, time.microsecond]
  else if time.second ≠ 0 then [time.hour, time.minute, time.second]
  else [time.hour, time.minute]

/-- A day, a time of the day, or a time on a day. -/
inductive Moment where
  | date (day : Date)
  | time (clock : TimeOfDay)
  /-- A time on a day, so many minutes ahead of universal time if that is given. -/
  | dateTime (day : Date) (clock : TimeOfDay) (offset : Option Int)
deriving DecidableEq, Repr, Inhabited

namespace Moment

/-- Whether the day is one, if there is a day. -/
def isValid : Moment → Bool
  | date day | dateTime day _ _ => day.isValid
  | time _ => true

/-- The name of the kind, as complaints give it. -/
def kindName : Moment → String
  | date _ => "date"
  | time _ => "time"
  | dateTime .. => "datetime"

/-- An offset from universal time, as messages show it. -/
def quotedOffset (minutes : Int) : String :=
  let seconds := 60 * minutes
  if seconds = 0 then "datetime.timezone.utc"
  else
    let span :=
      if 0 < seconds then "seconds=" ++ toString seconds
      else "days=-1, seconds=" ++ toString (86400 + seconds)
    "datetime.timezone(datetime.timedelta(" ++ span ++ "))"

/-- The value as messages show it. -/
def quoted (moment : Moment) : String :=
  let listed (numbers : List Nat) : String := ", ".intercalate (numbers.map toString)
  let inside :=
    match moment with
    | date day => listed day.numbers
    | time clock => listed clock.numbers
    | dateTime day clock offset =>
      listed (day.numbers ++ clock.numbers) ++
        match offset with
        | some minutes => ", tzinfo=" ++ quotedOffset minutes
        | none => ""
  "datetime." ++ moment.kindName ++ "(" ++ inside ++ ")"

end Moment

end LayeredMarks
