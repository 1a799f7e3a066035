/-! Dates and times of the Gregorian calendar, as documents write them. -/

namespace CmsMarkup

structure Date where
  year : Nat
  month : Nat
  day : Nat
  deriving DecidableEq, Repr

/-- A time of day on a date; `offset` is the distance from universal time in minutes. -/
structure Moment where
  date : Date
  hour : Nat
  minute : Nat
  second : Nat
  microsecond : Nat
  offset : Option Int
  deriving DecidableEq, Repr

inductive CalendarFault where
  | year (y : Nat)
  | month
  | day
  | hour
  | minute
  | second
  | offset (minutes : Int)
  deriving DecidableEq, Repr

namespace Calendar

def isLeap (year : Nat) : Bool :=
  year % 4 == 0 && (year % 100 != 0 || year % 400 == 0)

def daysIn (year month : Nat) : Nat :=
  if month = 2 then if isLeap year then 29 else 28
  else if month = 4 || month = 6 || month = 9 || month = 11 then 30
  else 31

/-- The days from the first one of the calendar to a date. -/
def daysBefore (d : Date) : Nat :=
  let years := d.year - 1
  let months := (List.range (d.month - 1)).foldl (fun days m => days + daysIn d.year (m + 1)) 0
  years * 365 + years / 4 - years / 100 + years / 400 + months + (d.day - 1)

/-- A number with zeros in front up to `width` digits. -/
def padded (width n : Nat) : String :=
  let digits := Nat.toDigits 10 n
  String.ofList (List.replicate (width - digits.length) '0' ++ digits)

/-- A span of minutes, by whole days and the seconds left. -/
def spanText (minutes : Int) : String :=
  let days := Int.fdiv minutes 1440
  let seconds := Int.fmod minutes 1440 * 60
  let parts := (if days = 0 then [] else ["days=" ++ toString days]) ++
    if seconds = 0 then [] else ["seconds=" ++ toString seconds]
  "datetime.timedelta(" ++ (if parts.isEmpty then "0" else ", ".intercalate parts) ++ ")"

end Calendar

open Calendar

def CalendarFault.message : CalendarFault → String
  | .year y => "year " ++ toString y ++ " is out of range"
  | .month => "month must be in 1..12"
  | .day => "day is out of range for month"
  | .hour => "hour must be in 0..23"
  | .minute => "minute must be in 0..59"
  | .second => "second must be in 0..59"
  | .offset minutes =>
    "offset must be a timedelta strictly between -timedelta(hours=24) and timedelta(hours=24), not "
      ++ spanText minutes ++ "."

namespace Date

def check (d : Date) : Except CalendarFault Date :=
  if d.year < 1 || 9999 < d.year then .error (.year d.year)
  else if d.month < 1 || 12 < d.month then .error .month
  else if d.day < 1 || daysIn d.year d.month < d.day then .error .day
  else .ok d

def text (d : Date) : String :=
  padded 4 d.year ++ "-" ++ padded 2 d.month ++ "-" ++ padded 2 d.day

def quoted (d : Date) : String :=
  "datetime.date(" ++ toString d.year ++ ", " ++ toString d.month ++ ", " ++ toString d.day ++ ")"

end Date

namespace Moment

/-- The offset is looked at first. -/
def check (t : Moment) : Except CalendarFault Moment :=
  match t.offset with
  | some minutes =>
    if minutes ≤ -1440 || 1440 ≤ minutes then .error (.offset minutes) else checkParts t
  | none => checkParts t
where
  checkParts (t : Moment) : Except CalendarFault Moment :=
    match t.date.check with
    | .error fault => .error fault
    | .ok _ =>
      if 23 < t.hour then .error .hour
      else if 59 < t.minute then .error .minute
      else if 59 < t.second then .error .second
      else .ok t

/-- The microseconds since the first year began, without regard to the offset. -/
def ticks (t : Moment) : Int :=
  (((Calendar.daysBefore t.date * 24 + t.hour) * 60 + t.minute) * 60 + t.second) * 1000000 +
    t.microsecond

/-- Times with an offset are the same when they are one instant, and never the same as a time
without one. -/
def same (t u : Moment) : Bool :=
  match t.offset, u.offset with
  | some m, some n => t.ticks - m * 60000000 == u.ticks - n * 60000000
  | none, none => t == u
  | _, _ => false

def offsetText (minutes : Int) : String :=
  (if minutes < 0 then "-" else "+") ++ padded 2 (minutes.natAbs / 60) ++ ":" ++
    padded 2 (minutes.natAbs % 60)

def text (t : Moment) : String :=
  t.date.text ++ " " ++ padded 2 t.hour ++ ":" ++ padded 2 t.minute ++ ":" ++ padded 2 t.second ++
    (if t.microsecond = 0 then "" else "." ++ padded 6 t.microsecond) ++
    (t.offset.map offsetText).getD ""

/-- Trailing parts that are zero are left out, up to the minutes. -/
def quoted (t : Moment) : String :=
  let parts := [t.date.year, t.date.month, t.date.day, t.hour, t.minute] ++
    (if t.second = 0 && t.microsecond = 0 then [] else [t.second]) ++
    (if t.microsecond = 0 then [] else [t.microsecond])
  let zone :=
    match t.offset with
    | none => ""
    | some 0 => ", tzinfo=datetime.timezone.utc"
    | some minutes => ", tzinfo=datetime.timezone(" ++ spanText minutes ++ ")"
  "datetime.datetime(" ++ ", ".intercalate (parts.map toString) ++ zone ++ ")"

end Moment

end CmsMarkup
