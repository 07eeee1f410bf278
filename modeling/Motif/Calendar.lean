import Motif.Display

/-!
# Dates and moments

A date is a day of the calendar that is in use today, carried back to the year one. A moment is a
time of a date, to the microsecond. It may say how far the clock that shows it is ahead of universal
time; then it is the same as the moments that other clocks show at that instant.
-/

namespace Motif.Calendar

/-- Why numbers are no date or moment. -/
inductive Fault where
  | year (year : Nat)
  | month
  | day
  | hour
  | minute
  | second
  /-- A clock is ahead of universal time, or behind it, by a day or more. -/
  | offset (minutes : Int)
deriving DecidableEq, Repr

/-! ## Durations -/

/-- A number of minutes as messages give it: whole days, which may be negative, and seconds. -/
def durationText (minutes : Int) : String :=
  let days := minutes.fdiv 1440
  let seconds := minutes.fmod 1440 * 60
  let parts :=
    (if days = 0 then [] else ["days=" ++ days.repr]) ++
      if seconds = 0 then [] else ["seconds=" ++ seconds.repr]
  "datetime.timedelta(" ++ (if parts = [] then "0" else ", ".intercalate parts) ++ ")"

def Fault.message : Fault → String
  | year y => "year " ++ y.repr ++ " is out of range"
  | month => "month must be in 1..12"
  | day => "day is out of range for month"
  | hour => "hour must be in 0..23"
  | minute => "minute must be in 0..59"
  | second => "second must be in 0..59"
  | offset minutes =>
    "offset must be a timedelta strictly between -timedelta(hours=24) and timedelta(hours=24)" ++
      ", not " ++ durationText minutes ++ "."

/-! ## Dates -/

/-- A date. -/
structure Date where
  year : Nat
  month : Nat
  day : Nat
deriving DecidableEq, Repr

/-- Whether a year has a day more than others. -/
def isLeap (year : Nat) : Bool := year % 4 = 0 && (year % 100 ≠ 0 || year % 400 = 0)

def daysIn (year month : Nat) : Nat :=
  if month = 2 then if isLeap year then 29 else 28
  else if [4, 6, 9, 11].contains month then 30
  else 31

/-- A number in decimal digits, filled up with zeros to a width. -/
def padded (width n : Nat) : String :=
  let digits := Nat.toDigits 10 n
  String.ofList (List.replicate (width - digits.length) '0' ++ digits)

namespace Date

/-- The last year that has dates. -/
def lastYear : Nat := 9999

/-- The date with the given numbers, if there is one. -/
def ofNumbers (year month day : Nat) : Except Fault Date :=
  if year = 0 ∨ lastYear < year then .error (.year year)
  else if month = 0 ∨ 12 < month then .error .month
  else if day = 0 ∨ daysIn year month < day then .error .day
  else .ok ⟨year, month, day⟩

/-- The number of days from the first day of the year one, which counts as one. -/
def ordinal (d : Date) : Nat :=
  let y := d.year - 1
  let before := 365 * y + y / 4 - y / 100 + y / 400
  let inMonths := (List.range (d.month - 1)).foldl (fun days m ↦ days + daysIn d.year (m + 1)) 0
  before + inMonths + d.day

def text (d : Date) : String :=
  padded 4 d.year ++ "-" ++ padded 2 d.month ++ "-" ++ padded 2 d.day

/-- The numbers of a date, as messages list them. -/
def numbers (d : Date) : List Nat := [d.year, d.month, d.day]

instance : Display Date where
  text := text
  quoted d := "datetime.date(" ++ ", ".intercalate (d.numbers.map Nat.repr) ++ ")"

end Date

/-! ## Moments -/

/-- A moment. -/
structure Moment where
  date : Date
  hour : Nat
  minute : Nat
  second : Nat
  microsecond : Nat
  /-- How many minutes the clock is ahead of universal time, if that is known. -/
  offset : Option Int
deriving DecidableEq, Repr

namespace Moment

def checkOffset (offset : Option Int) : Except Fault Unit :=
  match offset with
  | some minutes => if minutes.natAbs < 1440 then .ok () else .error (.offset minutes)
  | none => .ok ()

/-- The moment with the given numbers, if there is one. -/
def ofNumbers (year month day hour minute second microsecond : Nat) (offset : Option Int) :
    Except Fault Moment := do
  checkOffset offset
  let date ← Date.ofNumbers year month day
  if 23 < hour then throw .hour
  if 59 < minute then throw .minute
  if 59 < second then throw .second
  pure ⟨date, hour, minute, second, microsecond, offset⟩

/-- The microseconds of universal time from the beginning of the year one, if the offset is known.
Moments with the same instant are the same. -/
def instant? (m : Moment) : Option Int :=
  m.offset.map fun offset ↦
    let minutes : Int := (m.date.ordinal * 1440 + m.hour * 60 + m.minute : Nat)
    (minutes - offset) * 60000000 + (m.second * 1000000 + m.microsecond : Nat)

def offsetText (minutes : Int) : String :=
  (if minutes < 0 then "-" else "+") ++ padded 2 (minutes.natAbs / 60) ++ ":" ++
    padded 2 (minutes.natAbs % 60)

/-- The text of a moment. Microseconds are left out if there are none. -/
def text (m : Moment) : String :=
  m.date.text ++ " " ++ padded 2 m.hour ++ ":" ++ padded 2 m.minute ++ ":" ++ padded 2 m.second ++
    (if m.microsecond = 0 then "" else "." ++ padded 6 m.microsecond) ++
    m.offset.elim "" offsetText

/-- The clock of an offset, as messages give it. -/
def clockText (minutes : Int) : String :=
  if minutes = 0 then "datetime.timezone.utc"
  else "datetime.timezone(" ++ durationText minutes ++ ")"

/-- The numbers of a moment, as messages list them: seconds and microseconds only if there are
any. -/
def numbers (m : Moment) : List Nat :=
  m.date.numbers ++ [m.hour, m.minute] ++
    if m.microsecond ≠ 0 then [m.second, m.microsecond]
    else if m.second ≠ 0 then [m.second] else []

instance : Display Moment where
  text := text
  quoted m :=
    "datetime.datetime(" ++ ", ".intercalate (m.numbers.map Nat.repr) ++
      m.offset.elim "" (fun minutes ↦ ", tzinfo=" ++ clockText minutes) ++ ")"

end Moment

end Motif.Calendar
