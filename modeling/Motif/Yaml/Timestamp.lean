import Motif.Yaml.Scalar

/-!
# Dates and moments in YAML

A date is written `2001-12-14`. A moment has a time after the date, a fraction of a second if need
be, and the offset of its clock: `2001-12-14T21:59:43.10-05:00`. In a moment the numbers of a date
may have one digit each.
-/

namespace Motif.Yaml

/-- A time and the offset of the clock in minutes, as they are written. -/
structure ClockTime where
  hour : Nat
  minute : Nat
  second : Nat
  microsecond : Nat
  offset : Option Int
deriving DecidableEq, Repr

/-- The numbers of a date or a moment, as they are written. -/
structure Timestamp where
  year : Nat
  month : Nat
  day : Nat
  time : Option ClockTime
deriving DecidableEq, Repr

namespace Timestamp

def ofDigits (ds : List Char) : Nat :=
  ds.foldl (fun n d ↦ 10 * n + (d.toNat - '0'.toNat)) 0

/-- Reads a number that has from `least` to `most` digits. -/
def number? (least most : Nat) (cs : List Char) : Option (Nat × List Char) :=
  let ds := (cs.take most).takeWhile Char.isDigit
  if least ≤ ds.length then some (ofDigits ds, cs.drop ds.length) else none

def mark? (c : Char) : List Char → Option (List Char)
  | d :: cs => if d = c then some cs else none
  | [] => none

/-- Whether a text is at its end. A line feed may stand there. -/
def atEnd (cs : List Char) : Bool := cs = [] || cs = ['\n']

/-- Whether a character is a space or a tab. -/
def isSpace (c : Char) : Bool := c = ' ' || c = '\t'

def fractionDigits : Nat := 6

/-- The microseconds that the digits of a fraction denote. What is smaller is left out. -/
def microseconds (ds : List Char) : Nat :=
  let ds := ds.take fractionDigits
  ofDigits (ds ++ List.replicate (fractionDigits - ds.length) '0')

/-- Reads the offset at the end of a moment, which may be missing. -/
def offset? (cs : List Char) : Option (Option Int) :=
  if atEnd cs then some none
  else
    match cs.dropWhile isSpace with
    | 'Z' :: cs => if atEnd cs then some (some 0) else none
    | sign :: cs =>
      if sign = '+' ∨ sign = '-' then do
        let (hours, cs) ← number? 1 2 cs
        let (minutes, cs) ←
          match cs with
          | ':' :: cs => number? 2 2 cs
          | cs => some (0, cs)
        let total : Int := (hours * 60 + minutes : Nat)
        if atEnd cs then some (some (if sign = '-' then -total else total)) else none
      else none
    | [] => none

/-- Reads the time after the date of a moment. -/
def time? (cs : List Char) : Option ClockTime := do
  let (hour, cs) ← number? 1 2 cs
  let (minute, cs) ← number? 2 2 (← mark? ':' cs)
  let (second, cs) ← number? 2 2 (← mark? ':' cs)
  let (fraction, cs) : List Char × List Char :=
    match cs with
    | '.' :: cs => (cs.takeWhile Char.isDigit, cs.dropWhile Char.isDigit)
    | cs => ([], cs)
  pure ⟨hour, minute, second, microseconds fraction, ← offset? cs⟩

def read? (cs : List Char) : Option Timestamp := do
  let (year, cs) ← number? 4 4 cs
  let (month, cs) ← number? 1 2 (← mark? '-' cs)
  let (day, cs) ← number? 1 2 (← mark? '-' cs)
  match cs with
  | [] => pure ⟨year, month, day, none⟩
  | c :: rest =>
    if c = 'T' ∨ c = 't' then pure ⟨year, month, day, some (← time? rest)⟩
    else if isSpace c then pure ⟨year, month, day, some (← time? (rest.dropWhile isSpace))⟩
    else if atEnd cs then pure ⟨year, month, day, none⟩
    else none

/-- The number of characters of a date with two digits for the month and the day. -/
def dateLength : Nat := 10

/-- Whether a plain text is a date or a moment. A plain date has two digits for the month and the
day. -/
def isPlain (cs : List Char) : Bool :=
  match read? cs with
  | none => false
  | some t => t.time.isSome || dateLength ≤ (cs.takeWhile (· ≠ '\n')).length

def scalar (t : Timestamp) : Except Calendar.Fault Scalar :=
  match t.time with
  | none => (Calendar.Date.ofNumbers t.year t.month t.day).map .date
  | some c =>
    (Calendar.Moment.ofNumbers t.year t.month t.day c.hour c.minute c.second c.microsecond
      c.offset).map .moment

end Timestamp

end Motif.Yaml
