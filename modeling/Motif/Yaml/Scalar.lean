import Motif.Calendar
import Motif.Double.Decimal

/-!
# YAML scalars

A scalar is nothing, a truth value, a number, a text, a sequence of bytes, a date or a moment.

Scalars are the keys of mappings. Two scalars are the same key if they are equal as numbers, where a
truth value is one or zero, or as moments, wherever they are observed; otherwise they have to be of
one kind and equal.
-/

namespace Motif.Yaml

/-- A value without parts. -/
inductive Scalar where
  | null
  | bool (b : Bool)
  | number (n : Int)
  | float (x : Double)
  | text (s : String)
  | bytes (bs : List Nat)
  | date (d : Calendar.Date)
  | moment (m : Calendar.Moment)
deriving DecidableEq, Repr

/-- What two scalars have in common if they are the same key. -/
inductive Key where
  | null
  | number (n : Int)
  /-- A number that is not whole, or none. -/
  | float (x : Double)
  | text (s : String)
  | bytes (bs : List Nat)
  | date (d : Calendar.Date)
  /-- A moment of a clock that is not set to universal time. -/
  | moment (m : Calendar.Moment)
  /-- A moment in microseconds of universal time. -/
  | instant (n : Int)
deriving DecidableEq, Repr

namespace Scalar

def key : Scalar → Key
  | null => .null
  | bool b => .number (if b then 1 else 0)
  | number n => .number n
  | float x =>
    match x.integer? with
    | some n => .number n
    | none => .float x
  | text s => .text s
  | bytes bs => .bytes bs
  | date d => .date d
  | moment m =>
    match m.instant? with
    | some n => .instant n
    | none => .moment m

/-- Whether two scalars are equal. What is not a number is equal to nothing, not even to itself. -/
def same (s t : Scalar) : Bool := s.key = t.key && s ≠ float .nan

/-- Whether a scalar counts as a value at all, rather than as nothing. -/
def isGiven : Scalar → Bool
  | null => false
  | bool b => b
  | number n => n ≠ 0
  | float x => !x.isZero
  | text s => s ≠ ""
  | bytes bs => !bs.isEmpty
  | date _ => true
  | moment _ => true

/-- The kind of a scalar, as messages give it. -/
def kind : Scalar → String
  | null => "NoneType"
  | bool _ => "bool"
  | number _ => "int"
  | float _ => "float"
  | text _ => "str"
  | bytes _ => "bytes"
  | date _ => "datetime.date"
  | moment _ => "datetime.datetime"

instance : Display Scalar where
  text
    | null => "None"
    | bool true => "True"
    | bool false => "False"
    | number n => Display.text n
    | float x => Display.text x
    | text s => s
    | bytes bs => Text.quotedBytes bs
    | date d => Display.text d
    | moment m => Display.text m
  quoted
    | null => "None"
    | bool true => "True"
    | bool false => "False"
    | number n => Display.quoted n
    | float x => Display.quoted x
    | text s => Display.quoted s
    | bytes bs => Text.quotedBytes bs
    | date d => Display.quoted d
    | moment m => Display.quoted m

/-- Whether a scalar can be shown: numbers of too many digits cannot. -/
def isShowable : Scalar → Bool
  | number n => n.natAbs < Nat.pow 10 Text.maxNumeralDigits
  | _ => true

@[simp] theorem key_text (s : String) : (text s).key = .text s := rfl

end Scalar

/-- A value cannot be shown, because it has a number of too many digits. -/
structure Unshowable where
deriving DecidableEq, Repr

/-- The message for a value that cannot be shown. -/
def Unshowable.message (_ : Unshowable) : String :=
  "Exceeds the limit (" ++ Text.maxNumeralDigits.repr ++
    " digits) for integer string conversion; use sys.set_int_max_str_digits() to increase the limit"

/-- The text of a scalar, if it can be shown. -/
def Scalar.shown? (s : Scalar) : Except Unshowable String :=
  if s.isShowable then .ok (Display.text s) else .error {}

end Motif.Yaml
