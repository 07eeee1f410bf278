import Motif.Text.Blank
import Motif.Text.Letter
import Motif.Text.Quoted

/-!
# Whole numbers in text

A whole number is written with decimal digits of any script, an optional sign in front and single
underscores between digits; blanks on both sides are ignored, except for the four ASCII separators.
A numeral of more than 4300 digits is refused. `integerToBase` reads whole numbers to other bases
and says what is wrong with a text that is none.
-/

namespace Motif.Text

/-- The longest numeral that is read. -/
def maxNumeralDigits : Nat := 4300

/-- The message for a numeral that is too long. -/
def tooManyDigits (count : Nat) : String :=
  "Exceeds the limit (" ++ maxNumeralDigits.repr ++
    " digits) for integer string conversion: value has " ++ count.repr ++
    " digits; use sys.set_int_max_str_digits() to increase the limit"

/-- The values of the digits of a numeral, underscores removed. `afterDigit` says whether an
underscore may come next. -/
def digitValues? (afterDigit : Bool) : List Char → Option (List Nat)
  | [] => if afterDigit then some [] else none
  | c :: cs =>
    if c = '_' then
      if afterDigit then digitValues? false cs else none
    else do
      let d ← decimalValue? c
      let ds ← digitValues? true cs
      pure (d :: ds)

def ofDigitValues (ds : List Nat) : Nat := ds.foldl (fun n d ↦ 10 * n + d) 0

def natural? (cs : List Char) : Option Nat := do
  let ds ← digitValues? false cs
  if ds.length ≤ maxNumeralDigits then some (ofDigitValues ds) else none

/-- Whether a blank is ignored beside a number. The ASCII separators are not. -/
def isMargin (c : Char) : Bool := isBlank c && !(28 ≤ c.toNat && c.toNat ≤ 31)

/-- Drops the blanks on both sides of a number. -/
def dropMargins (cs : List Char) : List Char :=
  ((cs.dropWhile isMargin).reverse.dropWhile isMargin).reverse

def integer? (cs : List Char) : Option Int :=
  match dropMargins cs with
  | '-' :: ds => (natural? ds).map fun n ↦ -(n : Int)
  | '+' :: ds => (natural? ds).map fun n ↦ (n : Int)
  | ds => (natural? ds).map fun n ↦ (n : Int)

/-! ## Other bases -/

/-- Why a text is not a whole number. -/
inductive NumeralFault where
  /-- The text has something in it that does not belong there, or no digits. -/
  | invalid (base : Nat) (s : String)
  /-- There are more digits than are read. -/
  | tooLong (digits : Nat)
deriving DecidableEq, Repr

/-- The number of characters of a text that a message shows. -/
def maxShown : Nat := 200

def NumeralFault.message : NumeralFault → String
  | invalid base s =>
    "invalid literal for int() with base " ++ base.repr ++ ": " ++
      String.ofList ((quoted s).toList.take maxShown)
  | tooLong digits => tooManyDigits digits

/-- The value of a digit. Letters come after the decimal digits. -/
def digitValue? (c : Char) : Option Nat :=
  if c.isAlpha then some (c.toLower.toNat - 'a'.toNat + 10) else decimalValue? c

/-- Whether a character is a digit to a base. -/
def isDigitTo (base : Nat) (c : Char) : Bool := (digitValue? c).any (· < base)

/-- The letter that marks numerals to a base after a zero. -/
def baseMark? : (base : Nat) → Option Char
  | 2 => some 'b'
  | 8 => some 'o'
  | 16 => some 'x'
  | _ => none

/-- Drops the zero and the letter that mark numerals to a base. -/
def dropBaseMark (base : Nat) : List Char → List Char
  | '0' :: c :: cs => if some c.toLower = baseMark? base then cs else '0' :: c :: cs
  | cs => cs

/-- Reads a whole number to a base. Only decimal numerals can be too long. -/
def integerToBase (base : Nat) (s : String) : Except NumeralFault Int :=
  let cs := s.toList.dropWhile isMargin
  let (negative, cs) : Bool × List Char :=
    match cs with
    | '-' :: cs => (true, cs)
    | '+' :: cs => (false, cs)
    | cs => (false, cs)
  let cs := dropBaseMark base cs
  let digits := cs.takeWhile (isDigitTo base)
  let rest := cs.dropWhile (isDigitTo base)
  if base = 10 ∧ maxNumeralDigits < digits.length then .error (.tooLong digits.length)
  else if digits = [] ∨ ¬ rest.all isMargin then .error (.invalid base s)
  else
    let n := (digits.filterMap digitValue?).foldl (fun n d ↦ base * n + d) 0
    .ok (if negative then -(n : Int) else n)

end Motif.Text
