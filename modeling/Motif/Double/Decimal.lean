import Motif.Display
import Motif.Double.Basic
import Motif.Text.Numeral

/-!
# Doubles in decimal

A double is read from decimal digits with an optional point and exponent, and is the one nearest to
what is written. It is shown by as few digits as read back as the same double, and of those by the
ones nearest to it. Numbers from `0.0001` to below `10¹⁶` are shown with a point, others with an
exponent.
-/

namespace Motif.Double

/-! ## Reading -/

/-- The double nearest to digits times a power of ten. Where the first digit stands so high or so
low that the double is infinite or zero anyway, the power is not computed. -/
def ofDecimal (negative : Bool) (digits : List Nat) (exponent : Int) : Double :=
  let digits := digits.dropWhile (· = 0)
  let point := digits.length + exponent
  if digits = [] ∨ point < -400 then finite negative 0
  else if 400 < point then infinite negative
  else
    let n := Text.ofDigitValues digits
    if 0 ≤ exponent then ofRatio negative (n * Nat.pow 10 exponent.toNat) 1
    else ofRatio negative n (Nat.pow 10 (-exponent).toNat)

/-- The decimal digits at the beginning of a text, and the rest. -/
def digitsFrom : List Char → List Nat × List Char
  | [] => ([], [])
  | c :: cs =>
    match Text.decimalValue? c with
    | none => ([], c :: cs)
    | some d =>
      let (ds, rest) := digitsFrom cs
      (d :: ds, rest)

/-- A sign, if there is one, and the rest: whether it is a minus. -/
def signFrom : List Char → Bool × List Char
  | '-' :: cs => (true, cs)
  | '+' :: cs => (false, cs)
  | cs => (false, cs)

/-- Reads the exponent at the end of a number, which may be missing. -/
def exponent? : List Char → Option Int
  | [] => some 0
  | e :: cs =>
    if e = 'e' ∨ e = 'E' then
      let (negative, cs) := signFrom cs
      match digitsFrom cs with
      | ([], _) => none
      | (ds, []) => some (signed negative (Text.ofDigitValues ds))
      | _ => none
    else none

/-- Reads a number without a sign, or one of the names of infinity and of what is no number. -/
def unsigned? (negative : Bool) (cs : List Char) : Option Double :=
  let name := String.ofList (cs.map Char.toLower)
  if name = "inf" ∨ name = "infinity" then some (infinite negative)
  else if name = "nan" then some nan
  else
    let (whole, rest) := digitsFrom cs
    let (fraction, rest) : List Nat × List Char :=
      match rest with
      | '.' :: rest => digitsFrom rest
      | rest => ([], rest)
    if whole ++ fraction = [] then none
    else
      (exponent? rest).map fun e ↦
        ofDecimal negative (whole ++ fraction) (e - (fraction.length : Int))

/-- Reads a double. Blanks around it are ignored. -/
def ofText? (cs : List Char) : Option Double :=
  let (negative, cs) := signFrom (Text.dropMargins cs)
  unsigned? negative cs

/-! ## Showing -/

/-- A decimal number: the digits of a whole number and the power of ten that it is to be multiplied
by. -/
structure Decimal where
  digits : Nat
  exponent : Int
deriving DecidableEq, Repr

/-- The position of the decimal point of a positive number of units: the number is below ten to this
power and not below ten to the one before. No double is below ten to the power -400. -/
def point (units : Nat) : Int :=
  ((Nat.toDigits 10 ((units * Nat.pow 10 400) >>> unitBits)).length : Int) - 400

/-- The numerator and the denominator of a number of units divided by a power of ten. -/
def scaled (units : Nat) (exponent : Int) : Nat × Nat :=
  if 0 ≤ exponent then (units, Nat.pow 10 exponent.toNat <<< unitBits)
  else (units * Nat.pow 10 (-exponent).toNat, 1 <<< unitBits)

/-- Whether a decimal number is nearest to a number of units among all doubles. -/
def readsBack (units : Nat) (d : Decimal) : Bool :=
  let n := d.digits
  let x :=
    if 0 ≤ d.exponent then ofRatio false (n * Nat.pow 10 d.exponent.toNat) 1
    else ofRatio false n (Nat.pow 10 (-d.exponent).toNat)
  x = finite false units

/-- The decimal number nearest to a number of units that reads back, among the multiples of a power
of ten. Only the two neighbours can be. -/
def nearest? (units : Nat) (exponent : Int) : Option Decimal :=
  let (num, den) := scaled units exponent
  let below := num / den
  let first := roundDiv num den
  let second := if first = below then below + 1 else below
  [⟨first, exponent⟩, ⟨second, exponent⟩].find? (readsBack units)

/-- The most digits that are needed to tell a double from all others. -/
def mostDigits : Nat := 17

/-- The shortest decimal number that reads back. The number of digits grows from one. -/
def shortest (units : Nat) : Decimal :=
  let p := point units
  ((List.range mostDigits).findSome? fun (n : Nat) ↦ nearest? units (p - ((n : Int) + 1))).getD
    ⟨0, 0⟩

/-- How doubles are laid out. -/
structure Layout where
  /-- The least exponent of a number that is shown with a point. -/
  least : Int
  /-- The greatest one. -/
  greatest : Int
  /-- The least number of digits of an exponent that is shown. -/
  exponentDigits : Nat

/-- The layout of doubles: with a point from `0.0001` to below `10¹⁶`, exponents of two digits. -/
def layout : Layout := ⟨-4, 15, 2⟩

def zeros (n : Nat) : List Char := List.replicate n '0'

/-- Digits with a point after the first `p` of them. -/
def positional (digits : List Char) (p : Int) : List Char :=
  if p ≤ 0 then "0.".toList ++ zeros (-p).toNat ++ digits
  else
    let whole := digits.take p.toNat
    let fraction := digits.drop p.toNat
    whole ++ zeros (p.toNat - whole.length) ++ ['.'] ++ if fraction = [] then ['0'] else fraction

def scientific (digits : List Char) (exponent : Int) : List Char :=
  let magnitude := Nat.toDigits 10 exponent.natAbs
  let fraction := digits.tail
  digits.take 1 ++ (if fraction = [] then [] else '.' :: fraction) ++
    ['e', if exponent < 0 then '-' else '+'] ++
    zeros (layout.exponentDigits - magnitude.length) ++ magnitude

/-- The text of a positive number of units. -/
def unsignedText (units : Nat) : List Char :=
  let d := shortest units
  let all := Nat.toDigits 10 d.digits
  let digits := (all.reverse.dropWhile (· = '0')).reverse
  let p := (all.length : Int) + d.exponent
  if layout.least ≤ p - 1 ∧ p - 1 ≤ layout.greatest then positional digits p
  else scientific digits (p - 1)

def text : Double → String
  | nan => "nan"
  | infinite s => if s then "-inf" else "inf"
  | finite s n =>
    let cs := if n = 0 then "0.0".toList else unsignedText n
    String.ofList (if s then '-' :: cs else cs)

instance : Display Double where
  text := text
  quoted := text

end Motif.Double
