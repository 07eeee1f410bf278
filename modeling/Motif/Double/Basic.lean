/-!
# Doubles

A double is a binary number of 53 significant bits: a whole number of *units* of `2⁻¹⁰⁷⁴`, with a
sign. Beside the finite doubles there are two infinities and one value that is not a number. What is
computed from doubles is computed exactly and then rounded to the nearest double, of two nearest
ones to the one whose last bit is zero.
-/

namespace Motif

/-- The quotient rounded to the nearest whole number, a half to the even one. -/
def roundDiv (num den : Nat) : Nat :=
  let q := num / den
  let twice := 2 * (num % den)
  if twice < den then q else if den < twice then q + 1 else q + q % 2

/-- Rounding is off by at most a half. -/
theorem roundDiv_near (num : Nat) {den : Nat} (h : 0 < den) :
    2 * num ≤ (2 * roundDiv num den + 1) * den ∧ 2 * (roundDiv num den * den) ≤ 2 * num + den := by
  have hdiv := Nat.div_add_mod num den
  have hmod := Nat.mod_lt num h
  rw [Nat.mul_comm] at hdiv
  have hsucc : (num / den + 1) * den = num / den * den + den := Nat.succ_mul _ _
  have hodd : ∀ k, (2 * k + 1) * den = 2 * (k * den) + den := fun k ↦ by
    rw [Nat.succ_mul, Nat.mul_assoc]
  simp only [roundDiv, hodd]
  split
  · omega
  · split
    · rw [hsucc]; omega
    · rcases Nat.mod_two_eq_zero_or_one (num / den) with hq | hq
      · rw [hq]; simp only [Nat.add_zero]; omega
      · rw [hq, hsucc]; omega

/-- A double. -/
inductive Double where
  /-- What is not a number. -/
  | nan
  | infinite (negative : Bool)
  /-- The number with a sign and a number of units. -/
  | finite (negative : Bool) (units : Nat)
deriving DecidableEq, Repr

namespace Double

/-- One unit is one divided by two so many times. -/
def unitBits : Nat := 1074

/-- The number of bits of a double after the first one. -/
def fractionBits : Nat := 52

/-- The least number of units that is too large for a double. -/
def bound : Nat := 1 <<< 2098

def zero : Double := finite false 0

/-- The double nearest to a quotient of units. -/
def ofUnits (negative : Bool) (num den : Nat) : Double :=
  -- The bits that are rounded away, after the first 53.
  let excess := (num / den).log2 - fractionBits
  let units := roundDiv num (den <<< excess) <<< excess
  if units < bound then finite negative units else infinite negative

def ofRatio (negative : Bool) (num den : Nat) : Double := ofUnits negative (num <<< unitBits) den

/-- The double nearest to a natural number. -/
def ofNat (n : Nat) : Double := ofRatio false n 1

def neg : Double → Double
  | nan => nan
  | infinite s => infinite !s
  | finite s n => finite (!s) n

def signed (negative : Bool) (units : Nat) : Int := if negative then -(units : Int) else units

/-- The sum, rounded. A sum of zero is negative only if both summands are. -/
def add : Double → Double → Double
  | finite s m, finite t n =>
    let sum := signed s m + signed t n
    if sum = 0 then finite (s && t) 0 else ofUnits (decide (sum < 0)) sum.natAbs 1
  | infinite s, infinite t => if s = t then infinite s else nan
  | infinite s, finite _ _ => infinite s
  | finite _ _, infinite t => infinite t
  | _, _ => nan

def mul : Double → Double → Double
  | finite s m, finite t n => ofUnits (s != t) (m * n) (1 <<< unitBits)
  | infinite s, infinite t => infinite (s != t)
  | infinite s, finite t n => if n = 0 then nan else infinite (s != t)
  | finite s m, infinite t => if m = 0 then nan else infinite (s != t)
  | _, _ => nan

/-- Whether a double is a zero, with either sign. -/
def isZero : Double → Bool
  | finite _ n => n = 0
  | _ => false

/-- The whole number that a double is, if it is one. -/
def integer? : Double → Option Int
  | finite s n =>
    if n % (1 <<< unitBits) = 0 then some (signed s (n >>> unitBits)) else none
  | _ => none

end Double

end Motif
