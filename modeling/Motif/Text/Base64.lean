/-!
# Bytes in letters

Every letter of this code stands for six bits, so four letters stand for three bytes. Characters
that are no letters of the code are skipped. Equals signs fill up the last group of four letters and
end the text; a text that leaves a group unfinished stands for nothing.
-/

namespace Motif.Text.Base64

/-- The six bits that a letter stands for, as a number. -/
def letter? (c : Char) : Option Nat :=
  if 'A' ≤ c && c ≤ 'Z' then some (c.toNat - 'A'.toNat)
  else if 'a' ≤ c && c ≤ 'z' then some (c.toNat - 'a'.toNat + 26)
  else if '0' ≤ c && c ≤ '9' then some (c.toNat - '0'.toNat + 52)
  else if c = '+' then some 62
  else if c = '/' then some 63
  else none

/-- The byte that is complete with a letter, if there is one, and the bits that are left over, given
the number of letters of the group before it and the bits that these left over. -/
def complete (letters left value : Nat) : Option Nat × Nat :=
  match letters with
  | 0 => (none, value)
  | 1 => (some (left * 4 + value / 16), value % 16)
  | 2 => (some (left * 16 + value / 4), value % 4)
  | _ => (some (left * 64 + value), 0)

/-- The bytes of a text, given the number of letters of the group so far, the bits that these left
over and the number of equals signs after them. -/
def bytesFrom (letters left signs : Nat) : List Char → Option (List Nat)
  | [] => if letters = 0 then some [] else none
  | c :: cs =>
    if c = '=' then
      if 2 ≤ letters then
        if 4 ≤ letters + (signs + 1) then some [] else bytesFrom letters left (signs + 1) cs
      else bytesFrom letters left signs cs
    else
      match letter? c with
      | none => bytesFrom letters left signs cs
      | some value =>
        let (byte, left) := complete letters left value
        (bytesFrom ((letters + 1) % 4) left 0 cs).map (byte.toList ++ ·)

def decode (cs : List Char) : Option (List Nat) := bytesFrom 0 0 0 cs

end Motif.Text.Base64
