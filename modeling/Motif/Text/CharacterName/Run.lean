import Motif.Text.Split

/-!
# Runs of names

The names of consecutive characters mostly begin with the same words. A run of names therefore says
of every name how many words it shares with the name before, by a small letter from `a` for none,
and then gives the other words: `aDIGIT ZERObONEbTWO` are the names of three digits. The text of a
run is given in several lines.
-/

namespace Motif.Text.CharacterName

/-- The code point of the first of some consecutive characters, and their names. -/
abbrev NameRun := Nat × List String

/-- A name in words. -/
abbrev Words := List (List Char)

/-- The text before the first small letter, and for every small letter the number that it stands for
and the text after it. -/
def entries : List Char → List Char × List (Nat × List Char)
  | [] => ([], [])
  | c :: cs =>
    let (text, es) := entries cs
    if c.isLower then ([], (c.toNat - 'a'.toNat, text) :: es) else (c :: text, es)

/-- The names that entries stand for, given the name before them. -/
def expand (previous : Words) : List (Nat × List Char) → List Words
  | [] => []
  | (shared, text) :: es =>
    let name := previous.take shared ++ split ' ' text
    name :: expand name es

/-- The code point of the character with a name, if the name is in a run. -/
def codeIn? (name : Words) (run : NameRun) : Option Nat :=
  ((expand [] (entries (run.2.flatMap String.toList)).2).idxOf? name).map (run.1 + ·)

example : codeIn? (split ' ' "DIGIT TWO".toList) (48, ["aDIGIT ZERO", "bONEbTWO"]) = some 50 := by
  decide

end Motif.Text.CharacterName
