import Motif.Text.CharacterName.Alias
import Motif.Text.CharacterName.Alphabetic
import Motif.Text.CharacterName.Ancient
import Motif.Text.CharacterName.EastAsian
import Motif.Text.CharacterName.Notational
import Motif.Text.CharacterName.Pictographic
import Motif.Text.CharacterName.Symbolic
import Motif.Text.Runs

/-!
# Names of characters

Every character of Unicode has a name, in capital letters, digits, spaces and hyphens. The names of
Korean syllables are composed of the names of their parts, and the names of ideographs contain their
code points; all other names are listed in tables. Names from the tables are recognised in small
letters too.
-/

namespace Motif.Text.CharacterName

/-! ## Korean syllables -/

/-- The consonants that a Korean syllable begins with. -/
def leading : List String :=
  ["G", "GG", "N", "D", "DD", "R", "M", "B", "BB", "S", "SS", "", "J", "JJ", "C", "K", "T", "P",
    "H"]

def vowels : List String :=
  ["A", "AE", "YA", "YAE", "EO", "E", "YEO", "YE", "O", "WA", "WAE", "OE", "YO", "U", "WEO", "WE",
    "WI", "YU", "EU", "YI", "I"]

/-- The consonants that a Korean syllable ends with. -/
def trailing : List String :=
  ["", "G", "GG", "GS", "N", "NJ", "NH", "D", "L", "LG", "LM", "LB", "LS", "LT", "LP", "LH", "M",
    "B", "BS", "S", "SS", "NG", "J", "C", "K", "T", "P", "H"]

/-- The number of the longest of some parts that a text begins with, and the text after it. -/
def longestPart? (parts : List String) (cs : List Char) : Option (Nat × List Char) :=
  let fitting := parts.zipIdx.filter fun p ↦ p.1.toList.isPrefixOf cs
  (fitting.find? fun p ↦ fitting.all fun q ↦ q.1.length ≤ p.1.length).map fun p ↦
    (p.2, cs.drop p.1.length)

def firstSyllable : Nat := 0xac00

/-- The code point of the Korean syllable with given parts. -/
def syllable? (cs : List Char) : Option Nat := do
  let (l, cs) ← longestPart? leading cs
  let (v, cs) ← longestPart? vowels cs
  let (t, cs) ← longestPart? trailing cs
  if cs = [] then some (firstSyllable + (l * vowels.length + v) * trailing.length + t) else none

/-! ## Names with code points -/

/-- The ideographs that are common to the languages of East Asia. -/
def unifiedIdeographs : Runs :=
  [(0x3400, 0x4dbf), (0x4e00, 0x9fff), (0x20000, 0x2a6df), (0x2a700, 0x2b738), (0x2b740, 0x2b81d),
    (0x2b820, 0x2cea1), (0x2ceb0, 0x2ebe0), (0x30000, 0x3134a)]

/-- What names with code points begin with, and the characters that have them. -/
def codedNames : List (String × Runs) :=
  [("CJK COMPATIBILITY IDEOGRAPH-", [(0xf900, 0xfa6d), (0xfa70, 0xfad9), (0x2f800, 0x2fa1d)]),
    ("KHITAN SMALL SCRIPT CHARACTER-", [(0x18b00, 0x18cd5)]),
    ("NUSHU CHARACTER-", [(0x1b170, 0x1b2fb)])]

/-- The value of a hexadecimal digit, with capital letters. -/
def hexDigitValue? (c : Char) : Option Nat :=
  if '0' ≤ c && c ≤ '9' then some (c.toNat - '0'.toNat)
  else if 'A' ≤ c && c ≤ 'F' then some (c.toNat - 'A'.toNat + 10)
  else none

/-- The number that four or five hexadecimal digits denote. -/
def hexCode? (cs : List Char) : Option Nat :=
  if cs.length = 4 ∨ cs.length = 5 then
    (cs.mapM hexDigitValue?).map fun ds ↦ ds.foldl (fun n d ↦ 16 * n + d) 0
  else none

/-- The code point at the end of a name that begins in a given way, if it lies in some runs. -/
def codeAfter? (start : String) (codes : Runs) (name : String) : Option Nat :=
  if start.toList.isPrefixOf name.toList then
    (hexCode? (name.toList.drop start.length)).filter codes.has
  else none

/-- Whether the digits of a code point are as few as names have: four if these suffice. -/
def isShort (digits code : Nat) : Bool := digits = if code < 0x10000 then 4 else 5

/-- The code point of a character whose name contains it. -/
def coded? (name : String) : Option Nat :=
  codedNames.findSome? fun (start, codes) ↦
    (codeAfter? start codes name).filter (isShort (name.length - start.length))

/-! ## Tables -/

/-- The names of all other characters. -/
def tables : List (List NameRun) :=
  [alphabeticNames, symbolicNames, eastAsianNames, ancientNames, notationalNames, pictographicNames]

/-- The code point of a character that has a name in the tables. -/
def listed? (name : String) : Option Nat :=
  let words : Words := split ' ' name.toList
  tables.findSome? fun runs ↦ runs.findSome? (codeIn? words)

/-- The code point of a variation selector, abbreviated by its number. -/
def selector? (name : String) : Option Nat :=
  (List.range 256).findSome? fun n ↦
    if name = "VS" ++ (n + 1).repr then some (if n < 16 then 0xfe00 + n else 0xe0100 + (n - 16))
    else none

/-- The code point of a character with another name. -/
def alias? (name : String) : Option Nat :=
  ((aliases.find? fun a ↦ a.2.contains name).map Prod.fst).or (selector? name)

/-! ## Looking up -/

/-- What the names of Korean syllables begin with. -/
def syllableStart : String := "HANGUL SYLLABLE "

/-- What the names of common ideographs begin with. -/
def ideographStart : String := "CJK UNIFIED IDEOGRAPH-"

/-- The code point of the character with a name. -/
def code? (name : String) : Option Nat :=
  if syllableStart.toList.isPrefixOf name.toList then
    syllable? (name.toList.drop syllableStart.length)
  else if ideographStart.toList.isPrefixOf name.toList then
    codeAfter? ideographStart unifiedIdeographs name
  else
    let capitals := name.toUpper
    (alias? capitals).or ((coded? capitals).or (listed? capitals))

end Motif.Text.CharacterName
