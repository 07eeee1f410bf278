import Motif.Text.Split
import Motif.Yaml.Timestamp

/-!
# The tags of YAML nodes

The tag of a node says what kind of value it has. Tags are names; those of the common kinds begin
with `tag:yaml.org,2002:`. A plain text without a tag has the tag that its spelling suggests: `~` is
nothing, `yes` a truth value and `0x1f` a whole number.
-/

namespace Motif.Yaml

/-- What a node is. -/
inductive Tag where
  | null
  | bool
  | int
  | float
  | binary
  | timestamp
  | text
  | seq
  | map
  | set
  /-- A sequence of pairs without repeated keys. -/
  | omap
  | pairs
  /-- The key of mappings that are to be merged. -/
  | merge
  /-- The key of the value that a mapping stands for. -/
  | value
  /-- A tag that has no meaning here. -/
  | unknown (name : String)
deriving DecidableEq, Repr

namespace Tag

/-- What the names of the common tags begin with. -/
def commonStart : String := "tag:yaml.org,2002:"

/-- The common tags that nodes can be given, and the names of merging and standing for. -/
def common : List (String × Tag) :=
  [("null", null), ("bool", bool), ("int", int), ("float", float), ("binary", binary),
    ("timestamp", timestamp), ("str", text), ("seq", seq), ("map", map), ("set", set),
    ("omap", omap), ("pairs", pairs), ("merge", merge), ("value", value)]

def ofName (name : String) : Tag :=
  ((common.find? fun t ↦ commonStart ++ t.1 = name).map Prod.snd).getD (unknown name)

def name : Tag → String
  | unknown name => name
  | t => commonStart ++ ((common.find? fun e ↦ e.2 = t).map Prod.fst).getD ""

/-! ## The spelling of plain texts -/

def nullTexts : List String := ["~", "null", "Null", "NULL"]

def boolTexts : List String :=
  ["yes", "Yes", "YES", "true", "True", "TRUE", "on", "On", "ON",
    "no", "No", "NO", "false", "False", "FALSE", "off", "Off", "OFF"]

/-- Whether a character is a digit or an underscore. -/
def isDigitPart (c : Char) : Bool := c.isDigit || c = '_'

/-- Whether a text is a digit and more digits and underscores. -/
def isNumeral : List Char → Bool
  | [] => false
  | c :: cs => c.isDigit && cs.all isDigitPart

/-- Drops a sign. -/
def dropSign : List Char → List Char
  | '-' :: cs => cs
  | '+' :: cs => cs
  | cs => cs

/-- Whether a text is a part of a number to the base sixty after the first: a number below sixty. -/
def isSixtieth : List Char → Bool
  | [c] => c.isDigit
  | [c, d] => '0' ≤ c && c ≤ '5' && d.isDigit
  | _ => false

/-- Whether parts are those of a number to the base sixty: there are at least two. -/
def areSixtieths : List (List Char) → Bool
  | first :: second :: others => isNumeral first && (second :: others).all isSixtieth
  | _ => false

def isInt (cs : List Char) : Bool :=
  match dropSign cs with
  | ['0'] => true
  | '0' :: 'b' :: ds => ds ≠ [] && ds.all fun c ↦ c = '0' || c = '1' || c = '_'
  | '0' :: 'x' :: ds =>
    ds ≠ [] && ds.all fun c ↦
      c.isDigit || ('a' ≤ c && c ≤ 'f') || ('A' ≤ c && c ≤ 'F') || c = '_'
  | '0' :: ds => ds.all fun c ↦ ('0' ≤ c && c ≤ '7') || c = '_'
  | ds => isNumeral ds || areSixtieths (Text.split ':' ds)

/-- Whether a text is an exponent with its sign, or empty. -/
def isExponent : List Char → Bool
  | [] => true
  | e :: s :: ds =>
    (e = 'e' || e = 'E') && (s = '+' || s = '-') && ds ≠ [] && ds.all Char.isDigit
  | _ => false

/-- The ways to write infinity, without its sign. -/
def infinityTexts : List String := [".inf", ".Inf", ".INF"]

/-- The ways to write that something is no number. -/
def nanTexts : List String := [".nan", ".NaN", ".NAN"]

/-- Whether a text is a number with a point. -/
def isFloat (cs : List Char) : Bool :=
  let unsigned := dropSign cs
  if infinityTexts.contains (String.ofList unsigned) || nanTexts.contains (String.ofList cs) then
    true
  else
    match Text.cut '.' unsigned with
    | (_, none) => false
    | (whole, some rest) =>
      let fraction := rest.takeWhile isDigitPart
      let exponent := rest.dropWhile isDigitPart
      if whole = [] then unsigned = cs && isNumeral fraction && isExponent exponent
      else
        (isNumeral whole && isExponent exponent) ||
          (areSixtieths (Text.split ':' whole) && exponent = [])

/-- The tag of a plain text. A line feed at the end of the text is left out of account. -/
def ofPlain (s : String) : Tag :=
  let cs := s.toList
  let cs := if cs.getLast? = some '\n' then cs.dropLast else cs
  let t := String.ofList cs
  if s = "" ∨ nullTexts.contains t then null
  else if boolTexts.contains t then bool
  else if isFloat cs then float
  else if isInt cs then int
  else if t = "<<" then merge
  else if Timestamp.isPlain s.toList then timestamp
  else if t = "=" then value
  else if ["!", "&", "*"].contains t then unknown (commonStart ++ "yaml")
  else text

end Tag

end Motif.Yaml
