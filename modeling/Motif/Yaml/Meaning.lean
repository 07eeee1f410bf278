import Motif.Text.Base64
import Motif.Text.LowerCase
import Motif.Yaml.Fault
import Motif.Yaml.Tag

/-!
# What tagged texts mean

A text with a tag stands for a scalar of the kind that the tag says. A tag can be given to any text,
so the text need not be spelled as plain texts of this kind are. Whole numbers may be written to the
bases two, eight, ten, sixteen and sixty; underscores in a number do not count.
-/

namespace Motif.Yaml

namespace Tag

/-- The ways to write a truth value, in small letters. -/
def truths : List (String × Bool) :=
  [("yes", true), ("no", false), ("true", true), ("false", false), ("on", true), ("off", false)]

def truth (s : String) : Except ContentFault Bool :=
  let small := Text.lower s
  match truths.lookup small with
  | some b => .ok b
  | none => .error (.unknownTruth small)

/-- The characters of a number without its sign, and whether the sign is a minus. -/
def magnitude (cs : List Char) : Bool × List Char := (cs.head? = some '-', dropSign cs)

/-- The parts of a number to the base sixty. -/
def sixtieths (cs : List Char) : List String := (Text.split ':' cs).map String.ofList

/-- The natural number that a text means. Parts of it may still have signs of their own. -/
def natural (cs : List Char) : Except ContentFault Int :=
  let toBase (base : Nat) (cs : List Char) : Except ContentFault Int :=
    (Text.integerToBase base (String.ofList cs)).mapError .numeral
  match cs with
  | [] => .error .emptyNumber
  | ['0'] => .ok 0
  | '0' :: 'b' :: ds => toBase 2 ds
  | '0' :: 'x' :: ds => toBase 16 ds
  | '0' :: _ => toBase 8 cs
  | _ =>
    if cs.contains ':' then do
      let parts ← (Text.split ':' cs).mapM (toBase 10)
      pure (parts.foldl (fun n part ↦ 60 * n + part) 0)
    else toBase 10 cs

def integer (s : String) : Except ContentFault Int := do
  let cs := s.toList.filter (· ≠ '_')
  if cs = [] then throw .emptyNumber
  let (negative, cs) := magnitude cs
  let n ← natural cs
  pure (if negative then -n else n)

/-- The largest number of parts of a number to the base sixty: a double cannot be as large as sixty
to this power. -/
def mostParts : Nat := 174

/-- The number that parts to the base sixty make. The last part is added first. -/
def ofSixtieths (parts : List Double) : Except ContentFault Double :=
  if mostParts < parts.length then .error .tooManyParts
  else
    .ok (parts.reverse.zipIdx.foldl
      (fun sum e ↦ sum.add (e.1.mul (.ofNat (Nat.pow 60 e.2)))) .zero)

def double (s : String) : Except ContentFault Double := do
  let small := Text.lower (String.ofList (s.toList.filter (· ≠ '_')))
  let read (t : String) : Except ContentFault Double :=
    match Double.ofText? t.toList with
    | some x => .ok x
    | none => .error (.decimal t)
  if small = "" then throw .emptyNumber
  let (negative, cs) := magnitude small.toList
  let t := String.ofList cs
  let x ←
    if t = ".inf" then pure (Double.infinite false)
    else if t = ".nan" then pure Double.nan
    else if cs.contains ':' then ofSixtieths (← (sixtieths cs).mapM read)
    else read t
  pure (if negative then x.neg else x)

def bytes (s : String) : Except Mistake (List Nat) :=
  if s.toList.all fun c ↦ c.toNat < 128 then
    match Text.Base64.decode s.toList with
    | some bs => .ok bs
    | none => .error .badBytes
  else .error .badBytes

def dateOrMoment (s : String) : Except ContentFault Scalar :=
  match Timestamp.read? s.toList with
  | some t => t.scalar.mapError .calendar
  | none => .error .noTimestamp

/-- The scalar that a text with a tag means. -/
def scalar (tag : Tag) (s : String) : Except Fault Scalar :=
  match tag with
  | null => .ok .null
  | bool => ((truth s).map .bool).mapError .content
  | int => ((integer s).map .number).mapError .content
  | float => ((double s).map .float).mapError .content
  | binary => ((bytes s).map .bytes).mapError .mistake
  | timestamp => (dateOrMoment s).mapError .content
  | text => .ok (.text s)
  | tag => .error (.mistake (.unknownTag tag.name))

def isScalar : Tag → Bool
  | null | bool | int | float | binary | timestamp | text => true
  | _ => false

def isCollection : Tag → Bool
  | seq | map | set | omap | pairs => true
  | _ => false

end Tag

end Motif.Yaml
