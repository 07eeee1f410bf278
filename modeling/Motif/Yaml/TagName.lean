import Motif.Yaml.Text

/-!
# Names of tags, and directives

A tag is written in full between angle brackets, or as a handle and the rest of the name. Handles
stand for what names begin with; lines with a percent sign in front of a document declare them. In
the name itself a percent sign and two digits stand for a byte.
-/

namespace Motif.Yaml

/-- What a line with a percent sign says. -/
inductive Directive where
  /-- The version of the text. -/
  | version (major minor : Nat)
  /-- What the names of tags with a handle begin with. -/
  | handle (handle start : String)
  /-- Something that is not used. -/
  | other
deriving DecidableEq, Repr

/-- Whether a character can be part of a handle, of a directive or of the name of an anchor. -/
def isNameChar (c : Char) : Bool := c.isAlphanum || c = '-' || c = '_'

/-- Whether a character can be part of the name of a tag. -/
def isUriChar (c : Char) : Bool := c.isAlphanum || "-;/?:@&=+$,_.!~*'()[]%".toList.contains c

/-- Whether a tag or a directive ends before what comes next: a space, the end of a line or of the
text. -/
def endsTag (c : Option Char) : Bool := endsUnit c && c ≠ some '\t'

/-- Reads the bytes that percent signs and digits stand for. -/
def percentBytes : (steps : Nat) → Place → Except Mistake (List UInt8 × Place)
  | 0, p => .ok ([], p)
  | steps + 1, p =>
    match p.rest with
    | '%' :: cs =>
      match (cs.take 2).mapM hexValue? with
      | some [a, b] => do
        let (bytes, q) ← percentBytes steps (p.skip 3)
        pure (UInt8.ofNat (16 * a + b) :: bytes, q)
      | _ => .error .badName
    | _ => .ok ([], p)

def decodeBytes (bytes : List UInt8) : Except Mistake (List Char) :=
  match String.fromUTF8? (ByteArray.mk bytes.toArray) with
  | some s => .ok s.toList
  | none => .error .badName

/-- Reads the characters of the name of a tag. -/
def uriFrom : (steps : Nat) → Place → Except Mistake (List Char × Place)
  | 0, p => .ok ([], p)
  | steps + 1, p =>
    match p.peek with
    | none => .ok ([], p)
    | some c =>
      if c = '%' then do
        let (bytes, q) ← percentBytes p.rest.length p
        let cs ← decodeBytes bytes
        let (more, e) ← uriFrom steps q
        pure (cs ++ more, e)
      else if isUriChar c then do
        let (more, e) ← uriFrom steps p.next
        pure (c :: more, e)
      else .ok ([], p)

/-- Reads the name of a tag, or what names begin with. -/
def uri (p : Place) : Except Mistake (String × Place) := do
  let (cs, q) ← uriFrom p.rest.length p
  if cs = [] then throw .badName
  pure (String.ofList cs, q)

/-- Reads a handle: an exclamation mark, or a word between two. -/
def handle (p : Place) : Except Mistake (String × Place) :=
  let q := p.next
  if p.peek ≠ some '!' then .error .badName
  else if q.peek = some ' ' then .ok ("!", q)
  else
    let (word, r) := q.span isNameChar
    if r.peek = some '!' then .ok (String.ofList ('!' :: word ++ ['!']), r.next)
    else .error .badName

/-- Reads a tag: its handle, if it has one, and the rest of its name. An exclamation mark alone is a
name by itself. -/
def tag (p : Place) : Except Mistake (Option String × String × Place) := do
  let (handle, name, q) : Option String × String × Place ←
    if p.peekSecond = some '<' then do
      let (name, q) ← uri (p.skip 2)
      if q.peek ≠ some '>' then throw .badName
      pure (none, name, q.next)
    else if endsUnit p.peekSecond then pure (none, "!", p.next)
    else do
      let isNamed := (p.next.rest.takeWhile fun c ↦ !endsTag (some c)).contains '!'
      let (handle, q) ← if isNamed then Yaml.handle p else pure ("!", p.next)
      let (name, r) ← uri q
      pure (some handle, name, r)
  if !endsTag q.peek then throw .badName
  pure (handle, name, q)

def versionNumber (p : Place) : Except Fault (Nat × Place) := do
  let (ds, q) := p.span Char.isDigit
  if ds = [] then throw (.mistake .badDirective)
  if Text.maxNumeralDigits < ds.length then throw (.content (.numeral (.tooLong ds.length)))
  pure (ds.foldl (fun n d ↦ 10 * n + (d.toNat - '0'.toNat)) 0, q)

def version (p : Place) : Except Fault (Directive × Place) := do
  let (major, q) ← versionNumber p
  if q.peek ≠ some '.' then throw (.mistake .badDirective)
  let (minor, r) ← versionNumber q.next
  pure (.version major minor, r)

def declaration (p : Place) : Except Fault (Directive × Place) := do
  let (name, q) ← (handle p).mapError .mistake
  if q.peek ≠ some ' ' then throw (.mistake .badDirective)
  let (start, r) ← (uri q.skipSpaces).mapError .mistake
  pure (.handle name start, r)

/-- Reads a line with a percent sign. A comment may stand at its end. -/
def directive (p : Place) : Except Fault (Directive × Place) := do
  let (name, q) := p.next.span isNameChar
  if name = [] ∨ ¬ endsTag q.peek then throw (.mistake .badDirective)
  let (d, q) : Directive × Place ←
    if name = "YAML".toList then version q.skipSpaces
    else if name = "TAG".toList then declaration q.skipSpaces
    else pure (.other, (q.span fun c ↦ !isBreak c).2)
  if !endsTag q.peek then throw (.mistake .badDirective)
  let q := q.skipSpaces
  let q := if q.peek = some '#' then (q.span fun c ↦ !isBreak c).2 else q
  match q.lineBreak? with
  | some (_, r) => pure (d, r)
  | none => if q.rest = [] then pure (d, q) else throw (.mistake .badDirective)

end Motif.Yaml
