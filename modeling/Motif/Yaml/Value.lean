import Motif.Yaml.Scalar

/-!
# YAML values

A value is a scalar, a sequence, a mapping from scalars to values, a set of scalars or a pair of
values. The order of the entries of a mapping does not matter in comparisons.

A collection can contain itself. Collections have labels for this: inside a collection, `again`
with its label stands for the collection. What is taken out of a collection with `items` or `find?`
has the collection itself in these places, so nothing that is taken out refers to what it was taken
from.
-/

namespace Motif.Yaml

/-- A value. -/
inductive Value where
  | scalar (s : Scalar)
  | list (label : Option Nat) (items : List Value)
  | map (label : Option Nat) (entries : List (Scalar × Value))
  | set (elements : List Scalar)
  | pair (first second : Value)
  /-- The collection around this place that has a label: a sequence or else a mapping. -/
  | again (label : Nat) (isList : Bool)

/-- A value that cannot be a key, because it has parts. -/
structure CompositeKey where
  /-- The kind of the value. -/
  kind : String
deriving DecidableEq, Repr

/-- The message for a value that cannot be a key. -/
def CompositeKey.message (c : CompositeKey) : String := "unhashable type: '" ++ c.kind ++ "'"

namespace Value

abbrev text (s : String) : Value := scalar (.text s)

abbrev null : Value := scalar .null

instance : Inhabited Value := ⟨null⟩

/-- Whether a value counts as given, rather than as nothing. Empty collections do not. -/
def isGiven : Value → Bool
  | scalar s => s.isGiven
  | list _ items => !items.isEmpty
  | map _ entries => !entries.isEmpty
  | set elements => !elements.isEmpty
  | pair _ _ => true
  | again _ _ => true

/-- The kind of a value, as messages give it. -/
def kind : Value → String
  | scalar s => s.kind
  | list _ _ => "list"
  | map _ _ => "dict"
  | set _ => "set"
  | pair _ _ => "tuple"
  | again _ isList => if isList then "list" else "dict"

def asKey : Value → Except CompositeKey Scalar
  | scalar s => .ok s
  | v => .error ⟨v.kind⟩

/-! ## Collections in themselves -/

mutual

/-- Puts a collection in the places that refer to its label. -/
def fill (label : Nat) (whole : Value) : Value → Value
  | scalar s => scalar s
  | list l items => list l (if l = some label then items else fillItems label whole items)
  | map l entries => map l (if l = some label then entries else fillEntries label whole entries)
  | set elements => set elements
  | pair a b => pair (fill label whole a) (fill label whole b)
  | again l isList => if l = label then whole else again l isList

/-- Puts a collection in the places of the items of a sequence. -/
def fillItems (label : Nat) (whole : Value) : List Value → List Value
  | [] => []
  | v :: vs => fill label whole v :: fillItems label whole vs

/-- Puts a collection in the places of the entries of a mapping. -/
def fillEntries (label : Nat) (whole : Value) : List (Scalar × Value) → List (Scalar × Value)
  | [] => []
  | (k, v) :: es => (k, fill label whole v) :: fillEntries label whole es

end

def items (label : Option Nat) (vs : List Value) : List Value :=
  match label with
  | none => vs
  | some l => fillItems l (list label vs) vs

/-- The value of a key in the entries of a mapping with a label. -/
def find? (label : Option Nat) (entries : List (Scalar × Value)) (k : Scalar) : Option Value :=
  (entries.find? fun e ↦ e.1.key = k.key).map fun e ↦
    match label with
    | none => e.2
    | some l => fill l (map label entries) e.2

/-! ## How values are shown -/

/-- The text of a collection inside itself. -/
def againText (isList : Bool) : String := if isList then "[...]" else "\x7b...\x7d"

mutual

/-- The unambiguous text of a value inside the collections with some labels. -/
def quotedIn (labels : List Nat) : Value → String
  | scalar s => Display.quoted s
  | list label items =>
    if label.any labels.contains then againText true
    else "[" ++ ", ".intercalate (quotedItems (label.toList ++ labels) items) ++ "]"
  | map label entries =>
    if label.any labels.contains then againText false
    else "\x7b" ++ ", ".intercalate (quotedEntries (label.toList ++ labels) entries) ++ "\x7d"
  | set elements =>
    if elements = [] then "set()"
    else "\x7b" ++ ", ".intercalate (elements.map Display.quoted) ++ "\x7d"
  | pair a b => "(" ++ quotedIn labels a ++ ", " ++ quotedIn labels b ++ ")"
  | again _ isList => againText isList

def quotedItems (labels : List Nat) : List Value → List String
  | [] => []
  | v :: vs => quotedIn labels v :: quotedItems labels vs

def quotedEntries (labels : List Nat) : List (Scalar × Value) → List String
  | [] => []
  | (k, v) :: es => (Display.quoted k ++ ": " ++ quotedIn labels v) :: quotedEntries labels es

end

def quoted (v : Value) : String := quotedIn [] v

instance : Display Value where
  text
    | scalar s => Display.text s
    | v => v.quoted
  quoted := quoted

mutual

/-- Whether a value can be shown: it has no number of too many digits. -/
def isShowable : Value → Bool
  | scalar s => s.isShowable
  | list _ items => areShowable items
  | map _ entries => haveShowable entries
  | set elements => elements.all Scalar.isShowable
  | pair a b => isShowable a && isShowable b
  | again _ _ => true

/-- Whether the items of a sequence can be shown. -/
def areShowable : List Value → Bool
  | [] => true
  | v :: vs => isShowable v && areShowable vs

/-- Whether the entries of a mapping can be shown. -/
def haveShowable : List (Scalar × Value) → Bool
  | [] => true
  | (k, v) :: es => k.isShowable && isShowable v && haveShowable es

end

/-- The plain text of a value, if it can be shown. -/
def shown? (v : Value) : Except Unshowable String :=
  if v.isShowable then .ok (Display.text v) else .error {}

/-! ## Comparison -/

mutual

/-- Whether two parts of collections are equal. Here what is not a number is equal to itself. -/
def sameIn : Value → Value → Bool
  | scalar s, scalar t => s.key = t.key
  | list _ xs, list _ ys => sameItems xs ys
  | map _ es, map _ fs => es.length == fs.length && sameEntries es fs
  | set xs, set ys =>
    xs.length == ys.length && xs.all fun x ↦ ys.any fun y ↦ decide (x.key = y.key)
  | pair a b, pair c d => sameIn a c && sameIn b d
  | again l _, again m _ => l = m
  | _, _ => false

/-- Whether two sequences have equal items. -/
def sameItems : List Value → List Value → Bool
  | [], [] => true
  | x :: xs, y :: ys => sameIn x y && sameItems xs ys
  | _, _ => false

/-- Whether the second mapping has every entry of the first. -/
def sameEntries : List (Scalar × Value) → List (Scalar × Value) → Bool
  | [], _ => true
  | (k, v) :: es, fs =>
    ((fs.find? fun e ↦ e.1.key = k.key).any fun e ↦ sameIn v e.2) && sameEntries es fs

end

def same : Value → Value → Bool
  | scalar s, scalar t => s.same t
  | v, w => sameIn v w

end Value

end Motif.Yaml
