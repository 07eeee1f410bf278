import Motif.Yaml.Node
import Motif.Yaml.Value

/-!
# Outlines of YAML documents

An outline lists the nodes of a document once each and refers to them by number, so that a node with
a name can be part of several collections, or of itself.

A mapping can take over the entries of others: those of the mapping, or of the mappings of the
sequence, that the key `<<` has. `Outline.mergeFrom` puts these entries in front of its own. Later
entries win, so its own entries win over those that it takes over.
-/

namespace Motif.Yaml

/-- What a node consists of. -/
inductive Shape where
  | text (s : String)
  | list (items : List Nat)
  | map (entries : List (Nat × Nat))
deriving DecidableEq, Repr, Inhabited

/-- A node of an outline. -/
structure Cell where
  tag : Tag
  shape : Shape
deriving DecidableEq, Repr

instance : Inhabited Cell := ⟨⟨.null, .text ""⟩⟩

/-- The nodes of a document, each under its number. -/
structure Outline where
  cells : Array Cell

namespace Outline

/-- The node with a number. -/
def cell (o : Outline) (n : Nat) : Cell := o.cells.getD n default

def modify (o : Outline) (n : Nat) (f : Cell → Cell) : Outline := ⟨o.cells.modify n f⟩

def setEntries (o : Outline) (n : Nat) (entries : List (Nat × Nat)) : Outline :=
  o.modify n fun c ↦ { c with shape := .map entries }

def entries (o : Outline) (n : Nat) : List (Nat × Nat) :=
  match (o.cell n).shape with
  | .map es => es
  | _ => []

/-! ## The nodes of a document -/

/-- An outline under construction. -/
structure Draft where
  outline : Outline
  /-- The numbers of the nodes with names. -/
  names : List (String × Nat)

def Draft.push (d : Draft) (c : Cell) : Draft := { d with outline := ⟨d.outline.cells.push c⟩ }

mutual

/-- Adds a node and its parts, and gives its number. The number is known to its parts. -/
def add (d : Draft) : Node → Nat × Draft
  | .text tag s => (d.outline.cells.size, d.push ⟨tag, .text s⟩)
  | .list tag items =>
    let n := d.outline.cells.size
    let (parts, d) := addItems (d.push ⟨tag, .list []⟩) items
    (n, { d with outline := d.outline.modify n fun c ↦ { c with shape := .list parts } })
  | .map tag entries =>
    let n := d.outline.cells.size
    let (parts, d) := addEntries (d.push ⟨tag, .map []⟩) entries
    (n, { d with outline := d.outline.setEntries n parts })
  | .anchor name node => add { d with names := (name, d.outline.cells.size) :: d.names } node
  | .reference name => ((d.names.lookup name).getD 0, d)

def addItems (d : Draft) : List Node → List Nat × Draft
  | [] => ([], d)
  | item :: items =>
    let (n, d) := add d item
    let (ns, d) := addItems d items
    (n :: ns, d)

def addEntries (d : Draft) : List (Node × Node) → List (Nat × Nat) × Draft
  | [] => ([], d)
  | (key, value) :: entries =>
    let (k, d) := add d key
    let (v, d) := add d value
    let (es, d) := addEntries d entries
    ((k, v) :: es, d)

end

/-- The outline of a document, and the number of its node. -/
def ofNode (node : Node) : Nat × Outline :=
  let (n, d) := add ⟨⟨#[]⟩, []⟩ node
  (n, d.outline)

/-! ## Merging -/

/-- The first entry whose key asks for merging, and the others. -/
def takeMerge? (o : Outline) : List (Nat × Nat) → Option (Nat × List (Nat × Nat))
  | [] => none
  | (k, v) :: es =>
    if (o.cell k).tag = .merge then some (v, es)
    else (takeMerge? o es).map fun (w, rest) ↦ (w, (k, v) :: rest)

/-- Takes the keys of values that mappings stand for as texts. -/
def nameValues (o : Outline) (entries : List (Nat × Nat)) : Outline :=
  entries.foldl
    (fun o e ↦ o.modify e.1 fun c ↦ if c.tag = .value then { c with tag := .text } else c) o

/-- Merges the entries of other mappings into a mapping, in front of its own. `taken` are those that
have been taken over so far. Every step removes a key that asks for merging, which bounds their
number. -/
def mergeFrom : (steps : Nat) → Outline → (n : Nat) → (taken : List (Nat × Nat)) →
    Except Fault Outline
  | 0, o, _, _ => .ok o
  | steps + 1, o, n, taken =>
    let own := o.entries n
    match o.takeMerge? own with
    | none => .ok ((o.nameValues own).setEntries n (taken ++ own))
    | some (source, rest) => do
      let o := o.setEntries n rest
      match (o.cell source).shape with
      | .map _ =>
        let o ← mergeFrom steps o source []
        mergeFrom steps o n (taken ++ o.entries source)
      | .list sources =>
        -- Of several mappings the first wins, so its entries come last.
        let (o, groups) ← sources.foldlM (fun (o, groups) source ↦
          match (o.cell source).shape with
          | .map _ => do
            let o ← mergeFrom steps o source []
            pure (o, o.entries source :: groups)
          | _ => throw (.mistake (.expected "a mapping for merging")))
          (o, ([] : List (List (Nat × Nat))))
        mergeFrom steps o n (taken ++ groups.flatten)
      | .text _ => throw (.mistake (.expected "a mapping or list of mappings for merging"))

/-- The number of keys that ask for merging. One step more than that suffices to merge. -/
def merges (o : Outline) : Nat :=
  let mergesIn (c : Cell) : Nat :=
    match c.shape with
    | .map es => es.countP fun e ↦ decide ((o.cell e.1).tag = .merge)
    | _ => 0
  o.cells.foldl (fun total c ↦ total + mergesIn c) 0

end Outline

end Motif.Yaml
