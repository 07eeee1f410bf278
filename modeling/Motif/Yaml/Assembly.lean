import Motif.Yaml.Meaning
import Motif.Yaml.Outline

/-!
# The values of YAML documents

The value of a node depends on its tag. Values are assembled level by level: the texts among the
parts of a collection get their values at once, the collections among them after all collections
that are waiting already. This decides which of several faults is met first, and which entries a
mapping has when it is merged into another one.
-/

namespace Motif.Yaml

/-- What is known of the value of a node. -/
inductive Progress where
  /-- Nothing yet. -/
  | unknown
  | scalar (s : Scalar)
  /-- The node is a collection. -/
  | collection
deriving DecidableEq, Repr

/-- The state of the assembly of values. -/
structure Assembly where
  outline : Outline
  /-- The number of keys that ask for merging. Merging can only lower it. -/
  merges : Nat
  /-- What is known of every node. -/
  progress : Array Progress
  /-- The collections in the order in which they were met. -/
  queue : Array Nat

namespace Assembly

def start (o : Outline) : Assembly :=
  ⟨o, o.merges, Array.replicate o.cells.size .unknown, #[]⟩

def known (a : Assembly) (n : Nat) : Progress := a.progress.getD n .unknown

/-- The text that a node means: its own text or, for a mapping, that of the value that it stands
for. -/
def textOf (o : Outline) : (steps : Nat) → Nat → Except Fault String
  | 0, _ => .error (.content .endless)
  | steps + 1, n =>
    match (o.cell n).shape with
    | .text s => .ok s
    | .map es =>
      match es.find? fun e ↦ (o.cell e.1).tag = .value with
      | some (_, v) => textOf o steps v
      | none => .error (.mistake (.expected "a scalar node"))
    | .list _ => .error (.mistake (.expected "a scalar node"))

/-- The scalar that a node with the tag of a scalar means. Dates and moments have to be texts
themselves. -/
def scalarOf (o : Outline) (n : Nat) : Except Fault Scalar := do
  let s ← textOf o (o.cells.size + 1) n
  match (o.cell n).tag, (o.cell n).shape with
  | .timestamp, .map _ => throw (.content .compositeTimestamp)
  | tag, _ => tag.scalar s

/-- Meets a node: a scalar gets its value and a collection waits for its turn. -/
def visit (a : Assembly) (n : Nat) : Except Fault Assembly :=
  let tag := (a.outline.cell n).tag
  if a.known n ≠ .unknown then .ok a
  else if tag.isCollection then
    .ok { a with progress := a.progress.set! n .collection, queue := a.queue.push n }
  else if tag.isScalar then do
    let s ← scalarOf a.outline n
    pure { a with progress := a.progress.set! n (.scalar s) }
  else .error (.mistake (.unknownTag tag.name))

/-- Meets the key and the value of an entry of a mapping. The key has to be a scalar. -/
def visitEntry (a : Assembly) (e : Nat × Nat) : Except Fault Assembly := do
  let a ← a.visit e.1
  if a.known e.1 = .collection then throw (.mistake .compositeKey)
  a.visit e.2

/-- Meets the parts of an item of a sequence of pairs, which has to be a mapping with one entry. -/
def visitPair (a : Assembly) (n : Nat) : Except Fault Assembly :=
  match (a.outline.cell n).shape with
  | .map [(k, v)] => do (← a.visit k).visit v
  | _ => .error (.mistake (.expected "a mapping of length 1"))

def expand (a : Assembly) (n : Nat) : Except Fault Assembly :=
  match (a.outline.cell n).tag, (a.outline.cell n).shape with
  | .seq, .list items => items.foldlM visit a
  | .map, .map _ => mapping
  | .set, .map _ => mapping
  | .omap, .list items => items.foldlM visitPair a
  | .pairs, .list items => items.foldlM visitPair a
  | _, _ => .error (.mistake (.expected "a node of another kind"))
where
  /-- Meets the parts of a mapping, after merging. -/
  mapping : Except Fault Assembly := do
    let o ← a.outline.mergeFrom (a.merges + 1) n []
    (o.entries n).foldlM visitEntry { a with outline := o }

/-- Meets the parts of all collections in the queue from a position on. Every node comes into the
queue once at most. -/
def runFrom : (steps position : Nat) → Assembly → Except Fault Assembly
  | 0, _, a => .ok a
  | steps + 1, position, a =>
    match a.queue[position]? with
    | none => .ok a
    | some n => do runFrom steps (position + 1) (← a.expand n)

/-! ## Values -/

/-- Stores an entry of a mapping: in the place of its key, or at the end. -/
def store (k : Scalar) (v : Value) : List (Scalar × Value) → List (Scalar × Value)
  | [] => [(k, v)]
  | (l, w) :: es => if l.key = k.key then (l, v) :: es else (l, w) :: store k v es

def scalar (a : Assembly) (n : Nat) : Scalar :=
  match a.known n with
  | .scalar s => s
  | _ => .null

/-- The value of a node inside the collections with some numbers. There can be no more of these than
there are nodes. -/
def value (a : Assembly) : (steps : Nat) → (around : List Nat) → Nat → Value
  | 0, _, _ => .null
  | steps + 1, around, n =>
    let c := a.outline.cell n
    let part := value a steps (n :: around)
    match a.known n with
    | .scalar s => .scalar s
    | _ =>
      if around.contains n then .again n (c.tag ≠ .map)
      else
        match c.tag, c.shape with
        | .map, .map es =>
          .map (some n) (es.foldl (fun m e ↦ store (a.scalar e.1) (part e.2) m) [])
        | .set, .map es =>
          .set ((es.foldl (fun m e ↦ store (a.scalar e.1) .null m) []).map Prod.fst)
        | .omap, .list items => .list (some n) (items.flatMap (pairsOf part))
        | .pairs, .list items => .list (some n) (items.flatMap (pairsOf part))
        | _, .list items => .list (some n) (items.map part)
        | _, _ => .null
where
  /-- The pair that an item of a sequence of pairs stands for. -/
  pairsOf (part : Nat → Value) (n : Nat) : List Value :=
    (a.outline.entries n).map fun e ↦ .pair (part e.1) (part e.2)

end Assembly

def Node.value (node : Node) : Except Fault Value := do
  let (n, o) := Outline.ofNode node
  let a ← (Assembly.start o).visit n
  let a ← a.runFrom o.cells.size 0
  pure (a.value (o.cells.size + 1) [] n)

/-- Reads the value of a text. A text holds at most one document, and a text without a document has
the value of nothing. -/
def read (text : String) : Except Fault Value := do
  match ← Node.ofLexemes? (lexemes text) with
  | none => pure .null
  | some node => node.value

end Motif.Yaml
