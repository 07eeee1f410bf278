import Motif.Display

/-!
# Labelled edges and the directions they are traversed in

A dependency graph stores each relation once, as an edge from a head to a dependent. A pattern may
follow it either way, so what a vertex sees are *steps*: edges together with the direction of
traversal. `Step.flip` is the same edge traversed the other way.
-/

namespace Motif

/-- The direction in which an edge is traversed: towards its source or towards its destination. -/
inductive Direction where
  | up
  | down
deriving DecidableEq, Repr

namespace Direction

def flip : Direction → Direction
  | up => down
  | down => up

/-- The character that delimits an edge of this direction in pattern text. -/
def symbol : Direction → Char
  | up => '<'
  | down => '>'

def name : Direction → String
  | up => "up"
  | down => "down"

instance : Display Direction where
  text := name
  quoted d := "<Direction." ++ d.name.toUpper ++ ": '" ++ d.name ++ "'>"

@[simp] theorem flip_flip (d : Direction) : d.flip.flip = d := by cases d <;> rfl

theorem flip_eq_iff {c d : Direction} : c.flip = d ↔ c = d.flip := by
  cases c <;> cases d <;> decide

end Direction

/-- A labelled edge from a head to a dependent. -/
structure Edge (V : Type) where
  /-- The head. -/
  source : V
  /-- The dependent. -/
  dest : V
  /-- The relation. -/
  label : String
deriving DecidableEq, Repr

/-- The edge between the images of the ends. -/
def Edge.map {V W : Type} (f : V → W) (e : Edge V) : Edge W := ⟨f e.source, f e.dest, e.label⟩

/-- An edge together with the direction in which it is traversed. -/
structure Step (V : Type) where
  /-- The edge. -/
  edge : Edge V
  /-- The direction of traversal. -/
  direction : Direction
deriving DecidableEq, Repr

namespace Step

variable {V : Type}

def label (d : Step V) : String := d.edge.label

/-- The vertex from which the edge is traversed. -/
def start (d : Step V) : V :=
  match d.direction with
  | .down => d.edge.source
  | .up => d.edge.dest

def finish (d : Step V) : V :=
  match d.direction with
  | .down => d.edge.dest
  | .up => d.edge.source

def flip (d : Step V) : Step V := ⟨d.edge, d.direction.flip⟩

@[simp] theorem flip_flip (d : Step V) : d.flip.flip = d := by simp [flip]

@[simp] theorem edge_flip (d : Step V) : d.flip.edge = d.edge := rfl

@[simp] theorem direction_flip (d : Step V) : d.flip.direction = d.direction.flip := rfl

@[simp] theorem start_flip (d : Step V) : d.flip.start = d.finish := by
  obtain ⟨e, _ | _⟩ := d <;> rfl

@[simp] theorem finish_flip (d : Step V) : d.flip.finish = d.start := by
  obtain ⟨e, _ | _⟩ := d <;> rfl

end Step

variable {V : Type} [Display V]

instance : Display (Edge V) where
  text e := e.label ++ "(" ++ Display.text e.source ++ ", " ++ Display.text e.dest ++ ")"
  quoted e := "Edge(source=" ++ Display.quoted e.source ++ ", dest=" ++ Display.quoted e.dest ++
    ", label=" ++ Display.quoted e.label ++ ")"

instance : Display (Step V) where
  text d :=
    let symbol := d.direction.symbol.toString
    Display.text d.start ++ " " ++ symbol ++ d.label ++ symbol ++ " " ++ Display.text d.finish
  quoted d := "DirectedEdge(edge=" ++ Display.quoted d.edge ++ ", direction=" ++
    Display.quoted d.direction ++ ")"

end Motif
