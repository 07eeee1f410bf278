import Motif.Graph.Edge

/-!
# Walks

A walk is recorded as the sequence of its steps. `Walk.nodes` lists the vertices it visits and
`Walk.reverse` traverses it from the other end. That consecutive steps meet is the predicate
`Walk.Connected`; the record itself does not ask for it.
-/

namespace Motif

/-- A sequence of steps through a graph. -/
structure Walk (V : Type) where
  /-- The steps in the order of traversal. -/
  steps : List (Step V)
deriving DecidableEq, Repr

namespace Walk

variable {V : Type}

/-- The vertices visited, the start first. A walk without steps visits none. -/
def nodes (w : Walk V) : List V :=
  match w.steps with
  | [] => []
  | d :: ds => d.start :: (d :: ds).map Step.finish

def start? (w : Walk V) : Option V := w.steps.head?.map Step.start

def finish? (w : Walk V) : Option V := w.steps.getLast?.map Step.finish

def length (w : Walk V) : Nat := w.steps.length

def reverse (w : Walk V) : Walk V := ⟨w.steps.reverse.map Step.flip⟩

/-- The underlying edges, in the order of traversal. -/
def edges (w : Walk V) : List (Edge V) := w.steps.map Step.edge

/-- Consecutive steps meet. -/
def ConsecutiveMeet : List (Step V) → Prop
  | [] => True
  | [_] => True
  | d :: e :: ds => d.finish = e.start ∧ ConsecutiveMeet (e :: ds)

/-- Every step but the first begins where the step before it ended. -/
def Connected (w : Walk V) : Prop := ConsecutiveMeet w.steps

@[simp] theorem reverse_reverse (w : Walk V) : w.reverse.reverse = w := by
  obtain ⟨ds⟩ := w
  simp [reverse, Function.comp_def]

variable [Display V]

instance : Display (Walk V) where
  text w := "; ".intercalate (w.steps.map Display.text)
  quoted w := "Bipath([" ++ ", ".intercalate (w.steps.map Display.quoted) ++ "])"

end Walk

end Motif
