import Motif.Graph.Walk
import Motif.InsertionMap
import Motif.Pattern.Basic

/-!
# Matches

A match records the pattern it is a match of, the walk through the graph, and the vertices and steps
that the pattern's captures name. A name that occurs twice keeps its first place and its last value.
-/

namespace Motif

/-- A recorded value and the text that its matcher reported. -/
structure Capture (α : Type) where
  /-- What was matched. -/
  value : α
  /-- The text that was reported. -/
  text : String
deriving DecidableEq

/-- One match of a pattern in a graph. -/
structure Match (V : Type) where
  /-- The pattern. -/
  pattern : Pattern V
  /-- The steps of the walk. -/
  walk : Walk V
  /-- The vertices by name. -/
  nodes : InsertionMap String (Capture V)
  /-- The steps by name. -/
  edges : InsertionMap String (Capture (Step V))

namespace Match

variable {V : Type}

def node? (m : Match V) (name : String) : Option V := (m.nodes.get? name).map Capture.value

def edge? (m : Match V) (name : String) : Option (Step V) := (m.edges.get? name).map Capture.value

/-- Whether two matches count as equal: equal patterns, the same walk, and the same captures in any
order. -/
def same [DecidableEq V] (m n : Match V) : Bool :=
  m.pattern.same n.pattern && m.walk == n.walk && m.nodes.sameContent n.nodes &&
    m.edges.sameContent n.edges

variable [Display V]

/-- The captures as texts, vertices before steps. -/
def captureTexts (m : Match V) : List String :=
  (m.nodes.entries.map fun e ↦ e.1 ++ "=" ++ Display.text e.2.value) ++
    m.edges.entries.map fun e ↦ e.1 ++ "=" ++ e.2.value.label

instance : Display (Match V) where
  text m := Display.text m.walk ++ " [" ++ ", ".intercalate m.captureTexts ++ "]"
  quoted m :=
    "Match(pattern=" ++ Text.quoted (Display.text m.pattern) ++ ", bipath=" ++
      Display.quoted m.walk ++ ")"

end Match

end Motif
