import Motif.Matcher.Node

/-!
# Patterns

A pattern is a node matcher followed by links, each an edge matcher and the node matcher behind it.
In this form node and edge matchers alternate by construction. `Pattern.ofMatchers` admits exactly
the mixed sequences that have this form.

Two patterns count as equal when their signatures agree: same captures, same tests of edges, and
node tests with the same expressions.
-/

namespace Motif

/-- A matcher of either kind. -/
inductive Matcher (V : Type) where
  | node (m : NodeMatcher V)
  | edge (m : EdgeMatcher)

namespace Matcher

variable {V : Type}

/-- The kind of a matcher, named for its outermost layer. -/
def kind : Matcher V → String
  | node m => m.kind
  | edge m => m.kind

instance : Display (Matcher V) where
  text
    | node m => Display.text m
    | edge m => Display.text m
  quoted
    | node m => Display.quoted m
    | edge m => Display.quoted m

/-- What two matchers have in common when they count as equal. -/
def signature : Matcher V → (Option String × List (Option String)) ⊕ EdgeMatcher
  | node m => .inl m.signature
  | edge m => .inr m

/-- The name under which a matcher records what it matches. -/
def capture? : Matcher V → Option String
  | node m => m.name
  | edge m => m.name

end Matcher

/-- An edge matcher and the node matcher behind it. -/
structure Link (V : Type) where
  /-- The matcher of the step. -/
  edge : EdgeMatcher
  /-- The matcher of the vertex that the step reaches. -/
  node : NodeMatcher V

/-- A pattern: a node matcher and the links after it. -/
structure Pattern (V : Type) where
  /-- The matcher of the vertex that a match begins at. -/
  first : NodeMatcher V
  /-- The links in order. -/
  links : List (Link V)

/-- What two patterns have in common when they count as equal. -/
structure Pattern.Signature where
  /-- The signature of the first node matcher. -/
  first : Option String × List (Option String)
  /-- The edge matchers and the signatures of the node matchers behind them. -/
  links : List (EdgeMatcher × Option String × List (Option String))
deriving DecidableEq

namespace Pattern

variable {V : Type}

def matchers (p : Pattern V) : List (Matcher V) :=
  .node p.first :: p.links.flatMap fun l ↦ [.edge l.edge, .node l.node]

def nodes (p : Pattern V) : List (NodeMatcher V) := p.first :: p.links.map Link.node

def edges (p : Pattern V) : List EdgeMatcher := p.links.map Link.edge

def length (p : Pattern V) : Nat := 2 * p.links.length + 1

/-- The tests of nodes, each as a matcher of its own. -/
def baseNodes (p : Pattern V) : List (NodeMatcher V) := p.nodes.flatMap NodeMatcher.base

/-- The tests of edges, each as a matcher of its own. -/
def baseEdges (p : Pattern V) : List EdgeMatcher := p.edges.map EdgeMatcher.base

/-- The names under which matches record vertices and steps, in order. -/
def captures (p : Pattern V) : List String := p.matchers.filterMap Matcher.capture?

/-- What the pattern has in common with the patterns that equal it. -/
def signature (p : Pattern V) : Signature :=
  ⟨p.first.signature, p.links.map fun l ↦ (l.edge, l.node.signature)⟩

def same (p q : Pattern V) : Bool := p.signature == q.signature

/-- Reads the links that a mixed sequence consists of. `position` counts the matchers before it. -/
def linksOf (position : Nat) : List (Matcher V) → Except InvalidPattern (List (Link V))
  | [] => .ok []
  | .node m :: _ => .error (.notAlternating position m.kind "EdgeMatcher")
  | [.edge _] => .error .endsWithEdge
  | .edge _ :: .edge n :: _ => .error (.notAlternating (position + 1) n.kind "NodeMatcher")
  | .edge m :: .node n :: rest => do
    let links ← linksOf (position + 2) rest
    pure (⟨m, n⟩ :: links)

/-- The pattern with the given matchers, which must alternate and begin and end with a node
matcher. -/
def ofMatchers : List (Matcher V) → Except InvalidPattern (Pattern V)
  | [] => .error .noMatchers
  | .edge m :: _ => .error (.notAlternating 0 m.kind "NodeMatcher")
  | .node m :: rest => do
    let links ← linksOf 1 rest
    pure ⟨m, links⟩

/-- Takes the members of two lists in turn, the first list first; what is left of the longer one
follows at the end. -/
def weave {α : Type} : List α → List α → List α
  | [], ys => ys
  | x :: xs, [] => x :: xs
  | x :: xs, y :: ys => x :: y :: weave xs ys

/-- The pattern that takes its matchers in turn from a list of node matchers and one of edge
matchers. -/
def interleave (nodes edges : List (Matcher V)) : Except InvalidPattern (Pattern V) :=
  ofMatchers (weave nodes edges)

/-- The links of a pattern from its end to its beginning, and the node matcher it ends with.
`last` is the node matcher before the links. -/
def reversedLinks (last : NodeMatcher V) (done : List (Link V)) :
    List (Link V) → NodeMatcher V × List (Link V)
  | [] => (last, done)
  | l :: ls => reversedLinks l.node (⟨l.edge.flip, last⟩ :: done) ls

/-- The pattern that describes the same structures from the other end. -/
def reflection (p : Pattern V) : Pattern V :=
  let r := reversedLinks p.first [] p.links
  ⟨r.1, r.2⟩

instance : Display (Pattern V) where
  text p := " ".intercalate (p.matchers.map Display.text)
  quoted p := "Pattern(" ++ Text.quoted (" ".intercalate (p.matchers.map Display.text)) ++ ")"

end Pattern

end Motif
