import Motif.Graph.Edge
import Motif.Regex.Matching

/-!
# Edge matchers

An edge matcher tests a step: a label test, any number of demands on the direction around it, and at
most one capture around all of these. The search records a capture only where it is outermost, which
is why a capture cannot be wrapped any further; a matcher with its capture elsewhere cannot be
written down in this type.

`EdgeMatcher.flip` is the matcher for the step seen from the other side. It turns the outermost
demand on the direction and leaves the rest alone.
-/

namespace Motif

/-- Tests of an edge label. -/
inductive LabelTest where
  /-- Any label. -/
  | any
  /-- Exactly this label. -/
  | label (s : String)
  /-- A label that a regular expression matches as a whole. -/
  | regex (r : Regex)
deriving DecidableEq

namespace LabelTest

/-- The text of the test that accepts any label. -/
def wildcard : String := ".*"

def accepts : LabelTest → String → Bool
  | any, _ => true
  | label s, l => l == s
  | regex r, l => r.fullMatch l

def body : LabelTest → String
  | any => wildcard
  | label s => s
  | regex r => "/" ++ r.source ++ "/"

end LabelTest

/-- An edge matcher. -/
structure EdgeMatcher where
  /-- The name under which the step is recorded. -/
  name : Option String
  /-- The directions that are demanded, from the outside in. -/
  directions : List Direction
  /-- The test of the label. -/
  test : LabelTest
deriving DecidableEq

/-- What can be wrong with the parts of a matcher or of a pattern. -/
inductive InvalidPattern where
  /-- A captured edge matcher was wrapped by a matcher of the given kind. -/
  | wrappedEdgeCapture (name wrapper : String)
  /-- A captured node matcher was captured again. -/
  | wrappedNodeCapture (inner outer : String)
  /-- A conjunction has fewer than two distinct members. -/
  | smallConjunction (members : Nat)
  /-- A member of a conjunction is a conjunction. -/
  | nestedConjunction
  /-- A member of a conjunction is captured. -/
  | capturedMember (name : String)
  /-- A pattern without matchers. -/
  | noMatchers
  /-- A matcher of the wrong kind at a position. -/
  | notAlternating (position : Nat) (found expected : String)
  /-- A pattern that ends with an edge matcher. -/
  | endsWithEdge
deriving DecidableEq, Repr

def InvalidPattern.message : InvalidPattern → String
  | wrappedEdgeCapture name wrapper =>
    "Edge capture \x7b" ++ name ++ "\x7d must be the outermost matcher, not wrapped by " ++ wrapper
  | wrappedNodeCapture inner outer =>
    "Node capture \x7b" ++ inner ++ "\x7d may not be wrapped by capture \x7b" ++ outer ++ "\x7d"
  | smallConjunction n => "A conjunction needs at least two distinct matchers, got " ++ n.repr
  | nestedConjunction => "Conjunctions may not be nested"
  | capturedMember name =>
    "Node capture \x7b" ++ name ++ "\x7d may not be a conjunction member; " ++
      "capture the whole conjunction instead"
  | noMatchers => "A pattern needs at least one node matcher"
  | notAlternating i found expected =>
    "Matchers must start with a node matcher and alternate; position " ++ i.repr ++ " holds " ++
      found ++ ", expected " ++ expected
  | endsWithEdge => "Matchers must end with a node matcher"

namespace EdgeMatcher

def ofTest (t : LabelTest) : EdgeMatcher := ⟨none, [], t⟩

/-- The kind of a matcher, named for its outermost layer. -/
def kind (m : EdgeMatcher) : String :=
  match m.name, m.directions, m.test with
  | some _, _, _ => "CaptureEdgeMatcher"
  | none, _ :: _, _ => "DirectedEdgeMatcher"
  | none, [], .any => "TrivialEdgeMatcher"
  | none, [], .label _ => "LabelEdgeMatcher"
  | none, [], .regex _ => "RegexEdgeMatcher"

/-- The matcher that also demands a direction. -/
def directed (d : Direction) (m : EdgeMatcher) : Except InvalidPattern EdgeMatcher :=
  match m.name with
  | some a => .error (.wrappedEdgeCapture a "DirectedEdgeMatcher")
  | none => .ok { m with directions := d :: m.directions }

/-- The matcher that also records the step under a name. -/
def captured (name : String) (m : EdgeMatcher) : Except InvalidPattern EdgeMatcher :=
  match m.name with
  | some a => .error (.wrappedEdgeCapture a "CaptureEdgeMatcher")
  | none => .ok { m with name := some name }

/-- The text that a step matches: its label, if the step passes. -/
def matchText {V : Type} (m : EdgeMatcher) (d : Step V) : Option String :=
  if m.directions.all (· == d.direction) && m.test.accepts d.label then some d.label else none

def accepts {V : Type} (m : EdgeMatcher) (d : Step V) : Bool := (m.matchText d).isSome

/-- Whether an edge passes in either direction. -/
def canMatch {V : Type} (m : EdgeMatcher) (e : Edge V) : Bool :=
  m.accepts ⟨e, .up⟩ || m.accepts ⟨e, .down⟩

/-- The matcher for the step seen from the other side. -/
def flip (m : EdgeMatcher) : EdgeMatcher :=
  match m.directions with
  | [] => m
  | d :: ds => { m with directions := d.flip :: ds }

/-- The character that delimits the matcher in pattern text. -/
def symbol (m : EdgeMatcher) : Char :=
  match m.directions with
  | [] => '-'
  | d :: _ => d.symbol

def body (m : EdgeMatcher) : String :=
  match m.name with
  | none => m.test.body
  | some a =>
    if m.test.body = LabelTest.wildcard then "\x7b" ++ a ++ "\x7d"
    else "\x7b" ++ a ++ ":" ++ m.test.body ++ "\x7d"

/-- The innermost test. -/
def base (m : EdgeMatcher) : EdgeMatcher := ofTest m.test

instance : Display EdgeMatcher where
  text m := m.symbol.toString ++ m.body ++ m.symbol.toString
  quoted m := m.kind ++ "(" ++
    Text.quoted (m.symbol.toString ++ m.body ++ m.symbol.toString) ++ ")"

@[simp] theorem flip_flip (m : EdgeMatcher) : m.flip.flip = m := by
  obtain ⟨a, _ | ⟨d, ds⟩, t⟩ := m <;> simp [flip]

@[simp] theorem name_flip (m : EdgeMatcher) : m.flip.name = m.name := by
  obtain ⟨a, _ | ⟨d, ds⟩, t⟩ := m <;> rfl

@[simp] theorem test_flip (m : EdgeMatcher) : m.flip.test = m.test := by
  obtain ⟨a, _ | ⟨d, ds⟩, t⟩ := m <;> rfl

end EdgeMatcher

end Motif
