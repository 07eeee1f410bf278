import Motif.Distinct
import Motif.Matcher.Edge
import Motif.Payload

/-!
# Node matchers

A node matcher tests a vertex: a conjunction of one or more pairwise distinct tests, with at most
one capture around it. A single test is the conjunction of itself, so a conjunction inside a
conjunction, a repeated member or a capture below the outermost place cannot be written down.

Tests are opaque, and a test may fail to give an answer at a vertex. They are compared by their
expressions.
-/

namespace Motif

/-- A test of a vertex. -/
inductive NodeTest (V : Type) where
  /-- Any vertex. -/
  | any
  /-- A vertex that a condition holds of, with the expression the condition is shown as. -/
  | holds (expression : String) (condition : V → Except FieldFault Bool)

namespace NodeTest

variable {V : Type}

/-- The text of the test that accepts any vertex. -/
def wildcard : String := ".*"

/-- The expression of a test, by which tests are compared. -/
def expression? : NodeTest V → Option String
  | any => none
  | holds e _ => some e

def text : NodeTest V → String
  | any => wildcard
  | holds e _ => e

/-- The text that a vertex matches: that of the test, if the vertex passes. -/
def matchText : NodeTest V → V → Except FieldFault (Option String)
  | any, _ => .ok (some wildcard)
  | holds e condition, v => do
    if ← condition v then pure (some e) else pure none

end NodeTest

/-- A node matcher. -/
structure NodeMatcher (V : Type) where
  /-- The name under which the vertex is recorded. -/
  name : Option String
  /-- The tests that must all hold. -/
  tests : List (NodeTest V)
  /-- There is a test. -/
  tests_ne_nil : tests ≠ []
  /-- No test is repeated. -/
  tests_distinct : (tests.map NodeTest.expression?).Nodup

namespace NodeMatcher

variable {V : Type}

def ofTest (t : NodeTest V) : NodeMatcher V := ⟨none, [t], by simp, by simp⟩

def any : NodeMatcher V := ofTest .any

/-- The matcher that makes several tests, repetitions dropped. -/
def ofTests (ts : List (NodeTest V)) (h : ts ≠ []) : NodeMatcher V where
  name := none
  tests := distinctBy NodeTest.expression? ts
  tests_ne_nil := distinctBy_ne_nil _ h
  tests_distinct := nodup_map_distinctBy _ ts

/-- What two matchers have in common when they count as equal. -/
def signature (m : NodeMatcher V) : Option String × List (Option String) :=
  (m.name, m.tests.map NodeTest.expression?)

/-- Whether a matcher is a conjunction of several tests. -/
def isConjunction (m : NodeMatcher V) : Bool := m.tests.length > 1

/-- The kind of a matcher, named for its outermost layer. -/
def kind (m : NodeMatcher V) : String :=
  match m.name, m.tests with
  | some _, _ => "CaptureNodeMatcher"
  | none, [.any] => "TrivialNodeMatcher"
  | none, [_] => "ExpressionNodeMatcher"
  | none, _ => "ConjunctiveNodeMatcher"

/-- The matcher that also records the vertex under a name. -/
def captured (name : String) (m : NodeMatcher V) : Except InvalidPattern (NodeMatcher V) :=
  match m.name with
  | some inner => .error (.wrappedNodeCapture inner name)
  | none => .ok { m with name := some name }

/-- The conjunction of matchers. There must be two distinct ones at least, and none may be a
conjunction or a capture. -/
def conjunction (ms : List (NodeMatcher V)) : Except InvalidPattern (NodeMatcher V) :=
  let members := distinctBy signature ms
  -- Repeated members are dropped before they are counted.
  if h : members.length < 2 then .error (.smallConjunction members.length)
  else if members.any fun m ↦ m.name.isNone && m.isConjunction then .error .nestedConjunction
  else
    match members.findSome? NodeMatcher.name with
    | some name => .error (.capturedMember name)
    | none => .ok (ofTests (members.flatMap NodeMatcher.tests) (by
        cases hm : members with
        | nil => simp [hm] at h
        | cons m ms => simp [m.tests_ne_nil]))

/-- The text that a vertex matches: that of the first test, if the vertex passes all of them. The
tests are made in order, up to the first that fails. -/
def matchTests : List (NodeTest V) → V → Except FieldFault (Option String)
  | [], _ => .ok none
  | [t], v => t.matchText v
  | t :: ts, v => do
    match ← t.matchText v with
    | none => pure none
    | some s =>
      match ← matchTests ts v with
      | none => pure none
      | some _ => pure (some s)

def matchText (m : NodeMatcher V) (v : V) : Except FieldFault (Option String) :=
  matchTests m.tests v

/-- The tests as matchers of their own. -/
def base (m : NodeMatcher V) : List (NodeMatcher V) := m.tests.map ofTest

def body (m : NodeMatcher V) : String := ":".intercalate (m.tests.map NodeTest.text)

def text (m : NodeMatcher V) : String :=
  match m.name, m.tests with
  | none, _ => m.body
  | some a, [.any] => "\x7b" ++ a ++ "\x7d"
  | some a, _ => "\x7b" ++ a ++ ":" ++ m.body ++ "\x7d"

instance : Display (NodeMatcher V) where
  text := text
  quoted m := m.kind ++ "(" ++ Text.quoted m.text ++ ")"

end NodeMatcher

end Motif
