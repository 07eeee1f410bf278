import Motif.Payload

/-!
# Node expressions

A node expression is a boolean combination of attribute tests. Which attributes there are, and how
they are read from a vertex, is a *vocabulary*. `Expression.holds` is the meaning of an expression:
it evaluates from left to right, asks no test whose answer cannot matter, and passes on the fault of
a test that is asked. The parts of a conjunction or a disjunction are asked as a sequence, and so a
fault leaves them as it leaves a sequence.

`Expression.render` writes an expression in its canonical form: parentheses only where a weaker
operator stands below a stronger one, and double quotes unless the value contains one.
-/

namespace Motif

/-- The attributes that expressions may name. -/
structure Vocabulary (V : Type) where
  /-- The attributes by name, with the way to read them. -/
  attributes : List (String × (V → Except FieldFault Reading))
  /-- The names of the attributes that are compared without regard to case. -/
  ignoreCase : List String

namespace Vocabulary

variable {V : Type}

/-- The names of the attributes, in alphabetical order. -/
def names (voc : Vocabulary V) : List String :=
  (voc.attributes.map Prod.fst).mergeSort fun a b ↦ decide (a ≤ b)

def knows (voc : Vocabulary V) (name : String) : Bool := (voc.attributes.lookup name).isSome

/-- The attributes that are compared without regard to case unless something else is asked for. -/
def standardIgnoreCase : List String := ["string", "lemma"]

/-- The attributes that read the fields of a vertex. -/
def standardAttributes [Payload V] : List (String × (V → Except FieldFault Reading)) :=
  [("string", (Payload.read · .form)), ("lemma", (Payload.read · .lemmaForm)),
    ("pos", (Payload.read · .tag)), ("chunk", (Payload.read · .chunk))]

/-- The vocabulary that reads the fields of a vertex. -/
def standard [Payload V] : Vocabulary V := ⟨standardAttributes, standardIgnoreCase⟩

/-- Whether an attribute of a vertex has a value: without regard to case, or exactly. -/
def test (voc : Vocabulary V) (name value : String) (v : V) : Except FieldFault Bool :=
  match voc.attributes.lookup name with
  | none => .ok false
  | some read => do
    let r ← read v
    if voc.ignoreCase.contains name then
      pure ((← r.lower).isText (Text.lower value))
    else pure (r.isText value)

end Vocabulary

/-- Boolean combinations of attribute tests. -/
inductive Expression where
  /-- The attribute has the value. -/
  | test (name value : String)
  /-- The expression does not hold. -/
  | not (e : Expression)
  /-- Both hold. -/
  | and (e f : Expression)
  /-- One of them holds. -/
  | or (e f : Expression)
deriving DecidableEq, Repr

namespace Expression

variable {V : Type}

/-- Whether an expression holds of a vertex. -/
def holds (voc : Vocabulary V) : Expression → V → Except FieldFault Bool
  | test name value, v => voc.test name value v
  | not e, v => do
    let b ← e.holds voc v
    pure (!b)
  | and e f, v => Except.mapError FieldFault.inSequence do
    let b ← e.holds voc v
    if b then f.holds voc v else pure false
  | or e f, v => Except.mapError FieldFault.inSequence do
    let b ← e.holds voc v
    if b then pure true else f.holds voc v

/-- How strongly the outermost operator of an expression binds. -/
def strength : Expression → Nat
  | or _ _ => 0
  | and _ _ => 1
  | not _ => 2
  | test _ _ => 3

/-- A text in parentheses if a condition holds. -/
def parenthesize (b : Bool) (cs : List Char) : List Char :=
  if b then '(' :: cs ++ [')'] else cs

def quoteValue (value : List Char) : List Char :=
  let quote := if value.contains '"' then '\'' else '"'
  quote :: value ++ [quote]

def render : Expression → List Char
  | test name value => name.toList ++ '=' :: quoteValue value.toList
  | not e => '!' :: parenthesize (e.strength < 2) e.render
  | and e f =>
    parenthesize (e.strength < 1) e.render ++ ' ' :: '&' :: ' ' ::
      parenthesize (f.strength < 1) f.render
  | or e f => e.render ++ ' ' :: '|' :: ' ' :: f.render

def text (e : Expression) : String := String.ofList e.render

end Expression

end Motif
