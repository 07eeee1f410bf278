import Motif.Expression.Lexeme
import Motif.Expression.Syntax
import Motif.Matcher.Node

/-!
# Reading node expressions

The grammar has one rule for each binding strength. A disjunction is a list of conjunctions, a
conjunction a list of literals, and a literal a test, a negated literal or an expression in
parentheses. Every rule takes a unit at least, so reading ends.
-/

namespace Motif.Expression

variable {V : Type}

/-- The rules of the grammar, by how weakly their operators bind. -/
inductive Rule where
  | disjunction
  | conjunction
  | literal
deriving DecidableEq, Repr

@[simp] def Rule.rank : Rule → Nat
  | disjunction => 2
  | conjunction => 1
  | literal => 0

/-- An expression that has been read and the units after it, of which there are fewer than `n`. -/
abbrev Read (n : Nat) := Expression × { rest : List Placed // rest.length < n }

/-- Reads an expression by a rule. `source` is the text of the whole expression. -/
def readBy (voc : Vocabulary V) (source : List Char) (rule : Rule) (ls : List Placed) :
    Except SyntaxError (Read ls.length) :=
  match rule with
  | .disjunction =>
    match readBy voc source .conjunction ls with
    | .error fault => .error fault
    | .ok (e, ⟨⟨.or, _⟩ :: rest, h⟩) =>
      have hrest : rest.length < ls.length := by simp only [List.length_cons] at h; omega
      match readBy voc source .disjunction rest with
      | .error fault => .error fault
      | .ok (f, ⟨rest', h'⟩) => .ok (.or e f, ⟨rest', by omega⟩)
    | .ok (e, rest) => .ok (e, rest)
  | .conjunction =>
    match readBy voc source .literal ls with
    | .error fault => .error fault
    | .ok (e, ⟨⟨.and, _⟩ :: rest, h⟩) =>
      have hrest : rest.length < ls.length := by simp only [List.length_cons] at h; omega
      match readBy voc source .conjunction rest with
      | .error fault => .error fault
      | .ok (f, ⟨rest', h'⟩) => .ok (.and e f, ⟨rest', by omega⟩)
    | .ok (e, rest) => .ok (e, rest)
  | .literal =>
    match ls with
    | [] => .error (.at' .unexpectedEnd source source.length)
    | ⟨.not, _⟩ :: rest =>
      match readBy voc source .literal rest with
      | .error fault => .error fault
      | .ok (e, ⟨rest', h'⟩) => .ok (.not e, ⟨rest', by simp only [List.length_cons]; omega⟩)
    | ⟨.openParen, position⟩ :: rest =>
      match readBy voc source .disjunction rest with
      | .error fault => .error fault
      | .ok (e, ⟨⟨.closeParen, _⟩ :: rest', h'⟩) =>
        .ok (e, ⟨rest', by simp only [List.length_cons] at h' ⊢; omega⟩)
      | .ok _ => .error (.at' .missingParenthesis ['('] position)
    | ⟨.test name value, position⟩ :: rest =>
      if voc.knows name then .ok (.test name value, ⟨rest, by simp⟩)
      else .error (.at' (.unknownAttribute voc.names) name.toList position)
    | ⟨l, position⟩ :: _ => .error (.at' .unexpectedToken l.text.toList position)
termination_by (ls.length, rule.rank)

/-- Reads a whole expression. Places count from its beginning. -/
def read (voc : Vocabulary V) (cs : List Char) : Except SyntaxError Expression := do
  let ls ← lex cs
  if ls.isEmpty then .error (.at' .emptyExpression cs 0)
  else
    let (e, rest) ← readBy voc cs .disjunction ls
    match rest.val with
    | [] => pure e
    | l :: _ => .error (.at' .unexpectedToken l.lexeme.text.toList l.position)

/-- The test of vertices that an expression stands for. -/
def toTest (voc : Vocabulary V) (e : Expression) : NodeTest V := .holds e.text (e.holds voc)

/-- Reads the test of vertices at a place of a larger text, `offset` characters from its
beginning. -/
def compile (voc : Vocabulary V) (cs : List Char) (offset : Int) :
    Except SyntaxError (NodeTest V) :=
  match read voc cs with
  | .ok e => .ok (e.toTest voc)
  | .error fault => .error (fault.shift offset)

end Motif.Expression
