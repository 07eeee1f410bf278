import Motif.Regex.Fault

/-!
# Mistakes in pattern text

A mistake has a cause, the piece of the text that is at fault and the place of that piece. The cause
alone decides the wording; the piece and the place are appended to it.
-/

namespace Motif

/-- What can be wrong with the text of a pattern or of a node expression. -/
inductive SyntaxError.Cause where
  | emptyPattern
  | endsWithEdge
  | invalidName
  | duplicateName
  | unbalancedBrace
  | emptyNodeExpression
  | expectedNode
  | emptyNodeTest
  | expectedEdge
  | unterminatedEdge (symbol : Char)
  | emptyEdge
  | textAfterCapture
  | invalidRegex (mistake : Regex.Mistake)
  | invalidLabel
  | emptyExpression
  | expectedEquals
  | unquotedValue
  | unterminatedValue
  | unexpectedCharacter
  | unexpectedToken
  | unexpectedEnd
  | missingParenthesis
  | unknownAttribute (known : List String)
deriving DecidableEq, Repr

def SyntaxError.Cause.message : SyntaxError.Cause → String
  | emptyPattern => "Empty pattern"
  | endsWithEdge => "Pattern must end with a node"
  | invalidName => "Invalid capture alias"
  | duplicateName => "Duplicate capture alias"
  | unbalancedBrace => "Unbalanced '\x7b'"
  | emptyNodeExpression => "Empty node expression"
  | expectedNode => "Expected a node"
  | emptyNodeTest => "Empty node test"
  | expectedEdge => "Expected an edge starting with '<', '>' or '-'"
  | unterminatedEdge c =>
    "Unterminated edge, missing closing " ++ Text.quoted c.toString
  | emptyEdge => "Empty edge"
  | textAfterCapture => "Unexpected text after edge capture"
  | invalidRegex m => "Invalid regular expression: " ++ m.message
  | invalidLabel => "Invalid edge label"
  | emptyExpression => "Empty expression"
  | expectedEquals => "Expected '=' after attribute name"
  | unquotedValue => "Value not enclosed in quote (\") or (')"
  | unterminatedValue => "Unterminated quoted value"
  | unexpectedCharacter => "Unexpected character"
  | unexpectedToken => "Unexpected token"
  | unexpectedEnd => "Unexpected end of expression"
  | missingParenthesis => "Missing closing parenthesis"
  | unknownAttribute known => "Unknown attribute; expected one of " ++ Text.quotedList known

/-- A mistake in the text of a pattern or of a node expression. -/
structure SyntaxError where
  /-- What is wrong. -/
  cause : SyntaxError.Cause
  /-- The piece of text that is at fault, if there is a text. -/
  token : Option String
  /-- The number of characters before the piece. -/
  position : Int
deriving DecidableEq, Repr

namespace SyntaxError

def at' (cause : Cause) (token : List Char) (position : Nat) : SyntaxError :=
  ⟨cause, some (String.ofList token), position⟩

/-- The mistake as it stands in a larger text, where `offset` characters come before. -/
def shift (offset : Int) (e : SyntaxError) : SyntaxError :=
  { e with position := offset + e.position }

/-- The wording of the cause, without the place. -/
def bare (e : SyntaxError) : String := e.cause.message

def message (e : SyntaxError) : String :=
  match e.token with
  | none => e.bare
  | some t => e.bare ++ " (at " ++ Text.quoted t ++ ", position " ++ e.position.repr ++ ")"

end SyntaxError

end Motif
