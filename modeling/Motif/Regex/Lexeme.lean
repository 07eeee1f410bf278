import Motif.Regex.Fault

/-!
# The units of a regular expression

A regular expression is read in units: a character, or a backslash together with the character it
escapes. A text that ends in a lone backslash is refused as soon as reading reaches that place,
which is before anything is done about the unit that precedes it.

`Cursor` is a place between units. Reading only ever moves it forward.
-/

namespace Motif.Regex

/-- A unit of the text of a regular expression. -/
inductive Lexeme where
  /-- A character on its own. -/
  | plain (c : Char)
  /-- A backslash and the character after it. -/
  | escaped (c : Char)
deriving DecidableEq, Repr

def Lexeme.text : Lexeme → List Char
  | plain c => [c]
  | escaped c => ['\\', c]

/-- The units of a text, and whether a lone backslash follows them. -/
def lexemes : List Char → List Lexeme × Bool
  | [] => ([], false)
  | ['\\'] => ([], true)
  | '\\' :: c :: cs =>
    let r := lexemes cs
    (.escaped c :: r.1, r.2)
  | c :: cs =>
    let r := lexemes cs
    (.plain c :: r.1, r.2)

/-- A place in the text of a regular expression. -/
structure Cursor where
  /-- The text as a whole. -/
  source : List Char
  /-- The units that have not been read. -/
  rest : List Lexeme
  /-- The number of characters before the place. -/
  position : Nat
  /-- Whether a lone backslash ends the text. -/
  dangling : Bool

namespace Cursor

def peek (c : Cursor) : Option Lexeme := c.rest.head?

/-- The mistake `problem`, placed `back` characters before the cursor. -/
def mistake (c : Cursor) (problem : Problem) (back : Nat := 0) : Fault :=
  .mistake ⟨problem, c.source, some (c.position - back)⟩

/-- Refuses a cursor that stands before a lone backslash. -/
def check (c : Cursor) : Except Fault Cursor :=
  if c.rest.isEmpty && c.dangling then .error (c.mistake .danglingBackslash) else .ok c

def ofText (source : List Char) : Except Fault Cursor :=
  let (rest, dangling) := lexemes source
  check ⟨source, rest, 0, dangling⟩

def advance (c : Cursor) : Except Fault Cursor :=
  match c.rest with
  | [] => .ok c
  | l :: rest => check { c with rest, position := c.position + l.text.length }

end Cursor

end Motif.Regex
