import Motif.Yaml.Fault

/-!
# Places in a YAML text

A place is what is left of a text together with the line, the column and the number of characters
before it: in YAML the column of a unit decides to which collection it belongs.
-/

namespace Motif.Yaml

def isBreak (c : Char) : Bool :=
  c = '\n' || c = '\r' || c = '\u0085' || c = '\u2028' || c = '\u2029'

/-- Whether a unit ends before what comes next: a blank, the end of a line or of the text. -/
def endsUnit : Option Char → Bool
  | none => true
  | some c => c = ' ' || c = '\t' || isBreak c

/-- A place in a text. -/
structure Place where
  /-- The text that is left. -/
  rest : List Char
  /-- The number of lines before. -/
  line : Nat
  /-- The number of characters before on the line. -/
  column : Nat
  /-- The number of characters before. -/
  index : Nat
deriving Repr

namespace Place

def start (cs : List Char) : Place := ⟨cs, 0, 0, 0⟩

def peek (p : Place) : Option Char := p.rest.head?

def peekSecond (p : Place) : Option Char := p.rest[1]?

/-- The place after the next character. A byte order mark takes no column. -/
def next (p : Place) : Place :=
  match p.rest with
  | [] => p
  | c :: cs =>
    if isBreak c then ⟨cs, p.line + 1, 0, p.index + 1⟩
    else ⟨cs, p.line, if c = '\ufeff' then p.column else p.column + 1, p.index + 1⟩

/-- The place after a number of characters. -/
def skip : Nat → Place → Place
  | 0, p => p
  | n + 1, p => skip n p.next

/-- The longest run of characters of a class and the place after it. -/
def span (f : Char → Bool) (p : Place) : List Char × Place :=
  let run := p.rest.takeWhile f
  (run, p.skip run.length)

def skipSpaces (p : Place) : Place := (p.span (· = ' ')).2

/-- The end of the line, if it is here, and the place after it. All ways to end a line count as a
line feed, but for the two separators that stand for themselves. -/
def lineBreak? (p : Place) : Option (Char × Place) :=
  match p.rest with
  | '\r' :: '\n' :: _ => some ('\n', p.skip 2)
  | c :: _ =>
    if c = '\u2028' ∨ c = '\u2029' then some (c, p.next)
    else if isBreak c then some ('\n', p.next)
    else none
  | [] => none

/-- Whether the mark that begins or ends a document is here, supposed that a line begins. -/
def atMark (p : Place) : Bool :=
  (p.rest.take 3 = ['-', '-', '-'] || p.rest.take 3 = ['.', '.', '.']) && endsUnit p.rest[3]?

end Place

end Motif.Yaml
