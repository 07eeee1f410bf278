import Motif.SyntaxError
import Motif.Text.Blank
import Motif.Text.Letter
import Motif.Text.Split

/-!
# The units of a node expression

A node expression consists of parentheses, the operators `&`, `|` and `!`, and attribute tests: a
name, an equals sign and a value in single or double quotes. Blanks may stand between any two of
these.
-/

namespace Motif.Expression

/-- A unit of a node expression. -/
inductive Lexeme where
  | openParen
  | closeParen
  | and
  | or
  | not
  | test (name value : String)
deriving DecidableEq, Repr

namespace Lexeme

/-- The unit that a character is on its own. -/
def ofChar? : Char → Option Lexeme
  | '(' => some openParen
  | ')' => some closeParen
  | '&' => some and
  | '|' => some or
  | '!' => some not
  | _ => none

def text : Lexeme → String
  | openParen => "("
  | closeParen => ")"
  | and => "&"
  | or => "|"
  | not => "!"
  | test name value => "(" ++ Text.quoted name ++ ", " ++ Text.quoted value ++ ")"

end Lexeme

/-- A unit and the number of characters before it. -/
structure Placed where
  /-- The unit. -/
  lexeme : Lexeme
  /-- The number of characters before it. -/
  position : Nat
deriving DecidableEq, Repr

/-- Whether a name can begin with a character. -/
def isNameStart (c : Char) : Bool := Text.isLetter c || c == '_'

/-- Reads the attribute test at the beginning of a text, which begins with a name. Gives the name,
the value and the text after it. -/
def readTest (position : Nat) (cs : List Char) :
    Except SyntaxError (String × String × List Char) :=
  let name := cs.takeWhile Text.isWord
  match Text.trimLeft (cs.dropWhile Text.isWord) with
  | '=' :: afterEquals =>
    let quotedText := Text.trimLeft afterEquals
    let unquoted :=
      SyntaxError.at' .unquotedValue (cs.take (cs.length - quotedText.length + 1)) position
    match quotedText with
    | [] => .error unquoted
    | quote :: afterQuote =>
      if quote = '"' ∨ quote = '\'' then
        match Text.cut quote afterQuote with
        | (value, some rest) => .ok (String.ofList name, String.ofList value, rest)
        | (_, none) =>
          .error (.at' .unterminatedValue quotedText (position + (cs.length - quotedText.length)))
      else .error unquoted
  | _ => .error (.at' .expectedEquals name position)

theorem length_cut_lt {sep : Char} {cs value rest : List Char}
    (h : Text.cut sep cs = (value, some rest)) : rest.length < cs.length := by
  have := congrArg List.length (Text.cut_append sep cs)
  simp [h] at this
  omega

theorem length_readTest_lt {position : Nat} {cs rest : List Char} {name value : String}
    (h : readTest position cs = .ok (name, value, rest)) : rest.length < cs.length := by
  have h₁ : (Text.trimLeft (cs.dropWhile Text.isWord)).length ≤ cs.length :=
    Nat.le_trans (Text.length_trimLeft_le _) (List.dropWhile_suffix _).length_le
  simp only [readTest] at h
  split at h
  · rename_i afterEquals heq
    rw [heq] at h₁
    have h₂ := Text.length_trimLeft_le afterEquals
    split at h
    · simp at h
    · rename_i quote afterQuote hq
      rw [hq] at h₂
      split at h
      · split at h
        · rename_i hcut
          simp only [Except.ok.injEq, Prod.mk.injEq] at h
          obtain ⟨-, -, rfl⟩ := h
          have := length_cut_lt hcut
          simp only [List.length_cons] at h₁ h₂
          omega
        · simp at h
      · simp at h
  · simp at h

/-- The units of a text of which `position` characters come before. -/
def lexFrom (position : Nat) (cs : List Char) : Except SyntaxError (List Placed) :=
  match cs with
  | [] => .ok []
  | c :: rest =>
    if Text.isBlank c then lexFrom (position + 1) rest
    else
      match Lexeme.ofChar? c with
      | some l => do
        let ls ← lexFrom (position + 1) rest
        pure (⟨l, position⟩ :: ls)
      | none =>
        if isNameStart c then
          match h : readTest position (c :: rest) with
          | .error e => .error e
          | .ok (name, value, rest') => do
            have : rest'.length < rest.length + 1 := length_readTest_lt h
            let ls ← lexFrom (position + ((c :: rest).length - rest'.length)) rest'
            pure (⟨.test name value, position⟩ :: ls)
        else .error (.at' .unexpectedCharacter [c] position)
termination_by cs.length

def lex (cs : List Char) : Except SyntaxError (List Placed) := lexFrom 0 cs

end Motif.Expression
