import Motif.InsertionMap
import Motif.Text.Numeral
import Motif.Text.Quoted

/-!
# CoNLL-U sentences

A sentence in CoNLL-U is a list of comments, of which those of the form `# key = value` carry data,
and a list of rows, one for a word and a few for other things: ranges of words that are written as
one, and empty nodes. A row has named columns; `Row` has a field for every column that has a bearing
on the word graph. A field is `none` if the row has no such column, or if the column says that it is
unspecified and is one of those that can say so.
-/

namespace Motif.Conllu

/-- What a row stands for. -/
inductive RowId where
  /-- Nothing is said. -/
  | unspecified
  /-- A word, by its number in the sentence. -/
  | word (number : Nat)
  /-- Several words that are written as one. -/
  | range (first last : Nat)
  /-- A node that is not in the text, by the word that it follows and its rank there. -/
  | emptyNode (after rank : Nat)
deriving DecidableEq, Repr

/-- The features of a row: keys with their values, where they have one. -/
abbrev Features := InsertionMap String (Option String)

/-- A row of a sentence. -/
structure Row where
  /-- What the row stands for; `none` if there is no such column. -/
  id : Option RowId
  /-- The word. -/
  form : Option String
  /-- The lemma. -/
  lemmaForm : Option String
  /-- The universal part-of-speech tag. -/
  universalTag : Option String
  /-- The language-specific part-of-speech tag. -/
  specificTag : Option String
  /-- The number of the word that this one depends on; zero marks the root. -/
  head : Option Int
  /-- The relation to the head. -/
  relation : Option String
  /-- Further features. -/
  misc : Features

def Row.blank : Row := ⟨none, none, none, none, none, none, none, .empty⟩

/-- A sentence. -/
structure Sentence where
  /-- The data in the comments. -/
  comments : InsertionMap String String
  /-- The rows in order. -/
  rows : List Row

/-- What can be wrong with a text in CoNLL-U. -/
inductive Fault where
  /-- A row has one column only. -/
  | singleColumn
  /-- A text in a column says what a row stands for, but nothing can be that. -/
  | badId (column text : String)
  /-- The text in the column for the head is none. -/
  | badHead (text : String)
  /-- A number has too many digits. -/
  | tooManyDigits (count : Nat)
  /-- A row lacks a column that it has to have. -/
  | missingColumn (name : String)
deriving DecidableEq, Repr

/-- The kind of a fault, as messages give it. -/
def Fault.kind : Fault → String
  | singleColumn | badId _ _ | badHead _ => "ParseException"
  | tooManyDigits _ => "ValueError"
  | missingColumn _ => "KeyError"

def Fault.message : Fault → String
  | singleColumn => "Invalid line format, line must contain either tabs or two spaces."
  | badId column text =>
    "Failed parsing field '" ++ column ++ "': '" ++ text ++ "' is not a valid ID."
  | badHead text =>
    "Failed parsing field 'head': '" ++ text ++ "' is not a valid value for parse_int_value."
  | tooManyDigits n => Text.tooManyDigits n
  | missingColumn name => Text.quoted ("'" ++ name ++ "'")

end Motif.Conllu
