import Motif.Display
import Motif.Text.LowerCase

/-!
# Tokens

A token is a word of a sentence with its part-of-speech tag, its place in a noun chunk, its lemma
and its position. Tokens are compared by value: two tokens with equal fields are the same vertex of
a graph, so repeated words are told apart by their positions.
-/

namespace Motif

/-- The chunk tag of a token outside every chunk. -/
def outsideChunk : String := "O"

/-- A word of a sentence. -/
structure Token where
  /-- The word as it is written. -/
  form : String
  /-- The part-of-speech tag. -/
  tag : String
  /-- The chunk tag: `B-` begins a chunk, `I-` continues one, `O` is outside. -/
  chunk : String
  /-- The lemma. -/
  lemmaForm : String
  /-- The position in the sentence. -/
  position : Int
deriving DecidableEq, Repr

namespace Token

/-- A token whose lemma, unless given, is the word in lower case. -/
def ofForm (form tag chunk : String) (lemma? : Option String) (position : Int) : Token :=
  ⟨form, tag, chunk, lemma?.getD (Text.lower form), position⟩

instance : Display Token where
  text t := t.form ++ "_" ++ t.tag ++ "_" ++ t.position.repr
  quoted t :=
    "Token(string=" ++ Display.quoted t.form ++ ", postag=" ++ Display.quoted t.tag ++
      ", chunk=" ++ Display.quoted t.chunk ++ ", lemma=" ++ Display.quoted t.lemmaForm ++
      ", index=" ++ Display.quoted t.position ++ ")"

end Token

end Motif
