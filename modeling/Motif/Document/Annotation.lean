import Motif.Document.Basic

/-!
# Annotated words

The words of a document may come with annotations in lists of their own: tags, categories, lemmas,
heads and relations, each with one entry for every word. Heads make no sense without relations, but
relations without heads are taken to lead from every word to itself. `Annotations.document` puts a
document together and refuses lists that do not fit.
-/

namespace Motif

/-- The words of a document and what is known of them. -/
structure Annotations where
  /-- The words as they are written. -/
  forms : List String
  /-- The fine part-of-speech tags. -/
  tags : Option (List String)
  /-- The coarse part-of-speech tags. -/
  categories : Option (List String)
  /-- The lemmas. -/
  lemmas : Option (List String)
  /-- The positions of the heads. -/
  heads : Option (List Int)
  /-- The relations to the heads. -/
  relations : Option (List String)
deriving DecidableEq, Repr

/-- Why annotations make no document. -/
inductive AnnotationFault where
  /-- A word is empty. -/
  | emptyWord
  /-- There are heads, but no relations to them. -/
  | unnamedRelations
  /-- A category is none of the known ones. -/
  | unknownCategory
  /-- A list has not as many entries as there are words. -/
  | lengths
  /-- A head lies outside of the document. -/
  | strayHead
deriving DecidableEq, Repr

def AnnotationFault.message : AnnotationFault → String
  | emptyWord => "[E031]"
  | unnamedRelations => "[E1017]"
  | unknownCategory => "[E1021]"
  | lengths => "[E189]"
  | strayHead => "[E190]"

namespace Annotations

/-- The coarse part-of-speech tags that there are; the empty text stands for none. -/
def knownCategories : List String :=
  ["", "ADJ", "ADP", "ADV", "AUX", "CONJ", "CCONJ", "DET", "INTJ", "NOUN", "NUM", "PART", "PRON",
    "PROPN", "PUNCT", "SCONJ", "SYM", "VERB", "X", "EOL", "SPACE"]

variable (a : Annotations)

/-- Whether a list of annotations is missing or has no entries. -/
def isBare {α : Type} (annotations : Option (List α)) : Bool := (annotations.getD []).isEmpty

/-- The lengths of the lists that are there. An empty list of heads beside relations says
nothing. -/
def lengths : List Nat :=
  let heads := if isBare a.heads && !isBare a.relations then none else a.heads
  [a.tags.map List.length, a.categories.map List.length, a.lemmas.map List.length,
    heads.map List.length, a.relations.map List.length].filterMap id

/-- Checks that the annotations fit the words. -/
def check : Except AnnotationFault Unit := do
  if a.forms.contains "" then throw .emptyWord
  if !isBare a.heads && isBare a.relations then throw .unnamedRelations
  if (a.categories.getD []).any fun c ↦ !knownCategories.contains c then throw .unknownCategory
  if a.lengths.any (· ≠ a.forms.length) then throw .lengths
  if (a.heads.getD []).any fun h ↦ h < 0 ∨ h ≥ a.forms.length then throw .strayHead

/-- The word at a position, given how it is written. A word without a head is its own. -/
def wordAt (i : Nat) (form : String) : Word where
  form := form
  tag := (a.tags.bind (·[i]?)).getD ""
  category := (a.categories.bind (·[i]?)).getD ""
  lemmaForm := (a.lemmas.bind (·[i]?)).getD ""
  head := ((a.heads.bind (·[i]?)).map Int.toNat).getD i
  relation := (a.relations.bind (·[i]?)).getD ""

/-- The document of annotated words, with what is known of its noun chunks and sentences. -/
def document (chunking : Chunking) (division : Option (List Span)) :
    Except AnnotationFault Document := do
  a.check
  pure ⟨a.forms.zipIdx.map fun (form, i) ↦ a.wordAt i form, chunking, division⟩

end Annotations

end Motif
