import Motif.Conllu.Sentence
import Motif.Text.Split

/-!
# Writing CoNLL-U

A row is written with the ten standard columns, separated by tabs; an underscore stands for what is
not specified. The columns for morphological features and for further dependencies, which have no
bearing on the word graph, are left unspecified. Every sentence ends with an empty line.
-/

namespace Motif.Conllu

def unspecified : String := "_"

/-- The text that says what a row stands for. -/
def RowId.render : RowId → String
  | unspecified => Conllu.unspecified
  | word n => n.repr
  | range first last => first.repr ++ "-" ++ last.repr
  | emptyNode after rank => after.repr ++ "." ++ rank.repr

/-- The text of a feature: a key alone has the empty value. -/
def renderFeature (feature : String × Option String) : String :=
  let value := feature.2.getD unspecified
  if value = "" then feature.1 else feature.1 ++ "=" ++ value

def renderFeatures (features : Features) : String :=
  if features.entries = [] then unspecified
  else "|".intercalate (features.entries.map renderFeature)

/-- The cells of a row, in the order of the standard columns. -/
def Row.cells (r : Row) : List String :=
  [(r.id.getD .unspecified).render, r.form.getD unspecified, r.lemmaForm.getD unspecified,
    r.universalTag.getD unspecified, r.specificTag.getD unspecified, unspecified,
    (r.head.map Int.repr).getD unspecified, r.relation.getD unspecified, unspecified,
    renderFeatures r.misc]

def Row.render (r : Row) : String := "\t".intercalate r.cells

def renderComment (comment : String × String) : String :=
  "# " ++ comment.1 ++ if comment.2 = "" then "" else " = " ++ comment.2

def Sentence.lines (s : Sentence) : List String :=
  s.comments.entries.map renderComment ++ s.rows.map Row.render

def Sentence.render (s : Sentence) : String := "\n".intercalate s.lines ++ "\n\n"

end Motif.Conllu
