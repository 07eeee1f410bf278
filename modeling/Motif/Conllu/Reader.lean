import Motif.Conllu.Sentence
import Motif.Text.Lines
import Motif.Text.LowerCase

/-!
# Reading CoNLL-U

A text is divided into paragraphs, one for each sentence. The lines that begin with `#` are comments
and the others are rows, whose cells are separated by tabs or by two spaces or more. Which column a
cell belongs to is a matter of its place: the ten standard columns, or those that a first line
`# global.columns = ...` of this sentence or an earlier one has declared. A row may end early; cells
beyond the last column are ignored.
-/

namespace Motif.Conllu

/-! ## Cells -/

/-- The cells of a row: the pieces between tabs or runs of at least two spaces. -/
def cells : List Char → List (List Char)
  | [] => [[]]
  | '\t' :: cs => [] :: cells cs
  | ' ' :: ' ' :: cs => [] :: cells (cs.dropWhile (· = ' '))
  | c :: cs =>
    match cells cs with
    | [] => [[c]]
    | w :: ws => (c :: w) :: ws
termination_by cs => cs.length
decreasing_by
  all_goals
    have := (List.dropWhile_suffix (l := cs) (· = ' ')).length_le
    simp only [List.length_cons]
    omega

/-- Whether a character is one of the digits from zero to nine. -/
def isDigit (c : Char) : Bool := '0' ≤ c && c ≤ '9'

/-- Whether a text is a number, written in the ten digits without leading zeros, that is not
zero. -/
def isCounting (cs : List Char) : Bool :=
  match cs with
  | [] => false
  | c :: cs => isDigit c && c ≠ '0' && cs.all isDigit

/-- The number that digits denote. -/
def numberOf (cs : List Char) : Except Fault Nat :=
  if cs.length ≤ Text.maxNumeralDigits then
    .ok (Text.ofDigitValues (cs.map fun c ↦ c.toNat - '0'.toNat))
  else .error (.tooManyDigits cs.length)

/-- The text of a cell, unless the cell is empty or says that nothing is specified. -/
def specified? (cs : List Char) : Option (List Char) :=
  if cs = [] ∨ cs = ['_'] then none else some cs

/-- Reads what a row stands for: `4` is a word, `4-5` a range and `4.1` an empty node. Words may be
numbered from zero, but ranges begin at one, and the last word of a range is not before the first.
The name of the column stands in the fault. -/
def readId (column : String) (cs : List Char) : Except Fault RowId :=
  let bad : Fault := .badId column (String.ofList cs)
  if (specified? cs).isNone then .ok .unspecified
  else if isCounting cs ∨ cs = ['0'] then .word <$> numberOf cs
  else
    match Text.cut '-' cs, Text.cut '.' cs with
    | (first, some last), _ => do
      if !(isCounting first && isCounting last) then throw bad
      let first ← numberOf first
      let last ← numberOf last
      if first ≤ last then pure (.range first last) else throw bad
    | _, (after, some rank) => do
      if after = [] || !after.all isDigit || !isCounting rank then throw bad
      pure (.emptyNode (← numberOf after) (← numberOf rank))
    | _, _ => .error bad

/-- Reads the number of a head, which may be unspecified. -/
def readHead (cs : List Char) : Except Fault (Option Int) :=
  if cs = ['_'] then .ok none
  else if cs = ['0'] then .ok (some 0)
  else
    match cs with
    | '-' :: ds =>
      if isCounting ds then return some (-(← numberOf ds))
      else .error (.badHead (String.ofList cs))
    | _ =>
      if isCounting cs then return some (← numberOf cs)
      else .error (.badHead (String.ofList cs))

/-- The part of a further relation in front of the colon, if the part has the form of one: digits,
possibly a dash or a point and further digits, a colon and a label. -/
def relationId? (cs : List Char) : Option (List Char) :=
  let isDecimal (c : Char) : Bool := (Text.decimalValue? c).isSome
  let isDigits (ds : List Char) : Bool := ds ≠ [] && ds.all isDecimal
  match Text.cut ':' cs with
  | (number, some label) =>
    let after := number.dropWhile isDecimal
    let isId : Bool := isDigits (number.takeWhile isDecimal) &&
      (after = [] || ((after.head? = some '-' || after.head? = some '.') && isDigits after.tail))
    if isId ∧ label ≠ [] then some number else none
  | (_, none) => none

/-- Checks a column of further relations, which are separated by bars: if all its parts have the
form of one, what they name has to be what a row can stand for. -/
def checkRelations (cs : List Char) : Except Fault Unit :=
  match (Text.split '|' cs).mapM relationId? with
  | some ids => ids.forM fun id ↦ do discard (readId "deps" id)
  | none => .ok ()

/-- Reads one feature, a key and a value divided by an equals sign. A second equals sign ends the
value. A key alone has the empty value; a key that is not specified makes no feature. -/
def readFeature (cs : List Char) : Option (String × Option String) := do
  let (key, value) := Text.cut '=' cs
  let key ← specified? key
  let value :=
    match value with
    | none => some []
    | some rest => specified? (Text.cut '=' rest).1
  pure (String.ofList key, value.map String.ofList)

/-- Reads features, which are separated by bars. -/
def readFeatures (cs : List Char) : Features :=
  match specified? cs with
  | none => .empty
  | some cs => .ofList ((Text.split '|' cs).filterMap readFeature)

/-! ## Rows -/

def standardColumns : List String :=
  ["id", "form", "lemma", "upos", "xpos", "feats", "head", "deprel", "deps", "misc"]

/-- The name that a column counts under, among the columns of its row. The columns for tags also
have older names, which count if the row has no column under the usual one. -/
def countedName (names : List String) (name : String) : String :=
  if name = "upostag" ∧ "upos" ∉ names then "upos"
  else if name = "xpostag" ∧ "xpos" ∉ names then "xpos"
  else name

/-- Stores a cell in the column of the given name. -/
def Row.store (r : Row) (column : String) (cell : List Char) : Except Fault Row :=
  let text := String.ofList cell
  match column with
  | "id" => return { r with id := some (← readId "id" cell) }
  | "form" => .ok { r with form := some text }
  | "lemma" => .ok { r with lemmaForm := some text }
  | "upos" => .ok { r with universalTag := some text }
  | "xpos" => .ok { r with specificTag := (specified? cell).map String.ofList }
  | "head" => return { r with head := ← readHead cell }
  | "deprel" => .ok { r with relation := some text }
  | "deps" => return (← checkRelations cell, r).2
  | "misc" => .ok { r with misc := readFeatures cell }
  | _ => .ok r

/-- Reads a row with the given columns. Of several columns with one name the last one counts. -/
def readRow (columns : List String) (line : List Char) : Except Fault Row :=
  match cells line with
  | [_] => .error .singleColumn
  | cells =>
    let named := columns.zip cells
    let names := named.map Prod.fst
    named.foldlM (fun r (column, cell) ↦ r.store (countedName names column) cell) Row.blank

/-! ## Sentences -/

/-- The data in a comment: the texts on both sides of the first equals sign, if neither is
empty. -/
def readComment (cs : List Char) : Option (String × String) :=
  match Text.cut '=' cs with
  | (key, some value) =>
    let key := Text.trim key
    let value := Text.trim value
    if key = [] ∨ value = [] then none else some (String.ofList key, String.ofList value)
  | _ => none

/-- The data in the comments among the lines of a sentence. What a comment that is not indented says
comes first, so an indented one prevails over it. -/
def readComments (lines : List (List Char)) : List (String × String) :=
  let isOutdented (line : List Char) : Bool := line.head? = some '#'
  ((lines.filter isOutdented) ++ (lines.filter fun line ↦ !isOutdented line)).filterMap fun line ↦
    match Text.trim line with
    | '#' :: cs => readComment cs
    | _ => none

/-- What a line that declares columns begins with. -/
def columnsMark : String := "# global.columns = "

/-- The columns that the first line of a sentence declares, in lower case. Where it declares none by
name, the standard columns are meant. -/
def declaredColumns? (lines : List (List Char)) : Option (List String) := do
  let line ← lines.head?
  guard (columnsMark.toList.isPrefixOf line)
  let names := (Text.words (line.drop columnsMark.length)).map fun name ↦
    Text.lower (String.ofList name)
  pure (if names = [] then standardColumns else names)

def rowLines (lines : List (List Char)) : List (List Char) :=
  (lines.map Text.trim).filter fun line ↦ line.head? ≠ some '#'

/-- Reads the sentences of paragraphs. Columns once declared stay in force. -/
def readParagraphs (columns : List String) : List (List (List Char)) → Except Fault (List Sentence)
  | [] => .ok []
  | lines :: rest => do
    let columns := (declaredColumns? lines).getD columns
    let rows ← (rowLines lines).mapM (readRow columns)
    let sentences ← readParagraphs columns rest
    pure (⟨.ofList (readComments lines), rows⟩ :: sentences)

def read (text : String) : Except Fault (List Sentence) :=
  readParagraphs standardColumns (Text.paragraphs text.toList)

end Motif.Conllu
