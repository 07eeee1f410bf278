import Motif.Conllu.Printer
import Motif.Conllu.Reader
import Motif.File
import Motif.Graph.Basic
import Motif.Journal
import Motif.Token

/-!
# Word graphs in CoNLL-U

A sentence in CoNLL-U becomes a graph of tokens: a vertex for every number of a word and an edge
from every head to its dependents. Ranges and empty nodes play no part, and a head that is no word
of the sentence is reported and dropped. A graph is written as a sentence whose words are its
vertices, sorted by position and numbered from one; of several edges into a vertex the last one is
written.

Two conventions are open: which column holds the tags, and which feature the noun chunks.
-/

namespace Motif.Conllu

/-- The columns for part-of-speech tags. -/
inductive TagColumn where
  | universal
  | specific
deriving DecidableEq, Repr

namespace TagColumn

def other : TagColumn → TagColumn
  | universal => specific
  | specific => universal

def ofName? : String → Option TagColumn
  | "upos" => some universal
  | "xpos" => some specific
  | _ => none

end TagColumn

/-- A name that is not the name of a column for tags. -/
structure UnknownTagColumn where
  name : String
deriving DecidableEq, Repr

def UnknownTagColumn.message (u : UnknownTagColumn) : String :=
  "pos_field must be 'upos' or 'xpos', got " ++ Text.quoted u.name

/-- How tokens are found in rows and put there. -/
structure Convention where
  /-- The column in which tags are looked for first and to which they are written. -/
  tagColumn : TagColumn
  /-- The key of the feature that holds the chunk tag. -/
  chunkKey : String
deriving DecidableEq, Repr

namespace Convention

/-- The key that chunk tags have unless another one is chosen. -/
def standardChunkKey : String := "Chunk"

/-- Universal tags, and chunk tags under their usual key. -/
def standard : Convention := ⟨.universal, standardChunkKey⟩

/-- The convention with the tag column of the given name. -/
def ofName (tagColumn chunkKey : String) : Except UnknownTagColumn Convention :=
  match TagColumn.ofName? tagColumn with
  | some column => .ok ⟨column, chunkKey⟩
  | none => .error ⟨tagColumn⟩

end Convention

/-! ## From sentences to graphs -/

namespace Row

def tagIn (r : Row) : TagColumn → Option String
  | .universal => r.universalTag
  | .specific => r.specificTag

/-- The tag of a word: the one in the preferred column unless it is empty, or the one in the other
column unless it is empty, or that of an unspecified tag. -/
def tag (r : Row) (column : TagColumn) : String :=
  (((r.tagIn column).filter (· ≠ "")).or ((r.tagIn column.other).filter (· ≠ ""))).getD unspecified

def chunk (r : Row) (key : String) : String :=
  (((r.misc.get? key).join).filter (· ≠ "")).getD outsideChunk

/-- The token of a row that stands for the word of the given number. -/
def token (r : Row) (convention : Convention) (number : Nat) : Except Fault Token :=
  match r.form with
  | none => .error (.missingColumn "form")
  | some form =>
    .ok (.ofForm form (r.tag convention.tagColumn) (r.chunk convention.chunkKey)
      (r.lemmaForm.filter (· ≠ unspecified)) ((number : Int) - 1))

/-- The number of the word that a row stands for, if it stands for one. -/
def wordNumber? (r : Row) : Except Fault (Option Nat) :=
  match r.id with
  | none => .error (.missingColumn "id")
  | some (.word n) => .ok (some n)
  | some _ => .ok none

def label (r : Row) : String := (r.relation.filter (· ≠ "")).getD "dep"

end Row

/-- What the head of a word amounts to. -/
inductive Attachment where
  /-- The word is a root. -/
  | root
  /-- The word depends on another word, or on itself. -/
  | edge (e : Edge Token)
  /-- The word depends on a word that the sentence does not have. -/
  | unknownHead (head : Int) (number : Nat)
deriving DecidableEq, Repr

namespace Sentence

/-- The rows that stand for words, with the numbers of the words. -/
def words (s : Sentence) : Except Fault (List (Nat × Row)) := do
  let numbered ← s.rows.mapM fun r ↦ do pure ((← r.wordNumber?).map fun n ↦ (n, r))
  pure (numbered.filterMap id)

/-- The tokens by their numbers. Of several rows for one word the last one counts, in the place of
the first. -/
def tokens (convention : Convention) (words : List (Nat × Row)) :
    Except Fault (InsertionMap Nat Token) := do
  let tokens ← words.mapM fun (n, r) ↦ do pure (n, ← r.token convention n)
  pure (.ofList tokens)

/-- What the head of a word amounts to, given the tokens of the sentence. -/
def attachment (tokens : InsertionMap Nat Token) (word : Nat × Row) : Attachment :=
  match word.2.head, tokens.get? word.1 with
  | some head, some dependent =>
    if head = 0 then .root
    else
      match head.toNat?.bind tokens.get? with
      | some governor => .edge ⟨governor, dependent, word.2.label⟩
      | none => .unknownHead head word.1
  | _, _ => .root

def name (s : Sentence) : String := (s.comments.get? "sent_id").getD "?"

/-- The report of a head that the sentence does not have. -/
def unknownHeadRecord (s : Sentence) (head : Int) (number : Nat) : Record :=
  ⟨.warning, .conllu, "Skipping edge from unknown head " ++ head.repr ++ " to token " ++
    number.repr ++ " in sentence " ++ s.name⟩

/-- The graph of a sentence and the reports of unknown heads. -/
def toGraph (s : Sentence) (convention : Convention) :
    Except Fault (Graph Token × List Record) := do
  let words ← s.words
  let tokens ← tokens convention words
  -- All tokens are there before the first edge, so a head may come after its dependents.
  let attachments := words.map (attachment tokens)
  let edges := attachments.filterMap fun
    | .edge e => some e
    | _ => none
  let records := attachments.filterMap fun
    | .unknownHead head number => some (s.unknownHeadRecord head number)
    | _ => none
  pure (.within tokens.values edges, records)

/-! ## From graphs to sentences -/

/-- The vertices of a graph sorted by position; vertices at the same position keep their order. -/
def inOrder (g : Graph Token) : List Token :=
  g.vertices.mergeSort fun t u ↦ t.position ≤ u.position

/-- The last edge into a vertex. -/
def governing? (g : Graph Token) (t : Token) : Option (Edge Token) :=
  g.edges.reverse.find? fun e ↦ e.dest = t

/-- The number of a word in the order of a sentence. -/
def numberIn (order : List Token) (t : Token) : Nat := order.idxOf t + 1

def rowOf (convention : Convention) (g : Graph Token) (order : List Token) (t : Token) : Row :=
  let tagIn (column : TagColumn) : String :=
    if convention.tagColumn = column then t.tag else unspecified
  let governing := governing? g t
  { id := some (.word (numberIn order t))
    form := some t.form
    lemmaForm := some t.lemmaForm
    universalTag := some (tagIn .universal)
    specificTag := some (tagIn .specific)
    head := some ((governing.map fun e ↦ (numberIn order e.source : Int)).getD 0)
    relation := some ((governing.map Edge.label).getD "root")
    misc := if t.chunk = outsideChunk then .empty
      else .ofList [(convention.chunkKey, some t.chunk)] }

def ofGraph (convention : Convention) (g : Graph Token) : Sentence :=
  let order := inOrder g
  { comments := .ofList [("text", " ".intercalate (order.map Token.form))]
    rows := order.map (rowOf convention g order) }

end Sentence

/-! ## Whole texts -/

def readGraphs (convention : Convention) (text : String) :
    Journaled Fault (List (Graph Token)) := do
  let sentences ← Journaled.ofExcept (read text)
  sentences.mapM fun s ↦ do
    let (graph, records) ← Journaled.ofExcept (s.toGraph convention)
    Journaled.write records
    pure graph

def renderGraphs (convention : Convention) (graphs : List (Graph Token)) : String :=
  String.join (graphs.map fun g ↦ (Sentence.ofGraph convention g).render)

/-- Why a file was not loaded. -/
inductive LoadFault where
  /-- The file cannot be read. -/
  | file (fault : FileFault)
  /-- The text of the file is not in the format. -/
  | invalid (fault : Fault)
deriving DecidableEq, Repr

/-- The kind of a fault, as messages give it. -/
def LoadFault.kind : LoadFault → String
  | file fault => fault.kind
  | invalid fault => fault.kind

def LoadFault.message : LoadFault → String
  | file fault => fault.message
  | invalid fault => fault.message

def readFile (convention : Convention) (files : Files) (name : String) :
    Journaled LoadFault (List (Graph Token)) :=
  match files name with
  | .error fault => throw (.file fault)
  | .ok text => (readGraphs convention (Text.withUnifiedNewlines text)).mapFault .invalid

/-- Loads a file: its graphs, with a report of their number or of what went wrong. -/
def load (convention : Convention) (files : Files) (name : String) :
    Journaled LoadFault (List (Graph Token)) := do
  let graphs ← tryCatch (readFile convention files name) fun fault ↦ do
    Journaled.note .error .conllu
      ("[ERROR] CoNLL-U load ERROR: " ++ fault.kind ++ ": " ++ fault.message)
    Journaled.note .error .conllu ("   File: " ++ name)
    throw fault
  Journaled.note .info .conllu ("Loaded " ++ graphs.length.repr ++ " sentence(s) from " ++ name)
  pure graphs

def exportRecord (graphs : List (Graph Token)) (name : String) : Record :=
  ⟨.info, .conllu, "Wrote " ++ graphs.length.repr ++ " sentence(s) to " ++ name⟩

end Motif.Conllu
