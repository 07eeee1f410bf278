import Motif.Document.Basic
import Motif.Graph.Basic
import Motif.InsertionMap
import Motif.Journal
import Motif.Token

/-!
# Word graphs of parsed documents

A document, or a span of it, becomes a graph with a vertex for every word and an edge from its head
to every word whose head is another word of the span. Positions are counted from the beginning of
the span. Words in a noun chunk carry a chunk tag: `B-NP` for the first word of the chunk and `I-NP`
for the others; where chunks overlap the one that was found last decides.
-/

namespace Motif

/-- The place of a word in a noun chunk. -/
inductive ChunkTag where
  /-- The first word. -/
  | first
  /-- Another word. -/
  | further
deriving DecidableEq, Repr

def ChunkTag.text : ChunkTag → String
  | first => "B-NP"
  | further => "I-NP"

/-- The tags that a chunk gives to its words. -/
def Span.chunkTags (chunk : Span) : List (Nat × ChunkTag) :=
  chunk.positions.map fun i ↦ (i, if i = chunk.start then .first else .further)

namespace Document

variable (d : Document)

/-- The chunk tags of the words in a span, by their positions in the document. -/
def chunkTags (s : Span) : InsertionMap Nat ChunkTag :=
  .ofList ((d.chunksIn s).flatMap Span.chunkTags)

/-- The words of a span with their positions in the document. -/
def wordsIn (s : Span) : List (Nat × Word) :=
  (d.words.zipIdx.map fun (w, i) ↦ (i, w)).filter fun (i, _) ↦ s.covers i

/-- The token of a word at a position of the document, as a part of a span. The coarse tag stands
in for a missing fine one. -/
def token (s : Span) (i : Nat) (w : Word) : Token :=
  .ofForm w.form (if w.tag = "" then w.category else w.tag)
    ((((d.chunkTags s).get? i).map ChunkTag.text).getD outsideChunk)
    (if w.lemmaForm = "" then none else some w.lemmaForm) ((i : Int) - s.start)

/-- The edge to a word from its head, if the head is another word of the span. -/
def edgeTo? (s : Span) (i : Nat) (w : Word) : Option (Edge Token) := do
  let h := d.headOf i
  guard (h ≠ i && s.covers h)
  let head ← d.words[h]?
  pure ⟨d.token s h head, d.token s i w, w.relation⟩

def graph (s : Span) : Graph Token :=
  .within ((d.wordsIn s).map fun (i, w) ↦ d.token s i w)
    ((d.wordsIn s).filterMap fun (i, w) ↦ d.edgeTo? s i w)

/-- What there is to report about the noun chunks. -/
def chunkRecords : List Record :=
  let unavailable (reason : String) : Record :=
    ⟨.debug, .documents, "No noun chunks available: " ++ reason⟩
  match d.chunking with
  | .unavailable =>
    [unavailable "[E894] The 'noun_chunks' syntax iterator is not implemented for language ''."]
  | .failed => [unavailable "no parse"]
  | .found _ => []

end Document

/-! ## Processing texts -/

/-- Why a text gave no graphs. -/
inductive ProcessFault where
  /-- The parser has no document for the text. -/
  | unparsed (text : Option String)
  /-- The document is not divided into sentences. -/
  | undivided
  /-- A noun chunk does not lie in the document. -/
  | strayChunk (fault : Document.StrayChunk)
deriving DecidableEq, Repr

def ProcessFault.message : ProcessFault → String
  | unparsed none => "None"
  | unparsed (some text) => Text.quoted text
  | undivided => "[E030]"
  | strayChunk fault => fault.message

namespace Parser

def process (parser : Parser) (text : Option String) :
    Journaled ProcessFault (List (Graph Token)) := do
  match parser text with
  | none => throw (.unparsed text)
  | some d =>
    match d.sentences? with
    | none => throw .undivided
    | some spans =>
      spans.mapM fun s ↦ do
        Journaled.ofExcept (d.checkChunks.mapError .strayChunk)
        Journaled.write d.chunkRecords
        pure (d.graph s)

/-- The graphs of the sentences of several texts, and a report of their number. -/
def processAll (parser : Parser) (texts : List String) :
    Journaled ProcessFault (List (Graph Token)) := do
  let graphs ← texts.mapM fun text ↦ parser.process (some text)
  let graphs := graphs.flatten
  Journaled.note .info .documents ("Parsed " ++ graphs.length.repr ++ " sentence(s)")
  pure graphs

end Parser

end Motif
