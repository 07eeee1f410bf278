import Motif.Text.Quoted

/-!
# Parsed documents

A parsed document is a list of words, each with the word that it depends on, together with the noun
chunks that were found and the division into sentences. A word whose relation is empty has not been
attached: it counts as its own head.

Unless it is given, the division into sentences follows from the dependencies: a sentence begins at
the leftmost word below each root. A document of several words without any dependency has no
sentences to speak of.
-/

namespace Motif

/-- A run of positions: from `start` to before `stop`. -/
structure Span where
  start : Nat
  stop : Nat
deriving DecidableEq, Repr

namespace Span

def covers (s : Span) (i : Nat) : Bool := s.start ≤ i && i < s.stop

def inside (s t : Span) : Bool := t.start ≤ s.start && s.stop ≤ t.stop

def positions (s : Span) : List Nat := List.range' s.start (s.stop - s.start)

end Span

/-- A word of a parsed document. -/
structure Word where
  /-- The word as it is written. -/
  form : String
  /-- The fine part-of-speech tag, or the empty text. -/
  tag : String
  /-- The coarse part-of-speech tag, or the empty text. -/
  category : String
  /-- The lemma, or the empty text. -/
  lemmaForm : String
  /-- The position of the word that this one is attached to; a root is attached to itself. -/
  head : Nat
  /-- The relation to the head, or the empty text if the word is not attached. -/
  relation : String
deriving DecidableEq, Repr

/-- What is known of the noun chunks of a document. -/
inductive Chunking where
  /-- There is no way to find noun chunks. -/
  | unavailable
  /-- The search for noun chunks failed. -/
  | failed
  /-- The chunks in the order in which they were found. -/
  | found (chunks : List Span)
deriving DecidableEq, Repr

/-- A parsed document. -/
structure Document where
  /-- The words in order. -/
  words : List Word
  /-- The noun chunks. -/
  chunking : Chunking
  /-- The division into sentences, if it is given. -/
  division : Option (List Span)
deriving DecidableEq, Repr

namespace Document

variable (d : Document)

def whole : Span := ⟨0, d.words.length⟩

/-- The span between two positions. Positions below zero are counted from the end, and a span ends
where the document does. -/
def slice (start stop : Int) : Span :=
  let n : Int := d.words.length
  let fromFront (i : Int) : Int := if i < 0 then i + n else i
  let start := min n (max 0 (fromFront start))
  ⟨start.toNat, (min n (max start (fromFront stop))).toNat⟩

/-- The position that a word is attached to, whether or not the relation has a name. -/
def attachedTo (i : Nat) : Nat := (d.words[i]?.map Word.head).getD i

/-- The position of the head of a word. A word without a relation is its own head. -/
def headOf (i : Nat) : Nat :=
  match d.words[i]? with
  | some w => if w.relation = "" then i else w.head
  | none => i

def chunksIn (s : Span) : List Span :=
  match d.chunking with
  | .found chunks => chunks.filter fun c ↦ c.inside s
  | _ => []

/-- A noun chunk that does not lie in its document. -/
structure StrayChunk where
  chunk : Span
deriving DecidableEq, Repr

def StrayChunk.message (_ : StrayChunk) : String := "[E035]"

/-- Checks that all noun chunks lie in the document. -/
def checkChunks : Except StrayChunk Unit :=
  match d.chunking with
  | .found chunks => chunks.forM fun c ↦
    if c.start ≤ c.stop ∧ c.inside d.whole then .ok () else .error ⟨c⟩
  | _ => .ok ()

/-! ## Sentences -/

/-- The position that is reached by going up to the word attached to a number of times. -/
def ancestor : (steps i : Nat) → Nat
  | 0, i => i
  | steps + 1, i => ancestor steps (d.attachedTo i)

/-- Whether a word is the root of a dependency tree. -/
def isRoot (i : Nat) : Bool :=
  match d.words[i]? with
  | some w => w.head = i && w.relation ≠ ""
  | none => false

def leftmostBelow (root : Nat) : Option Nat :=
  (List.range d.words.length).find? fun i ↦ d.ancestor d.words.length i = root

/-- The positions at which sentences begin: the first one and the leftmost word below each root. -/
def sentenceStarts : List Nat :=
  let positions := List.range d.words.length
  let leftmost := (positions.filter d.isRoot).filterMap d.leftmostBelow
  positions.filter fun i ↦ i = 0 || leftmost.contains i

/-- The spans that begin at the given positions, each up to the next one and the last up to the
end. -/
def spansFrom (stop : Nat) : List Nat → List Span
  | [] => []
  | [start] => [⟨start, stop⟩]
  | start :: next :: rest => ⟨start, next⟩ :: spansFrom stop (next :: rest)

/-- The sentences, if the document has a division into sentences. -/
def sentences? : Option (List Span) :=
  match d.division with
  | some spans => some spans
  | none =>
    if d.words.length < 2 || d.words.any fun w ↦ w.relation ≠ "" then
      some (spansFrom d.words.length d.sentenceStarts)
    else none

end Document

/-! ## Parsers -/

/-- A parser: the documents of the texts that it can parse. Nothing at all may be given to it as a
text. -/
abbrev Parser := Option String → Option Document

/-- The parsers that are installed, by name. -/
abbrev Models := String → Option Parser

/-- The parser that is used unless another one is chosen. -/
def standardModel : String := "en_core_web_sm"

/-- A parser that is not installed. -/
structure MissingModel where
  /-- The name that was asked for. -/
  name : String
deriving DecidableEq, Repr

namespace MissingModel

def message (_ : MissingModel) : String := "[E050]"

/-- The warning that comes with the fault and says what to do. -/
def warning (m : MissingModel) : String :=
  "Model " ++ m.name ++ " not found. Run: python -m spacy download " ++ m.name

end MissingModel

/-- The installed parser of the given name. -/
def Models.load (models : Models) (name : String) : Except MissingModel Parser :=
  match models name with
  | some parser => .ok parser
  | none => .error ⟨name⟩

end Motif
