import Motif.Catalogue.Basic
import Motif.Document.Graph

/-!
# Searching with a catalogue

A catalogue finds the matches of all its patterns, in the order in which the patterns were
registered, and each match comes with the id of its pattern. A match can be explained: the
explanation shows the pattern, its description, what the captures recorded and the walk.
-/

namespace Motif.Catalogue

variable {V : Type}

/-- A match and the id of the pattern that it is a match of. -/
structure Finding (V : Type) where
  id : Yaml.Scalar
  found : Match V

/-- Why a search with a catalogue failed. -/
inductive SearchError (V : Type) where
  /-- The search for the matches of a pattern failed. -/
  | search (fault : SearchFault V)
  /-- An entry has no pattern to search for. -/
  | noPattern (fault : FieldFault)
deriving DecidableEq, Repr

def SearchError.message [Display V] : SearchError V → String
  | search fault => fault.message
  | noPattern fault => fault.message

/-- The report of a search for the matches of a pattern. -/
def searchRecord (p : Pattern V) (count : Nat) : Record :=
  ⟨.debug, .search, "Pattern " ++ Display.text p ++ ": " ++ count.repr ++ " match(es)"⟩

section Search

variable [DecidableEq V]

/-- The matches of the pattern of an entry, up to a limit. -/
def Entry.search (e : Entry V) (limit : Option Nat) (g : Graph V) :
    Journaled (SearchError V) (List (Finding V)) := do
  let p ← Journaled.ofExcept ((e.content.require "search").mapError .noPattern)
  let found ← Journaled.ofExcept ((p.firstMatches g none limit).mapError .search)
  Journaled.write [searchRecord p found.length]
  pure (found.map fun m ↦ ⟨e.id, m⟩)

variable (c : Catalogue V)

/-- The matches of all patterns in a graph, in the order of the patterns. -/
def search (g : Graph V) : Journaled (SearchError V) (List (Finding V)) := do
  let findings ← c.entries.mapM fun e ↦ e.search c.limit g
  pure findings.flatten

/-- The matches in every one of several graphs. -/
def searchAll (graphs : List (Graph V)) : Journaled (SearchError V) (List (List (Finding V))) :=
  graphs.mapM c.search

/-! ## Texts -/

/-- Why no matches were extracted from a text. -/
inductive ExtractFault (V : Type) where
  /-- The parser is not installed. -/
  | model (fault : MissingModel)
  /-- The text gave no graphs. -/
  | process (fault : ProcessFault)
  /-- The search in a graph failed. -/
  | search (fault : SearchError V)
deriving DecidableEq, Repr

/-- Parses a text with the parser of a given name and finds the matches in every sentence, over the
vertices that stand for tokens. -/
def extract (ofToken : Token → V) (models : Models) (model : String) (text : String) :
    Journaled (ExtractFault V) (List (List (Finding V))) := do
  let parser ← Journaled.ofExcept ((models.load model).mapError .model)
  let graphs ← (parser.process (some text)).mapFault .process
  (c.searchAll (graphs.map (Graph.map ofToken))).mapFault .search

end Search

/-! ## Explanations -/

section Explanation

variable [Payload V] (c : Catalogue V)

/-- What an explanation says about the pattern of a match: the text that is registered under the id,
or the text of the matched pattern if the id has no pattern, and the description. -/
def describe (f : Finding V) : Except Yaml.Unshowable (List String) :=
  match (c.entry? f.id).bind fun e ↦ e.content.pattern? with
  | none => .ok ["Text: " ++ Display.text f.found.pattern]
  | some (p, description) => do
    let line := "Text: " ++ Display.text p
    if description.isGiven then pure [line, "Description: " ++ (← description.shown?)]
    else pure [line]

def walkText (w : Walk V) : String := if w.length = 0 then "(single node)" else Display.text w

def explanation (f : Finding V) : Except Yaml.Unshowable (List String) := do
  pure <| ("Pattern: " ++ (← f.id.shown?)) :: (← c.describe f) ++
    (f.found.nodes.entries.map fun e ↦ "Node " ++ e.1 ++ ": " ++ Payload.caption e.2.value) ++
    (f.found.edges.entries.map fun e ↦ "Edge " ++ e.1 ++ ": " ++ Display.text e.2.value) ++
    ["Matched path: " ++ walkText f.found.walk]

def explain (f : Finding V) : Except Yaml.Unshowable String :=
  (c.explanation f).map "\n".intercalate

end Explanation

end Motif.Catalogue
