import Motif.Journal
import Motif.Pattern.Reader
import Motif.Pattern.Search
import Motif.Yaml.Value

/-!
# Catalogues of patterns

A catalogue holds patterns under ids, in the order in which they were registered. No two ids are the
same key, and no pattern equals an earlier one: what is there already is not registered again.

Catalogues are filled from files too, so an id can be any scalar. An entry can also hold a value
that is no pattern. Such an entry takes up its id, and asking it for what only patterns have is a
fault.
-/

namespace Motif

namespace Catalogue

/-- What is registered under an id. -/
inductive Content (V : Type) where
  /-- A pattern and a description of it. -/
  | pattern (p : Pattern V) (description : Yaml.Value)
  /-- A value that is no pattern. -/
  | value (v : Yaml.Value)

namespace Content

variable {V : Type}

instance : Display (Content V) where
  text
    | pattern p _ => Display.text p
    | value v => Display.text v
  quoted
    | pattern p _ => Display.quoted p
    | value v => Display.quoted v

/-- Whether two contents are equal patterns, whatever their descriptions, or equal values. -/
def same : Content V → Content V → Bool
  | pattern p _, pattern q _ => p.same q
  | value v, value w => v.same w
  | _, _ => false

/-- The plain text of a content, if it can be shown. -/
def shown? : Content V → Except Yaml.Unshowable String
  | pattern p _ => .ok (Display.text p)
  | value v => v.shown?

/-- The pattern, of which something is wanted that only patterns have. -/
def require (wanted : String) : Content V → Except FieldFault (Pattern V)
  | pattern p _ => .ok p
  | value v => .error (.noField v.kind wanted)

/-- The pattern and its description, if there is a pattern. -/
def pattern? : Content V → Option (Pattern V × Yaml.Value)
  | pattern p description => some (p, description)
  | value _ => none

end Content

/-- An id and what is registered under it. -/
structure Entry (V : Type) where
  id : Yaml.Scalar
  content : Content V

/-- The key of an entry. Ids with the same key cannot stand side by side. -/
def Entry.key {V : Type} (e : Entry V) : Yaml.Key := e.id.key

end Catalogue

/-- A catalogue of patterns. -/
structure Catalogue (V : Type) where
  /-- The words of node expressions. -/
  vocabulary : Vocabulary V
  /-- The largest number of matches of one pattern in one graph, if there is one. -/
  limit : Option Nat
  /-- The entries in the order in which they were registered. -/
  entries : List (Catalogue.Entry V)
  /-- No id is registered twice. -/
  keys_nodup : (entries.map Catalogue.Entry.key).Nodup
  /-- No content equals an earlier one. -/
  contents_differ : entries.Pairwise fun e f ↦ e.content.same f.content = false

namespace Catalogue

variable {V : Type}

def empty (vocabulary : Vocabulary V) (limit : Option Nat) : Catalogue V :=
  ⟨vocabulary, limit, [], by simp, .nil⟩

/-- The catalogue without entries, with a limit that must not be negative. -/
def create (vocabulary : Vocabulary V) (limit : Option Int) : Except LimitFault (Catalogue V) :=
  (nonNegativeLimit limit).map (empty vocabulary)

variable (c : Catalogue V)

/-- The ids in the order in which they were registered. -/
def ids : List Yaml.Scalar := c.entries.map Entry.id

def size : Nat := c.entries.length

def entry? (id : Yaml.Scalar) : Option (Entry V) := c.entries.find? fun e ↦ e.key = id.key

def contains (id : Yaml.Scalar) : Bool := c.entries.any fun e ↦ e.key = id.key

/-- An id that is not registered. -/
structure UnknownId where
  id : Yaml.Scalar
deriving DecidableEq, Repr

/-- The message for an id that is not registered. -/
def UnknownId.message (u : UnknownId) : String := Display.quoted u.id

def get (id : Yaml.Scalar) : Except UnknownId (Content V) :=
  match c.entry? id with
  | some e => .ok e.content
  | none => .error ⟨id⟩

/-! ## Changes -/

/-- What an attempt to change a catalogue comes to. -/
structure Change (V ε α : Type) where
  /-- The catalogue afterwards. -/
  catalogue : Catalogue V
  /-- What was reported. -/
  records : List Record
  /-- The result, or why there is none. -/
  outcome : Except ε α

namespace Change

variable {ε δ α β : Type}

/-- Goes on with another change after one that had a result. -/
def andThen (x : Change V ε α) (f : Catalogue V → α → Change V ε β) : Change V ε β :=
  match x.outcome with
  | .error fault => ⟨x.catalogue, x.records, .error fault⟩
  | .ok a =>
    let y := f x.catalogue a
    ⟨y.catalogue, x.records ++ y.records, y.outcome⟩

/-- The same change with its fault seen as a fault of another kind. -/
def mapFault (f : ε → δ) (x : Change V ε α) : Change V δ α :=
  ⟨x.catalogue, x.records, x.outcome.mapError f⟩

end Change

/-- An attempt that leaves a catalogue as it is. -/
def unchanged {ε α : Type} (outcome : Except ε α) : Change V ε α := ⟨c, [], outcome⟩

/-! ## Adding one entry -/

/-- What can be offered for registration. -/
inductive Candidate (V : Type) where
  /-- The text of a pattern. -/
  | text (s : String)
  /-- A pattern. -/
  | pattern (p : Pattern V)
  /-- A value that is no pattern. -/
  | value (v : Yaml.Value)

/-- A value of a file as a candidate: a text is the text of a pattern. -/
def Candidate.ofValue : Yaml.Value → Candidate V
  | .scalar (.text s) => text s
  | v => value v

/-- The content that a candidate with a description stands for. -/
def Candidate.resolve (vocabulary : Vocabulary V) (description : Yaml.Value) :
    Candidate V → Except TextFault (Content V)
  | text s => do
    let p ← Pattern.read vocabulary s
    pure (.pattern p description)
  | pattern p => .ok (.pattern p description)
  | value v => .ok (.value v)

/-- Why an attempt to register something failed. -/
inductive AddFault where
  /-- The id cannot be an id. -/
  | compositeId (fault : Yaml.CompositeKey)
  /-- The id is registered already. -/
  | duplicateId (id : Yaml.Scalar)
  /-- The text is not the text of a pattern. -/
  | text (fault : TextFault)
  /-- A value was registered that is no pattern. -/
  | noPattern (fault : FieldFault)
  /-- Something could not be shown that was to be reported or recorded. -/
  | unshowable (fault : Yaml.Unshowable)
deriving DecidableEq

def AddFault.message : AddFault → String
  | compositeId fault => fault.message
  | duplicateId id => "Duplicate pattern id: " ++ Display.text id
  | text fault => fault.message
  | noPattern fault => fault.message
  | unshowable fault => fault.message

/-- The fault of an id that is registered already. -/
def AddFault.ofDuplicate (id : Yaml.Scalar) : AddFault :=
  match id.shown? with
  | .ok _ => duplicateId id
  | .error fault => unshowable fault

/-- Whether a content can be recorded as a pattern. -/
def Content.recorded {V : Type} (content : Content V) : Except AddFault Unit := do
  let _ ← content.shown?.mapError .unshowable
  let _ ← (content.require "edge_matchers").mapError .noPattern

/-- The catalogue with an entry at the end. -/
def append (e : Entry V) (fresh : c.contains e.id = false)
    (new : c.entries.find? (fun f ↦ f.content.same e.content) = none) : Catalogue V where
  vocabulary := c.vocabulary
  limit := c.limit
  entries := c.entries ++ [e]
  keys_nodup := by
    rw [List.map_append, List.nodup_append]
    refine ⟨c.keys_nodup, by simp, ?_⟩
    intro k hk l hl hkl
    obtain ⟨f, hf, rfl⟩ := List.mem_map.1 hk
    have hfresh := List.any_eq_false.1 fresh f hf
    simp only [List.map_cons, List.map_nil, List.mem_singleton] at hl
    subst hl
    exact hfresh (decide_eq_true hkl)
  contents_differ := by
    refine List.pairwise_append.2 ⟨c.contents_differ, List.pairwise_singleton _ _, ?_⟩
    intro f hf g hg
    rw [List.mem_singleton.1 hg]
    simpa using List.find?_eq_none.1 new f hf

/-- The report of a content that is not registered, because it equals an earlier one. -/
def duplicateRecord (id earlier : Yaml.Scalar) (content : Content V) :
    Except Yaml.Unshowable Record := do
  pure ⟨.warning, .catalogue, "Pattern " ++ (← id.shown?) ++ " duplicates " ++ (← earlier.shown?) ++
    " (" ++ (← content.shown?) ++ "); skipping"⟩

/-- Registers a content under an id, unless an equal content is registered already, and tells which.
A value that is no pattern is registered too, and is a fault afterwards. -/
def register (id : Yaml.Scalar) (fresh : c.contains id = false) (content : Content V) :
    Change V AddFault Bool :=
  match new : c.entries.find? fun f ↦ f.content.same content with
  | some f =>
    match duplicateRecord id f.id content with
    | .ok record => ⟨c, [record], .ok false⟩
    | .error fault => c.unchanged (.error (.unshowable fault))
  | none =>
    { catalogue := c.append ⟨id, content⟩ fresh new
      records := []
      outcome := content.recorded.map fun _ ↦ true }

/-- Adds a candidate under an id that is not in use. The result tells whether it was registered. -/
def add (id : Yaml.Value) (candidate : Candidate V) (description : Yaml.Value) :
    Change V AddFault Bool :=
  match id.asKey with
  | .error fault => c.unchanged (.error (.compositeId fault))
  | .ok id =>
    if fresh : c.contains id = false then
      match candidate.resolve c.vocabulary description with
      | .error fault => c.unchanged (.error (.text fault))
      | .ok content => c.register id fresh content
    else c.unchanged (.error (.ofDuplicate id))

/-! ## Statistics -/

/-- What there is to say about a catalogue as a whole. -/
structure Statistics where
  /-- The number of entries. -/
  size : Nat
  /-- The largest number of edges in a pattern. -/
  mostEdges : Nat
  /-- The names that patterns use for captures, sorted. -/
  captures : List String
deriving DecidableEq, Repr

def patterns (wanted : String) : Except FieldFault (List (Pattern V)) :=
  c.entries.mapM fun e ↦ e.content.require wanted

/-- The statistics of a catalogue that holds nothing but patterns. -/
def statistics : Except FieldFault Statistics := do
  let patterns ← c.patterns "matchers"
  let captures := distinct (patterns.flatMap Pattern.captures)
  pure {
    size := c.size
    mostEdges := (patterns.map fun p ↦ p.edges.length).foldr max 0
    captures := captures.mergeSort fun a b ↦ decide (a ≤ b) }

end Catalogue

end Motif
