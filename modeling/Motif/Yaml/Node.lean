import Motif.Yaml.Lexeme
import Motif.Yaml.Tag

/-!
# The nodes of a YAML document

A node is a text or a collection of nodes, written in block or in flow style; what is left out is an
empty plain text. Every node that is no alias has a tag; one that is given none, or only an
exclamation mark, has the tag that its form suggests.

`Node.ofLexemes?` reads the nodes of the only document of a text by descent over its units; the
number of units bounds the depth and the length of what is read.
-/

namespace Motif.Yaml

/-- A node of a document. -/
inductive Node where
  | text (tag : Tag) (s : String)
  | list (tag : Tag) (items : List Node)
  | map (tag : Tag) (entries : List (Node × Node))
  /-- A node with a name. -/
  | anchor (name : String) (node : Node)
  /-- The node of a name. -/
  | reference (name : String)

/-- What the handles of tags stand for. -/
abbrev Handles := List (String × String)

namespace Handles

def standard : Handles := [("!", "!"), ("!!", Tag.commonStart)]

def name (handles : Handles) (handle : Option String) (rest : String) : Except Fault String :=
  match handle with
  | none => .ok rest
  | some h =>
    match handles.lookup h with
    | some start => .ok (start ++ rest)
    | none => .error (.mistake (.unknownHandle h))

end Handles

namespace Node

instance : Inhabited Node := ⟨.reference ""⟩

/-- The tag of a text, given the name of its tag, if it has one. -/
def textTag (name : Option String) (isPlain : Bool) (s : String) : Tag :=
  match name with
  | none => if isPlain then .ofPlain s else .text
  | some "!" => .ofPlain s
  | some name => .ofName name

/-- The tag of a collection, given the name of its tag, if it has one. -/
def collectionTag (name : Option String) (usual : Tag) : Tag :=
  match name with
  | none => usual
  | some "!" => usual
  | some name => .ofName name

/-- What is left out, behind a tag if there is one. -/
def empty (name : Option String) : Node := text (textTag name true "") ""

/-- What is wrong where something else was expected. -/
def unexpected (what : String) : List Lexeme → Fault
  | .fault f :: _ => f
  | _ => .mistake (.expected what)

def expect (l : Lexeme) (what : String) (ls : List Lexeme) : Except Fault (List Lexeme) :=
  if ls.head? = some l then .ok ls.tail else .error (unexpected what ls)

/-- The name of the tag and the anchor in front of a node, in either order. -/
def properties (handles : Handles) :
    List Lexeme → Except Fault (Option String × Option String × List Lexeme)
  | .anchor a :: .tag h t :: ls => do pure (some (← handles.name h t), some a, ls)
  | .tag h t :: .anchor a :: ls => do pure (some (← handles.name h t), some a, ls)
  | .anchor _ :: .fault f :: _ => .error f
  | .tag _ _ :: .fault f :: _ => .error f
  | .anchor a :: ls => .ok (none, some a, ls)
  | .tag h t :: ls => do pure (some (← handles.name h t), none, ls)
  | ls => .ok (none, none, ls)

/-- Where a node may stand. -/
inductive Style where
  /-- In a flow collection, where block collections cannot be. -/
  | flow
  /-- In a block collection. -/
  | block
  /-- As the key or value of a block mapping, where a sequence may have no indentation of its
  own. -/
  | entry
deriving DecidableEq, Repr

/-- Whether a unit ends a list of units before a node could come. -/
def isAt (ls : List Lexeme) (stops : List Lexeme) : Bool :=
  match ls with
  | [] => true
  | l :: _ => stops.contains l

mutual

def read (handles : Handles) (style : Style) :
    (steps : Nat) → List Lexeme → Except Fault (Node × List Lexeme)
  | 0, _ => .error (.mistake (.expected "the node content"))
  | steps + 1, ls =>
    match ls with
    | .reference a :: rest => .ok (.reference a, rest)
    | _ => do
      let (tag, name, rest) ← properties handles ls
      let mayBeEmpty := tag.isSome || name.isSome
      let (node, rest) ← readContent handles style tag mayBeEmpty steps rest
      pure (name.elim node fun a ↦ .anchor a node, rest)

/-- Reads a node without what stands in front of it. Where something does, the node itself may be
left out. -/
def readContent (handles : Handles) (style : Style) (tag : Option String) (mayBeEmpty : Bool) :
    (steps : Nat) → List Lexeme → Except Fault (Node × List Lexeme)
  | 0, _ => .error (.mistake (.expected "the node content"))
  | steps + 1, ls =>
    match ls with
    | .text isPlain s :: rest => .ok (.text (textTag tag isPlain s) s, rest)
    | .openBracket :: rest => do
      let (items, rest) ← readFlowItems handles true steps rest
      pure (.list (collectionTag tag .seq) items, rest)
    | .openBrace :: rest => do
      let (entries, rest) ← readFlowEntries handles true steps rest
      pure (.map (collectionTag tag .map) entries, rest)
    | .fault f :: _ => .error f
    | l :: rest => do
      -- A sequence at the column of its key has no units that begin and end it.
      if style = .entry ∧ l = .item then
        let (items, rest) ← readItems handles steps ls
        pure (.list (collectionTag tag .seq) items, rest)
      else if style ≠ .flow ∧ l = .blockSequence then
        let (items, rest) ← readItems handles steps rest
        let rest ← expect .blockEnd "<block end>" rest
        pure (.list (collectionTag tag .seq) items, rest)
      else if style ≠ .flow ∧ l = .blockMapping then
        let (entries, rest) ← readEntries handles steps rest
        let rest ← expect .blockEnd "<block end>" rest
        pure (.map (collectionTag tag .map) entries, rest)
      else if mayBeEmpty then pure (empty tag, ls)
      else throw (unexpected "the node content" ls)
    | [] =>
      if mayBeEmpty then .ok (empty tag, [])
      else .error (.mistake (.expected "the node content"))

/-- Reads a node, or takes it as left out where one of the given units comes. -/
def readOr (handles : Handles) (style : Style) (stops : List Lexeme) :
    (steps : Nat) → List Lexeme → Except Fault (Node × List Lexeme)
  | 0, _ => .error (.mistake (.expected "the node content"))
  | steps + 1, ls => if isAt ls stops then .ok (empty none, ls) else read handles style steps ls

def readItems (handles : Handles) :
    (steps : Nat) → List Lexeme → Except Fault (List Node × List Lexeme)
  | 0, _ => .error (.mistake (.expected "the node content"))
  | steps + 1, ls =>
    match ls with
    | .item :: rest => do
      let (n, rest) ← readOr handles .block [.item, .key, .value, .blockEnd] steps rest
      let (ns, rest) ← readItems handles steps rest
      pure (n :: ns, rest)
    | _ => .ok ([], ls)

def readEntries (handles : Handles) :
    (steps : Nat) → List Lexeme → Except Fault (List (Node × Node) × List Lexeme)
  | 0, _ => .error (.mistake (.expected "the node content"))
  | steps + 1, ls =>
    match ls with
    | .key :: rest => do
      let (k, rest) ← readOr handles .entry [.key, .value, .blockEnd] steps rest
      let (v, rest) ← readValue handles .entry [.key, .value, .blockEnd] steps rest
      let (es, rest) ← readEntries handles steps rest
      pure ((k, v) :: es, rest)
    | _ => .ok ([], ls)

/-- Reads the value of an entry, which may be left out. -/
def readValue (handles : Handles) (style : Style) (stops : List Lexeme) :
    (steps : Nat) → List Lexeme → Except Fault (Node × List Lexeme)
  | 0, _ => .error (.mistake (.expected "the node content"))
  | steps + 1, ls =>
    match ls with
    | .value :: rest => readOr handles style stops steps rest
    | _ => .ok (empty none, ls)

/-- Reads the items of a flow sequence and its end. -/
def readFlowItems (handles : Handles) (isFirst : Bool) :
    (steps : Nat) → List Lexeme → Except Fault (List Node × List Lexeme)
  | 0, _ => .error (.mistake (.expected "',' or ']'"))
  | steps + 1, ls => do
    if ls.head? = some .closeBracket then pure ([], ls.tail)
    else
      let ls ← if isFirst then pure ls else expect .comma "',' or ']'" ls
      -- A comma may stand before the end.
      if ls.head? = some .closeBracket then pure ([], ls.tail)
      else
        let (n, rest) ← readFlowItem handles steps ls
        let (ns, rest) ← readFlowItems handles false steps rest
        pure (n :: ns, rest)

/-- Reads an item of a flow sequence. A pair is a mapping. -/
def readFlowItem (handles : Handles) :
    (steps : Nat) → List Lexeme → Except Fault (Node × List Lexeme)
  | 0, _ => .error (.mistake (.expected "the node content"))
  | steps + 1, ls =>
    match ls with
    | .key :: rest => do
      let (k, rest) ← readOr handles .flow [.value, .comma, .closeBracket] steps rest
      let (v, rest) ← readValue handles .flow [.comma, .closeBracket] steps rest
      pure (.map .map [(k, v)], rest)
    | _ => read handles .flow steps ls

/-- Reads the entries of a flow mapping and its end. -/
def readFlowEntries (handles : Handles) (isFirst : Bool) :
    (steps : Nat) → List Lexeme → Except Fault (List (Node × Node) × List Lexeme)
  | 0, _ => .error (.mistake (.expected "',' or '\x7d'"))
  | steps + 1, ls => do
    if ls.head? = some .closeBrace then pure ([], ls.tail)
    else
      let ls ← if isFirst then pure ls else expect .comma "',' or '\x7d'" ls
      if ls.head? = some .closeBrace then pure ([], ls.tail)
      else
        let (e, rest) ← readFlowEntry handles steps ls
        let (es, rest) ← readFlowEntries handles false steps rest
        pure (e :: es, rest)

/-- Reads an entry of a flow mapping. A node alone is a key without a value. -/
def readFlowEntry (handles : Handles) :
    (steps : Nat) → List Lexeme → Except Fault ((Node × Node) × List Lexeme)
  | 0, _ => .error (.mistake (.expected "the node content"))
  | steps + 1, ls =>
    match ls with
    | .key :: rest => do
      let (k, rest) ← readOr handles .flow [.value, .comma, .closeBrace] steps rest
      let (v, rest) ← readValue handles .flow [.comma, .closeBrace] steps rest
      pure ((k, v), rest)
    | _ => do
      let (k, rest) ← read handles .flow steps ls
      pure ((k, empty none), rest)

end

/-! ## Documents -/

/-- Declares handles by a directive. Only one version can be asked for, which has to be that of this
language, and no handle can be declared twice. -/
def declare (asked : Bool) (handles : Handles) : Directive → Except Fault (Bool × Handles)
  | .version major _ =>
    if asked ∨ major ≠ 1 then .error (.mistake .badDirective) else .ok (true, handles)
  | .handle h start =>
    if (handles.lookup h).isSome then .error (.mistake .badDirective)
    else .ok (asked, (h, start) :: handles)
  | .other => .ok (asked, handles)

/-- The handles that the directives in front of a document declare, and the units after them. -/
def directives (asked : Bool) (handles : Handles) :
    List Lexeme → Except Fault (Handles × List Lexeme)
  | .directive d :: ls => do
    let (asked, handles) ← declare asked handles d
    directives asked handles ls
  | ls => .ok (handles ++ .standard, ls)

/-- The steps that suffice to read a number of units. -/
def stepsFor (ls : List Lexeme) : Nat := 4 * ls.length + 8

/-- Whether a unit begins a document, before its node. -/
def startsDocument : Lexeme → Bool
  | .directive _ | .documentStart => true
  | _ => false

/-- Reads the node of the first document, and gives the units after it. -/
def first (ls : List Lexeme) : Except Fault (Node × List Lexeme) :=
  if ls.head?.any startsDocument then do
    let (handles, ls) ← directives false [] ls
    let ls ← expect .documentStart "'<document start>'" ls
    -- A document may be empty.
    if ls.head?.all fun l ↦ startsDocument l || l = .documentEnd then pure (empty none, ls)
    else read handles .block (stepsFor ls) ls
  else read .standard .block (stepsFor ls) ls

/-- Reads the only document of a text, if there is one. -/
def ofLexemes? (ls : List Lexeme) : Except Fault (Option Node) := do
  if ls = [] then return none
  let (n, rest) ← first ls
  -- The marks of the end of a document may be repeated.
  let rest := rest.dropWhile (· = .documentEnd)
  if rest = [] then pure (some n)
  else
    let (_, rest) ← directives false [] rest
    throw (unexpected "a single document in the stream" rest)

end Node

end Motif.Yaml
