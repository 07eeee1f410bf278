import Motif.Yaml.TagName

/-!
# The units of a YAML text

A YAML text is a sequence of units: marks of documents and collections, anchors, aliases, tags and
texts. Block collections have no marks of their own. They begin where an entry or a key stands
further to the right than the collection around it, and end where something stands further to the
left; both are units here.

A key of a block mapping is recognised only by the colon after it. `Scan` therefore remembers where
a key may have begun, at every level of flow collections, and puts the units for the key there when
the colon is found. Such a key has to end on its line; it *has* to be a key if it stands at the
column of the surrounding mapping.

A text that cannot be divided to its end gives the units before the fault, and then the fault. Units
that the fault leaves in doubt, because a key may have begun there, are not given.
-/

namespace Motif.Yaml

/-- A unit of a YAML text. -/
inductive Lexeme where
  | directive (d : Directive)
  | documentStart
  | documentEnd
  | blockSequence
  | blockMapping
  | blockEnd
  | openBracket
  | closeBracket
  | openBrace
  | closeBrace
  /-- The comma between the entries of a flow collection. -/
  | comma
  /-- The dash before an item of a block sequence. -/
  | item
  | key
  | value
  | anchor (name : String)
  | reference (name : String)
  /-- A tag: its handle, if it has one, and the rest of its name. -/
  | tag (handle : Option String) (name : String)
  /-- A text; `isPlain` if it has no quotes and is no block. -/
  | text (isPlain : Bool) (s : String)
  /-- What is wrong with the text from here on. -/
  | fault (f : Fault)
deriving DecidableEq, Repr

/-- A place where a key may have begun. -/
structure KeyStart where
  /-- The number of units before. -/
  lexemes : Nat
  /-- Whether there has to be a key. -/
  required : Bool
  /-- The line. -/
  line : Nat
  /-- The column. -/
  column : Nat
  /-- The number of characters before. -/
  index : Nat
deriving DecidableEq, Repr

/-- The state of the division of a text into units. -/
structure Scan where
  /-- The place that has been reached. -/
  place : Place
  /-- The units so far. -/
  lexemes : Array Lexeme
  /-- The number of open flow collections. -/
  flow : Nat
  /-- The column of the innermost block collection, or minus one. -/
  indent : Int
  /-- The columns of the block collections around it. -/
  outer : List Int
  /-- Whether a key may begin here. -/
  keyAllowed : Bool
  /-- Where keys may have begun, by the number of open flow collections. -/
  keys : List (Nat × KeyStart)

namespace Scan

def start (cs : List Char) : Scan := ⟨.start cs, #[], 0, -1, [], true, []⟩

def push (s : Scan) (l : Lexeme) : Scan := { s with lexemes := s.lexemes.push l }

def insert (s : Scan) (n : Nat) (ls : Array Lexeme) : Scan :=
  { s with lexemes := s.lexemes.extract 0 n ++ ls ++ s.lexemes.extract n s.lexemes.size }

def skip (s : Scan) (n : Nat) : Scan := { s with place := s.place.skip n }

/-- Says whether a key may begin after this. -/
def allowKey (s : Scan) (allowed : Bool) : Scan := { s with keyAllowed := allowed }

/-- Forgets where a key may have begun at the current level. -/
def dropKey (s : Scan) : Except Fault Scan :=
  match s.keys.lookup s.flow with
  | none => .ok s
  | some k =>
    if k.required then .error (.mistake .keyWithoutValue)
    else .ok { s with keys := s.keys.filter fun e ↦ e.1 ≠ s.flow }

/-- Remembers that a key may begin here. -/
def saveKey (s : Scan) : Except Fault Scan :=
  if s.keyAllowed then do
    let required := s.flow = 0 && s.indent = s.place.column
    let s ← s.dropKey
    let k : KeyStart :=
      ⟨s.lexemes.size, required, s.place.line, s.place.column, s.place.index⟩
    pure { s with keys := (s.flow, k) :: s.keys }
  else .ok s

/-- The longest key that is recognised without a mark of its own. -/
def maxKeyLength : Nat := 1024

/-- Forgets the places where a key can no longer have begun. -/
def dropStaleKeys (s : Scan) : Except Fault Scan :=
  let isStale (k : KeyStart) : Bool :=
    k.line ≠ s.place.line || s.place.index - k.index > maxKeyLength
  if s.keys.any fun e ↦ isStale e.2 && e.2.required then .error (.mistake .keyWithoutValue)
  else .ok { s with keys := s.keys.filter fun e ↦ !isStale e.2 }

/-- Ends the block collections that stand further to the right than a column. -/
def unwind (column : Int) (s : Scan) : Scan :=
  if s.flow ≠ 0 then s else go s.outer s
where
  /-- Ends collections, the innermost first. -/
  go : List Int → Scan → Scan
    | [], s => s
    | i :: is, s =>
      if s.indent > column then
        go is { s with lexemes := s.lexemes.push .blockEnd, indent := i, outer := is }
      else s

/-- Begins a block collection at a column, unless one is open there; tells whether it did. -/
def indentTo (s : Scan) (column : Nat) : Bool × Scan :=
  if s.indent < column then (true, { s with indent := column, outer := s.indent :: s.outer })
  else (false, s)

/-- Begins a block collection at the current column, unless one is open there. -/
def begin (s : Scan) (l : Lexeme) : Scan :=
  let (isNew, s) := s.indentTo s.place.column
  if isNew then s.push l else s

/-- Goes to the next unit, over spaces, comments and the ends of lines. -/
def skipToNext : (steps : Nat) → Scan → Scan
  | 0, s => s
  | steps + 1, s =>
    let p := s.place.skipSpaces
    let p := if p.peek = some '#' then (p.span fun c ↦ !isBreak c).2 else p
    match p.lineBreak? with
    | some (_, q) =>
      skipToNext steps { s with place := q, keyAllowed := s.keyAllowed || s.flow = 0 }
    | none => { s with place := p }

/-- Ends all block collections, before a mark of a document or at the end. -/
def endBlocks (s : Scan) : Except Fault Scan := do
  let s ← (s.unwind (-1)).dropKey
  pure (s.allowKey false)

/-- A mark that opens a flow collection. -/
def openFlow (s : Scan) (l : Lexeme) : Except Fault Scan := do
  let s ← s.saveKey
  pure { s.skip 1 with flow := s.flow + 1, keyAllowed := true, lexemes := s.lexemes.push l }

/-- A mark that closes a flow collection. -/
def closeFlow (s : Scan) (l : Lexeme) : Except Fault Scan := do
  if s.flow = 0 then throw (.mistake (.expected "a node"))
  let s ← s.dropKey
  pure { s.skip 1 with flow := s.flow - 1, keyAllowed := false, lexemes := s.lexemes.push l }

/-- The comma in a flow collection. -/
def comma (s : Scan) : Except Fault Scan := do
  let s ← s.dropKey
  pure (((s.skip 1).push .comma).allowKey true)

/-- The dash before an item of a block sequence. -/
def item (s : Scan) : Except Fault Scan := do
  if s.flow = 0 ∧ ¬ s.keyAllowed then throw (.mistake (.misplaced "sequence entries"))
  let s := if s.flow = 0 then s.begin .blockSequence else s
  let s ← (s.allowKey true).dropKey
  pure ((s.skip 1).push .item)

/-- The question mark before a key. -/
def explicitKey (s : Scan) : Except Fault Scan := do
  if s.flow = 0 ∧ ¬ s.keyAllowed then throw (.mistake (.misplaced "mapping keys"))
  let s := if s.flow = 0 then s.begin .blockMapping else s
  let s ← (s.allowKey (s.flow = 0)).dropKey
  pure ((s.skip 1).push .key)

/-- The colon after a key. -/
def colon (s : Scan) : Except Fault Scan := do
  match s.keys.lookup s.flow with
  -- The key has been read as a node, so its mark is put in front of it now.
  | some k =>
    let s := { s with keys := s.keys.filter fun e ↦ e.1 ≠ s.flow }
    let s := s.insert k.lexemes #[.key]
    let (isNew, s) := if s.flow = 0 then s.indentTo k.column else (false, s)
    let s := if isNew then s.insert k.lexemes #[.blockMapping] else s
    pure (((s.allowKey false).skip 1).push .value)
  -- The key had a mark of its own, or it is left out.
  | none =>
    if s.flow = 0 ∧ ¬ s.keyAllowed then throw (.mistake (.misplaced "mapping values"))
    let s := if s.flow = 0 then s.begin .blockMapping else s
    let s ← (s.allowKey (s.flow = 0)).dropKey
    pure ((s.skip 1).push .value)

def name (s : Scan) (l : String → Lexeme) : Except Fault Scan := do
  let s ← s.saveKey
  let (name, p) := s.place.next.span isNameChar
  let ends : Bool := endsUnit p.peek || p.peek.any fun c ↦ "?:,]\x7d%@\u0060".toList.contains c
  if name = [] ∨ ¬ ends then throw (.mistake .badName)
  pure (({ s with place := p }.push (l (String.ofList name))).allowKey false)

def tag (s : Scan) : Except Fault Scan := do
  let s ← s.saveKey
  let (handle, name, p) ← (Yaml.tag s.place).mapError .mistake
  pure (({ s with place := p }.push (.tag handle name)).allowKey false)

def text (s : Scan) (isPlain : Bool) (read : Scan → Except Fault (List Char × Bool × Place)) :
    Except Fault Scan := do
  let s ← s.saveKey
  let (cs, lineEnded, p) ← read s
  pure (({ s with place := p }.push (.text isPlain (String.ofList cs))).allowKey lineEnded)

/-- A block text, which is no key. -/
def block (s : Scan) (folded : Bool) : Except Fault Scan := do
  let s ← (s.allowKey true).dropKey
  let (cs, p) ← Yaml.block folded s.indent s.place
  pure ({ s with place := p }.push (.text false (String.ofList cs)))

/-- Reads the unit that begins with a character. -/
def unit (s : Scan) (c : Char) : Except Fault Scan := do
  let p := s.place
  let second := p.peekSecond
  let isMark := p.column = 0 && p.atMark
  let quotedBy (quote : Char) (s : Scan) : Except Fault (List Char × Bool × Place) := do
    let (cs, p) ← Yaml.quoted quote s.place
    pure (cs, false, p)
  -- The marks of documents, which stand at the beginning of a line.
  if c = '%' ∧ p.column = 0 then
    let s ← s.endBlocks
    let (d, p) ← Yaml.directive p
    pure ({ s with place := p }.push (.directive d))
  else if c = '-' ∧ isMark then return ((← s.endBlocks).skip 3).push .documentStart
  else if c = '.' ∧ isMark then return ((← s.endBlocks).skip 3).push .documentEnd
  -- The marks of collections. A dash, a question mark or a colon may also begin a plain text.
  else if c = '[' then s.openFlow .openBracket
  else if c = '\x7b' then s.openFlow .openBrace
  else if c = ']' then s.closeFlow .closeBracket
  else if c = '\x7d' then s.closeFlow .closeBrace
  else if c = ',' then s.comma
  else if c = '-' ∧ endsUnit second then s.item
  else if c = '?' ∧ (s.flow ≠ 0 ∨ endsUnit second) then s.explicitKey
  else if c = ':' ∧ (s.flow ≠ 0 ∨ endsUnit second) then s.colon
  -- What stands for a node or in front of one.
  else if c = '*' then s.name .reference
  else if c = '&' then s.name .anchor
  else if c = '!' then s.tag
  -- Texts.
  else if c = '|' ∧ s.flow = 0 then s.block false
  else if c = '>' ∧ s.flow = 0 then s.block true
  else if c = '\'' ∨ c = '"' then s.text false (quotedBy c)
  else if beginsPlain (s.flow ≠ 0) c second then
    s.text true fun s ↦ .ok (plain (s.flow ≠ 0) (s.indent + 1) s.place)
  else throw (.mistake (.unexpectedCharacter c))

/-- Reads the next unit, or ends all collections where there are no more units, which is told
too. -/
def step (s : Scan) : Except Fault (Bool × Scan) := do
  let s := skipToNext (s.place.rest.length + 1) s
  let s ← s.dropStaleKeys
  let s := s.unwind s.place.column
  match s.place.peek with
  | none => return (true, ← s.endBlocks)
  | some c => return (false, ← s.unit c)

/-- The units before a fault, and the fault. A key may still begin at the units that are left out.
-/
def breakOff (s : Scan) (f : Fault) : List Lexeme :=
  let keys : List Nat :=
    match s.dropStaleKeys with
    | .ok s => s.keys.map fun e ↦ e.2.lexemes
    | .error _ => []
  (s.lexemes.extract 0 (keys.foldl min s.lexemes.size)).toList ++ [.fault f]

/-- Reads all units. Every unit but the last has a character, which bounds the number of steps. -/
def run : (steps : Nat) → Scan → List Lexeme
  | 0, s => s.lexemes.toList
  | steps + 1, s =>
    match s.step with
    | .error f => s.breakOff f
    | .ok (true, s) => s.lexemes.toList
    | .ok (false, s) => run steps s

end Scan

def isAllowed (c : Char) : Bool :=
  let n := c.toNat
  n = 9 || n = 10 || n = 13 || (0x20 ≤ n && n ≤ 0x7e) || n = 0x85 || (0xa0 ≤ n && n ≤ 0xd7ff) ||
    (0xe000 ≤ n && n ≤ 0xfffd) || (0x10000 ≤ n && n ≤ 0x10ffff)

/-- Whether a unit stands in front of a node. -/
def Lexeme.isProperty : Lexeme → Bool
  | anchor _ | tag _ _ => true
  | _ => false

/-- The units up to the first anchor that is there already or the first alias without an anchor,
which is a fault. A fault in what stands behind the anchor comes before it. -/
def checkNames (names : List String) : List Lexeme → List Lexeme
  | [] => []
  | .anchor a :: ls =>
    if names.contains a then
      match (ls.dropWhile Lexeme.isProperty).head? with
      | some (.fault f) => [.fault f]
      | _ => [.fault (.mistake (.badReference a))]
    else .anchor a :: checkNames (a :: names) ls
  | .reference a :: ls =>
    if names.contains a then .reference a :: checkNames names ls
    else [.fault (.mistake (.badReference a))]
  | l :: ls => l :: checkNames names ls

/-- The units of a text. A byte order mark at its beginning is dropped. -/
def lexemes (text : String) : List Lexeme :=
  let cs := text.toList
  match cs.find? fun c ↦ !isAllowed c with
  | some c => [.fault (.mistake (.specialCharacter c))]
  | none =>
    let cs := if cs.head? = some '\ufeff' then cs.tail else cs
    checkNames [] (Scan.run (cs.length + 1) (.start cs))

end Motif.Yaml
