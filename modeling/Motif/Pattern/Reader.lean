import Motif.Expression.Reader
import Motif.Pattern.Basic
import Motif.Pattern.Scan

/-!
# Reading pattern text

Pattern text alternates nodes and edges, with blanks between them:

  `{arg} <nsubj< {rel:lemma="give"} >dobj> .*`

A node is a capture in braces or a conjunction of tests, separated by colons; a test is the wildcard
or a node expression. An edge is a label between two equal delimiters, which give the direction; the
label may be the wildcard, a regular expression between slashes, or a capture in braces. No name may
be used for two captures.

Reading goes from left to right and stops at the first mistake. Places are counted from the
beginning of the text.
-/

namespace Motif

/-- Why a pattern text was refused: a mistake, or a regular expression that exceeds a limit. -/
inductive TextFault where
  | syntax' (error : SyntaxError)
  | limit (limit : Regex.Limit)
deriving DecidableEq

def TextFault.message : TextFault → String
  | syntax' e => e.message
  | limit l => l.message

namespace Pattern

variable {V : Type}

def refuse {α : Type} (cause : SyntaxError.Cause) (token : List Char) (position : Nat) :
    Except TextFault α :=
  .error (.syntax' (.at' cause token position))

/-- A part of a pattern, the capture names used so far, and the text after the part, which is
shorter than `n`. -/
structure Part (α : Type) (n : Nat) where
  /-- The part. -/
  value : α
  /-- The capture names that have been used. -/
  used : List String
  /-- The text after the part. -/
  rest : List Char
  /-- The part is not empty. -/
  length_lt : rest.length < n

/-! ## Capture names -/

/-- Whether a capture name can begin with a character. -/
def isNameStart (c : Char) : Bool := ('a' ≤ c && c ≤ 'z') || ('A' ≤ c && c ≤ 'Z') || c == '_'

/-- Whether a capture name can contain a character. -/
def isNameChar (c : Char) : Bool := isNameStart c || ('0' ≤ c && c ≤ '9')

def isName : List Char → Bool
  | [] => false
  | c :: cs => isNameStart c && cs.all isNameChar

/-- Reads a capture name, which must be new. -/
def readName (used : List String) (position : Nat) (cs : List Char) : Except TextFault String :=
  let name := Text.trim cs
  if !isName name then refuse .invalidName name position
  else if used.contains (String.ofList name) then refuse .duplicateName name position
  else .ok (String.ofList name)

/-! ## Nodes -/

def wildcard : List Char := ['.', '*']

def readTest (voc : Vocabulary V) (position : Nat) (cs : List Char) :
    Except TextFault (NodeTest V) :=
  let test := Text.trim cs
  if test.isEmpty then refuse .emptyNodeTest cs position
  else if test = wildcard then .ok .any
  else
    let start := position + (cs.length - (Text.trimLeft cs).length)
    (Expression.compile voc test start).mapError .syntax'

/-- Reads the tests of a node, separated by colons. Gives the first and the others. -/
def readTests (voc : Vocabulary V) (position : Nat) (cs : List Char) :
    Except TextFault (NodeTest V × List (NodeTest V)) :=
  match h : scanTo (· == ':') cs with
  | none => do
    let t ← readTest voc position cs
    pure (t, [])
  | some (before, _, after) => do
    let t ← readTest voc position before
    have : after.length < cs.length := by
      have := (scanTo_eq_some h).1
      simp [this]
      omega
    let (u, us) ← readTests voc (position + before.length + 1) after
    pure (t, u :: us)
termination_by cs.length

/-- Reads the tests of a node as a matcher. -/
def readConjunction (voc : Vocabulary V) (position : Nat) (cs : List Char) :
    Except TextFault (NodeMatcher V) := do
  let (t, ts) ← readTests voc position cs
  pure (.ofTests (t :: ts) (by simp))

/-- Whether a character ends a node that is not in braces. -/
def endsNode (c : Char) : Bool :=
  c == '<' || c == '>' || c == '-' || c == '\x7b' || c == '\x7d'

def readCapturedNode (voc : Vocabulary V) (used : List String) (position : Nat)
    (inner : List Char) : Except TextFault (String × NodeMatcher V) :=
  match Text.cut ':' inner with
  | (name, none) => do
    let a ← readName used position name
    pure (a, { NodeMatcher.any with name := some a })
  | (name, some tests) => do
    let a ← readName used position name
    if (Text.trim tests).isEmpty then refuse .emptyNodeExpression inner position
    else
      let m ← readConjunction voc (position + (inner.length - tests.length)) tests
      pure (a, { m with name := some a })

def readNode (voc : Vocabulary V) (used : List String) (position : Nat) (c : Char)
    (cs : List Char) : Except TextFault (Part (NodeMatcher V) (cs.length + 1)) :=
  if c = '\x7b' then
    match h : scanTo (· == '\x7d') cs with
    | none => refuse .unbalancedBrace (c :: cs) position
    | some (inner, _, after) => do
      let (name, m) ← readCapturedNode voc used (position + 1) inner
      pure ⟨m, name :: used, after, by
        have := (scanTo_eq_some h).1
        simp [this]
        omega⟩
  else
    match h : scanTo endsNode (c :: cs) with
    | none => do
      let m ← readConjunction voc position (c :: cs)
      pure ⟨m, used, [], by simp⟩
    -- An element that begins like an edge or like the end of a capture is no node.
    | some ([], _, _) => refuse .expectedNode [c] position
    | some (x :: before, d, after) => do
      let m ← readConjunction voc position (x :: before)
      pure ⟨m, used, d :: after, by
        have := congrArg List.length (scanTo_eq_some h).1
        simp at this ⊢
        omega⟩

/-! ## Edges -/

/-- Whether a label can contain a character. -/
def isLabelChar (c : Char) : Bool :=
  !(Text.isBlank c || c == '\x7b' || c == '\x7d' || c == '<' || c == '>' || c == '/' ||
    c == '"' || c == '\'')

def betweenSlashes? : List Char → Option (List Char)
  | '/' :: cs => if cs.getLast? = some '/' then some cs.dropLast else none
  | _ => none

def readLabel (position : Nat) (cs : List Char) : Except TextFault LabelTest :=
  let label := Text.trim cs
  if label = wildcard then .ok .any
  else
    match betweenSlashes? label with
    | some source =>
      match Regex.compile (String.ofList source) with
      | .ok r => .ok (.regex r)
      | .error (.mistake m) => refuse (.invalidRegex m) label position
      | .error (.limit l) => .error (.limit l)
    | none =>
      if !label.isEmpty && label.all isLabelChar then .ok (.label (String.ofList label))
      else refuse .invalidLabel label position

/-- The directions that a delimiter demands, if it is one. -/
def directionsOf? (c : Char) : Option (List Direction) :=
  if c = '<' then some [.up] else if c = '>' then some [.down] else if c = '-' then some []
  else none

/-- Reads the inside of an edge. The blanks at its front have been skipped. -/
def readEdgeBody (directions : List Direction) (used : List String) (position : Nat)
    (cs : List Char) : Except TextFault (EdgeMatcher × List String) :=
  let body := Text.trimRight cs
  match cs with
  | '\x7b' :: inside =>
    match scanTo (· == '\x7d') inside with
    | none => refuse .unbalancedBrace cs position
    | some (inner, _, _) =>
      -- Nothing but blanks may stand between the closing brace and the delimiter.
      if inner.length + 2 ≠ body.length then refuse .textAfterCapture body position
      else
        match Text.cut ':' inner with
        | (name, none) => do
          let a ← readName used (position + 1) name
          pure (⟨some a, directions, .any⟩, a :: used)
        | (name, some label) => do
          let a ← readName used (position + 1) name
          let t ← readLabel (position + 1 + (inner.length - label.length)) label
          pure (⟨some a, directions, t⟩, a :: used)
  | _ => do
    let t ← readLabel position body
    pure (⟨none, directions, t⟩, used)

def readEdge (used : List String) (position : Nat) (c : Char) (cs : List Char) :
    Except TextFault (Part EdgeMatcher (cs.length + 1)) :=
  match directionsOf? c with
  | none => refuse .expectedEdge [c] position
  | some directions =>
    match h : scanTo (· == c) cs with
    | none => refuse (.unterminatedEdge c) (c :: cs) position
    | some (inner, _, after) =>
      let inside := Text.trimLeft inner
      if inside.isEmpty then refuse .emptyEdge (c :: inner ++ [c]) position
      else do
        let (m, used) ←
          readEdgeBody directions used (position + 1 + (inner.length - inside.length)) inside
        pure ⟨m, used, after, by
          have := (scanTo_eq_some h).1
          simp [this]
          omega⟩

/-! ## Patterns -/

/-- Reads the links of a pattern, of whose text `position` characters come before. -/
def readLinks (voc : Vocabulary V) (used : List String) (position : Nat) (cs : List Char) :
    Except TextFault (List (Link V)) :=
  match h : Text.trimLeft cs with
  | [] => .ok []
  | c :: rest => do
    let start := position + (cs.length - (rest.length + 1))
    let edge ← readEdge used start c rest
    match h' : Text.trimLeft edge.rest with
    | [] => refuse .endsWithEdge (c :: rest) start
    | d :: rest' =>
      let nodeStart := start + (rest.length + 1 - (rest'.length + 1))
      let node ← readNode voc edge.used nodeStart d rest'
      have : node.rest.length < cs.length := by
        have h₁ := Text.length_trimLeft_le cs
        have h₂ := Text.length_trimLeft_le edge.rest
        have h₃ := edge.length_lt
        have h₄ := node.length_lt
        rw [h, List.length_cons] at h₁
        rw [h', List.length_cons] at h₂
        omega
      let links ← readLinks voc node.used
        (nodeStart + (rest'.length + 1 - node.rest.length)) node.rest
      pure (⟨edge.value, node.value⟩ :: links)
termination_by cs.length

def read (voc : Vocabulary V) (text : String) : Except TextFault (Pattern V) :=
  let cs := text.toList
  match Text.trimLeft cs with
  | [] => refuse .emptyPattern cs 0
  | c :: rest => do
    let start := cs.length - (rest.length + 1)
    let node ← readNode voc [] start c rest
    let links ← readLinks voc node.used (start + (rest.length + 1 - node.rest.length)) node.rest
    pure ⟨node.value, links⟩

/-- Reads a pattern text that may be missing, which is the same mistake as an empty one. -/
def read? (voc : Vocabulary V) : Option String → Except TextFault (Pattern V)
  | none => .error (.syntax' ⟨.emptyPattern, none, 0⟩)
  | some text => read voc text

end Pattern

end Motif
