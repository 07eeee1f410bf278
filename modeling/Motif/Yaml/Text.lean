import Motif.Yaml.Place

/-!
# Texts in YAML

A text is written plain, in single or double quotes, or as a block of indented lines. Lines are
folded: a single line break counts as a space, and of several line breaks the first is dropped.
Block texts keep their line breaks unless they ask for folding.

Every reader gives the text and the place after it. The bound on the number of steps is the length
of the text that is left.
-/

namespace Motif.Yaml

/-- What folding makes of a line break and the line breaks of the empty lines after it. -/
def fold (first : Char) (more : List Char) : List Char :=
  if first ≠ '\n' then first :: more
  else if more = [] then [' ']
  else more

/-! ## Plain texts -/

/-- Whether a character is one of the marks of flow collections. -/
def isFlowMark (c : Char) : Bool := c = ',' || c = '[' || c = ']' || c = '\x7b' || c = '\x7d'

/-- The word of a plain text that begins here: up to a blank, to a colon that ends a key or, in a
flow collection, to one of the marks. -/
def plainWord (inFlow : Bool) : List Char → List Char
  | [] => []
  | c :: cs =>
    let endsKey := c = ':' && (endsUnit cs.head? || (inFlow && cs.head?.any isFlowMark))
    if endsUnit (some c) || endsKey || (inFlow && (isFlowMark c || c = '?')) then []
    else c :: plainWord inFlow cs

/-- The breaks of the empty lines at a place, unless a mark of the document is among the lines. -/
def plainBreaks : (steps : Nat) → Place → Option (List Char) × Place
  | 0, p => (some [], p)
  | steps + 1, p =>
    if p.peek = some ' ' then plainBreaks steps p.next
    else
      match p.lineBreak? with
      | none => (some [], p)
      | some (c, q) =>
        if q.atMark then (none, q)
        else
          let (breaks, e) := plainBreaks steps q
          (breaks.map (c :: ·), e)

/-- What stands between two words of a plain text, whether it has a line break, and the place after
it. Nothing stands there if the text ends. -/
def plainSpace (p : Place) : List Char × Bool × Place :=
  let (blanks, q) := p.span (· = ' ')
  match q.lineBreak? with
  | none => (blanks, false, q)
  | some (c, r) =>
    if r.atMark then ([], true, r)
    else
      match plainBreaks r.rest.length r with
      | (none, e) => ([], true, e)
      | (some breaks, e) => (fold c breaks, true, e)

/-- The words of a plain text, each with what stands before it. Lines that go on with the text are
indented by `indent` columns. Also tells whether a line has ended after the text. -/
def plainFrom (inFlow : Bool) (indent : Int) (space : List Char) (lineEnded : Bool) :
    (steps : Nat) → Place → List Char × Bool × Place
  | 0, p => ([], lineEnded, p)
  | steps + 1, p =>
    let word := if p.peek = some '#' then [] else plainWord inFlow p.rest
    if word = [] then ([], lineEnded, p)
    else
      let (between, lineEnded, q) := plainSpace (p.skip word.length)
      let ends :=
        between = [] || q.peek = some '#' || (!inFlow && decide ((q.column : Int) < indent))
      if ends then (space ++ word, lineEnded, q)
      else
        let (more, lineEnded, e) := plainFrom inFlow indent between lineEnded steps q
        (space ++ word ++ more, lineEnded, e)

def plain (inFlow : Bool) (indent : Int) (p : Place) : List Char × Bool × Place :=
  plainFrom inFlow indent [] false p.rest.length p

/-- Whether a plain text can begin with a character that another one follows. -/
def beginsPlain (inFlow : Bool) (c : Char) (second : Option Char) : Bool :=
  let indicators := "-?:,[]\x7b\x7d#&*!|>'\"%@\u0060".toList
  (!endsUnit (some c) && !indicators.contains c) ||
    (!endsUnit second && (c = '-' || (!inFlow && (c = '?' || c = ':'))))

/-! ## Quoted texts -/

/-- The breaks of the empty lines at a place. -/
def quotedBreaks : (steps : Nat) → Place → Except Fault (List Char × Place)
  | 0, _ => .error (.mistake .unclosedQuote)
  | steps + 1, p =>
    if p.atMark then .error (.mistake .unclosedQuote)
    else
      let q := (p.span fun c ↦ c = ' ' || c = '\t').2
      match q.lineBreak? with
      | none => .ok ([], q)
      | some (c, r) => do
        let (breaks, e) ← quotedBreaks steps r
        pure (c :: breaks, e)

/-- The character that a letter after a backslash stands for. -/
def escaped? (c : Char) : Option Char :=
  [('0', '\x00'), ('a', '\x07'), ('b', '\x08'), ('t', '\t'), ('\t', '\t'), ('n', '\n'),
    ('v', '\x0b'), ('f', '\x0c'), ('r', '\r'), ('e', '\x1b'), (' ', ' '), ('"', '"'),
    ('\\', '\\'), ('/', '/'), ('N', '\u0085'), ('_', '\u00a0'), ('L', '\u2028'),
    ('P', '\u2029')].lookup c

/-- The number of hexadecimal digits that follow a letter after a backslash. -/
def codeLength? (c : Char) : Option Nat := [('x', 2), ('u', 4), ('U', 8)].lookup c

def hexValue? (c : Char) : Option Nat :=
  if '0' ≤ c && c ≤ '9' then some (c.toNat - '0'.toNat)
  else if 'a' ≤ c && c ≤ 'f' then some (c.toNat - 'a'.toNat + 10)
  else if 'A' ≤ c && c ≤ 'F' then some (c.toNat - 'A'.toNat + 10)
  else none

/-- The largest code that can be asked for. -/
def largestCode : Nat := 0x7fffffff

/-- The character with a code. Half of a surrogate pair stands for the replacement character. -/
def ofCode (n : Nat) : Except ContentFault Char :=
  if largestCode < n then .error .hugeCode
  else if 0x110000 ≤ n then .error .noCharacter
  else if h : n.isValidChar then .ok (Char.ofNatAux n h)
  else .ok '\ufffd'

def escape (p : Place) : Except Fault (List Char × Place) :=
  match p.lineBreak?, p.rest with
  | some (_, q), _ => quotedBreaks (q.rest.length + 1) q
  | none, [] => .error (.mistake .unclosedQuote)
  | none, c :: cs =>
    match escaped? c, codeLength? c with
    | some d, _ => .ok ([d], p.next)
    | none, some n =>
      let digits := cs.take n
      match digits.mapM hexValue? with
      | some values =>
        if digits.length = n then do
          let d ← (ofCode (values.foldl (fun n d ↦ 16 * n + d) 0)).mapError .content
          pure ([d], p.skip (n + 1))
        else .error (.mistake .unknownEscape)
      | none => .error (.mistake .unknownEscape)
    | none, none => .error (.mistake .unknownEscape)

/-- Reads a quoted text up to its closing quote. -/
def quotedFrom (quote : Char) : (steps : Nat) → Place → Except Fault (List Char × Place)
  | 0, _ => .error (.mistake .unclosedQuote)
  | steps + 1, p => do
    let goOn (piece : List Char) (q : Place) : Except Fault (List Char × Place) := do
      let (more, e) ← quotedFrom quote steps q
      pure (piece ++ more, e)
    match p.rest with
    | [] => .error (.mistake .unclosedQuote)
    | c :: cs =>
      if c = quote then
        if quote = '\'' ∧ cs.head? = some '\'' then goOn ['\''] (p.skip 2)
        else pure ([], p.next)
      else if c = '\\' ∧ quote = '"' then do
        let (piece, q) ← escape p.next
        goOn piece q
      else if endsUnit (some c) then
        let (blanks, q) := p.span fun c ↦ c = ' ' || c = '\t'
        match q.lineBreak? with
        | none => goOn blanks q
        | some (first, r) => do
          let (breaks, e) ← quotedBreaks (r.rest.length + 1) r
          goOn (fold first breaks) e
      else goOn [c] p.next

/-- Reads a quoted text; the place is that of the opening quote. -/
def quoted (quote : Char) (p : Place) : Except Fault (List Char × Place) :=
  quotedFrom quote (p.rest.length + 1) p.next

/-! ## Block texts -/

/-- What becomes of the line breaks at the end of a block text. -/
inductive Chomping where
  | strip
  | clip
  | keep
deriving DecidableEq, Repr

/-- The chomping that a character asks for. -/
def Chomping.ofChar? : Char → Option Chomping
  | '-' => some strip
  | '+' => some keep
  | _ => none

/-- The indentation that a character asks for. -/
def indentation? (c : Char) : Option Nat :=
  if '1' ≤ c && c ≤ '9' then some (c.toNat - '0'.toNat) else none

/-- Reads the line that begins a block text: chomping and indentation, in either order, and possibly
a comment. -/
def blockHeader (p : Place) : Except Fault (Chomping × Option Nat × Place) := do
  let (chomping, p) : Option Chomping × Place :=
    match p.peek.bind Chomping.ofChar? with
    | some k => (some k, p.next)
    | none => (none, p)
  let (indent, p) : Option Nat × Place :=
    match p.peek.bind indentation? with
    | some n => (some n, p.next)
    | none => (none, p)
  let (chomping, p) : Option Chomping × Place :=
    match chomping, p.peek.bind Chomping.ofChar? with
    | none, some k => (some k, p.next)
    | chomping, _ => (chomping, p)
  if p.peek ≠ some ' ' ∧ ¬ p.peek.all isBreak then throw (.mistake .badBlockHeader)
  let q := p.skipSpaces
  let q := if q.peek = some '#' then (q.span fun c ↦ !isBreak c).2 else q
  match q.lineBreak? with
  | some (_, r) => pure (chomping.getD .clip, indent, r)
  | none =>
    if q.rest = [] then pure (chomping.getD .clip, indent, q) else throw (.mistake .badBlockHeader)

/-- The breaks of the empty lines at a place, and the largest column that their spaces reach. -/
def leadingBreaks : (steps : Nat) → Place → List Char × Nat × Place
  | 0, p => ([], 0, p)
  | steps + 1, p =>
    if p.peek = some ' ' then
      let q := p.next
      let (breaks, column, e) := leadingBreaks steps q
      (breaks, max q.column column, e)
    else
      match p.lineBreak? with
      | none => ([], 0, p)
      | some (c, q) =>
        let (breaks, column, e) := leadingBreaks steps q
        (c :: breaks, column, e)

/-- The place after at most the spaces that indent a line. -/
def skipIndent (indent : Nat) (p : Place) : Place :=
  p.skip ((p.span (· = ' ')).1.length.min (indent - p.column))

/-- The breaks of the empty lines at a place; spaces count as long as they indent. -/
def blockBreaks (indent : Nat) : (steps : Nat) → Place → List Char × Place
  | 0, p => ([], p)
  | steps + 1, p =>
    let q := skipIndent indent p
    match q.lineBreak? with
    | none => ([], q)
    | some (c, r) =>
      let (breaks, e) := blockBreaks indent steps r
      (c :: breaks, e)

/-- Reads the lines of a block text. `breaks` are the breaks of the empty lines before. -/
def blockLines (folded : Bool) (chomping : Chomping) (indent : Nat) (breaks : List Char) :
    (steps : Nat) → Place → List Char × Place
  | 0, p => ([], p)
  | steps + 1, p =>
    if p.column = indent ∧ p.rest ≠ [] then
      let (line, q) := p.span fun c ↦ !isBreak c
      let (lineBreak, r) : List Char × Place :=
        match q.lineBreak? with
        | some (c, r) => ([c], r)
        | none => ([], q)
      let (breaksAfter, e) := blockBreaks indent (r.rest.length + 1) r
      let isBlank (c : Option Char) : Bool := c = some ' ' || c = some '\t'
      if e.column = indent ∧ e.rest ≠ [] then
        let joint :=
          if folded && lineBreak = ['\n'] && !isBlank p.peek && !isBlank e.peek then
            if breaksAfter = [] then [' '] else []
          else lineBreak
        let (more, e) := blockLines folded chomping indent breaksAfter steps e
        (breaks ++ line ++ joint ++ more, e)
      else
        let tail :=
          match chomping with
          | .strip => []
          | .clip => lineBreak
          | .keep => lineBreak ++ breaksAfter
        (breaks ++ line ++ tail, e)
    else (if chomping = .keep then breaks else [], p)

/-- Reads a block text; the place is that of the mark that begins it. Its lines are indented by more
than `indent` columns. -/
def block (folded : Bool) (indent : Int) (p : Place) : Except Fault (List Char × Place) := do
  let (chomping, extra, q) ← blockHeader p.next
  let least := (max (indent + 1) 1).toNat
  match extra with
  | some n =>
    let indent := least + n - 1
    let (breaks, r) := blockBreaks indent (q.rest.length + 1) q
    pure (blockLines folded chomping indent breaks (r.rest.length + 1) r)
  | none =>
    let (breaks, column, r) := leadingBreaks (q.rest.length + 1) q
    pure (blockLines folded chomping (max least column) breaks (r.rest.length + 1) r)

end Motif.Yaml
