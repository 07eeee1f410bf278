import Motif.Regex.Lexeme
import Motif.Regex.Syntax
import Motif.Text.CharacterName
import Motif.Text.Identifier
import Motif.Text.Numeral

/-!
# Reading regular expressions

The reader keeps the groups that are open as a stack of frames and handles one construct after the
other: a character, an escape, a set, a repetition, the opening or the closing of a group, a bar. A
frame holds the finished alternatives of its group and the items of the alternative under way.

Flags that hold for the whole expression may stand only at its start, so the mode of every item is
known when the item is read.
-/

namespace Motif.Regex

/-- The number from which on a count of repetitions is refused. -/
def repetitionLimit : Nat := 4294967295

/-- The number from which on the number of a group is refused. -/
def groupLimit : Nat := 1073741823

/-- The number of characters from which on a look-behind goes back too far. -/
def lookBehindLimit : Nat := 2147483648

/-- An item of an alternative. Whether it can be repeated depends on what it was written as. -/
inductive Item where
  /-- A condition on a position, which cannot be repeated. -/
  | anchor (tree : Tree)
  /-- A repetition, which cannot be repeated without a group around it. -/
  | loop (tree : Tree)
  /-- Anything else. A plain group that is not repeated is no more than its parts. -/
  | piece (parts : List Part)

namespace Item

def single (t : Tree) : Item := piece [⟨t, true⟩]

def unit (t : Tree) : Item := piece [⟨t, false⟩]

def parts : Item → List Part
  | anchor t => [⟨t, true⟩]
  | loop t => [⟨t, false⟩]
  | piece ps => ps

end Item

/-- What a pair of parentheses stands for. -/
inductive GroupKind where
  /-- The expression as a whole, which has no parentheses. -/
  | whole
  | capture (index : Nat)
  | plain
  /-- A group with a mode of its own. -/
  | scoped
  | atomic
  | lookAhead (negated : Bool)
  /-- A look-behind, and whether no other one encloses it. -/
  | lookBehind (negated outermost : Bool)
  | conditional (index : Nat)
deriving DecidableEq

/-- A group that is being read. -/
structure Frame where
  /-- What the group stands for. -/
  kind : GroupKind
  /-- Where the group begins. -/
  start : Nat
  /-- The mode that holds inside. -/
  mode : Mode
  /-- The items of the alternative under way, the last first. -/
  items : List Item := []
  /-- The finished alternatives, the last first. -/
  branches : List (List Part) := []

namespace Frame

/-- The parts of the alternative under way. -/
def branch (f : Frame) : List Part := f.items.reverse.flatMap Item.parts

def parts (f : Frame) : List Part := Part.alternatives (f.branch :: f.branches).reverse

def tree (f : Frame) : Tree := Part.sequence f.parts

def nextBranch (f : Frame) : Frame := { f with items := [], branches := f.branch :: f.branches }

def push (f : Frame) (i : Item) : Frame := { f with items := i :: f.items }

end Frame

/-- The state of the reader. -/
structure Reading where
  /-- The place in the text. -/
  cursor : Cursor
  /-- The innermost group. -/
  frame : Frame
  /-- The groups around it, from the inside out. -/
  outer : List Frame := []
  /-- The number of the next group. -/
  nextGroup : Nat := 1
  /-- The numbers of the named groups. -/
  names : List (List Char × Nat) := []
  /-- The widths of the groups that are closed. -/
  widths : List (Nat × Width) := []
  /-- The number of the next group at the beginning of the outermost look-behind. -/
  lookBehindGroups : Option Nat := none
  /-- The numbers that conditions refer to and where they do so first. -/
  conditions : List (Nat × Nat) := []
  /-- Whether the expression is marked as Unicode. -/
  unicode : Bool := false
  /-- Whether the expression is marked as a template. -/
  template : Bool := false

abbrev Reader := StateT Reading (Except Fault)

namespace Reader

/-! ## Moving through the text -/

/-- Refuses the text with a mistake `back` characters before the cursor. -/
def fail {α : Type} (problem : Problem) (back : Nat := 0) : Reader α := do
  throw ((← get).cursor.mistake problem back)

/-- Refuses the text with a mistake at the given place. -/
def failAt {α : Type} (problem : Problem) (position : Nat) : Reader α := do
  throw (.mistake ⟨problem, (← get).cursor.source, some position⟩)

/-- Refuses the text because it exceeds a limit. -/
def exceed {α : Type} (limit : Limit) : Reader α := throw (.limit limit)

def peek : Reader (Option Lexeme) := do
  pure (← get).cursor.peek

/-- The number of characters before the cursor. -/
def position : Reader Nat := do
  pure (← get).cursor.position

def next : Reader (Option Lexeme) := do
  let s ← get
  let cursor ← s.cursor.advance
  set { s with cursor }
  pure s.cursor.peek

/-- Reads a given character if it comes next. -/
def accept (c : Char) : Reader Bool := do
  if (← peek) = some (.plain c) then
    let _ ← next
    pure true
  else pure false

/-- Reads up to `count` characters of a class. -/
def takeUpTo (p : Char → Bool) : (count : Nat) → Reader (List Char)
  | 0 => pure []
  | count + 1 => do
    match ← peek with
    | some (.plain c) =>
      if p c then
        let _ ← next
        pure (c :: (← takeUpTo p count))
      else pure []
    | _ => pure []

/-- Reads characters of a class as long as they come. -/
def takeAll (p : Char → Bool) : Reader (List Char) := do
  takeUpTo p (← get).cursor.rest.length

/-- Reads the text before a terminator, and the terminator. `what` says what the text is, `read` is
the text read before and `fuel` bounds the units that can come. -/
def untilFrom (terminator : Char) (what : String) (read : List Char) :
    (fuel : Nat) → Reader (List Char)
  | 0 => finish
  | fuel + 1 => do
    match ← next with
    | none => finish
    | some l =>
      if l = .plain terminator then
        if read.isEmpty then fail (.missing what) 1 else pure read
      else untilFrom terminator what (read ++ l.text) fuel
where
  /-- Refuses a text without the terminator. -/
  finish : Reader (List Char) :=
    if read.isEmpty then fail (.missing what)
    else fail (.unterminatedName terminator.toString) read.length

/-- Reads the text before a terminator, which may not be empty, and the terminator. -/
def readUntil (terminator : Char) (what : String) : Reader (List Char) := do
  untilFrom terminator what [] (← get).cursor.rest.length

/-! ## Escapes -/

/-- Whether a character is one of the ASCII digits. -/
def isAsciiDigit (c : Char) : Bool := '0' ≤ c && c ≤ '9'

def isOctalDigit (c : Char) : Bool := '0' ≤ c && c ≤ '7'

/-- Whether a character is a hexadecimal digit. -/
def isHexDigit (c : Char) : Bool :=
  isAsciiDigit c || ('a' ≤ c && c ≤ 'f') || ('A' ≤ c && c ≤ 'F')

/-- Whether a character is an ASCII letter. -/
def isAsciiLetter (c : Char) : Bool := ('a' ≤ c && c ≤ 'z') || ('A' ≤ c && c ≤ 'Z')

/-- The value of a digit of a base up to sixteen. -/
def digitValue (c : Char) : Nat :=
  if isAsciiDigit c then c.toNat - 48 else if 'a' ≤ c then c.toNat - 87 else c.toNat - 55

/-- The number that digits of a base denote. -/
def digitsValue (base : Nat) (ds : List Char) : Nat :=
  ds.foldl (fun n d ↦ base * n + digitValue d) 0

/-- The code points of the escapes that stand for one character. -/
def controlEscape? : Char → Option Nat
  | 'a' => some 7
  | 'b' => some 8
  | 'f' => some 12
  | 'n' => some 10
  | 'r' => some 13
  | 't' => some 9
  | 'v' => some 11
  | '\\' => some 92
  | _ => none

def categoryEscape? : Char → Option SetItem
  | 'd' => some (.category .digit false)
  | 'D' => some (.category .digit true)
  | 's' => some (.category .space false)
  | 'S' => some (.category .space true)
  | 'w' => some (.category .word false)
  | 'W' => some (.category .word true)
  | _ => none

/-- The escapes that stand for a condition on a position. -/
def anchorEscape? : Char → Option Anchor
  | 'A' => some .textStart
  | 'b' => some .boundary
  | 'B' => some .noBoundary
  | 'Z' => some .textEnd
  | _ => none

/-- The largest code that can be asked for. -/
def largestCode : Nat := 0x7fffffff

/-- Reads an escape of `count` hexadecimal digits, which have to denote a code point. -/
def hexEscape (c : Char) (count : Nat) : Reader Nat := do
  let ds ← takeUpTo isHexDigit count
  let escape := '\\' :: c :: ds
  if ds.length ≠ count then fail (.incompleteEscape (String.ofList escape)) escape.length
  let code := digitsValue 16 ds
  if code > largestCode then exceed .hugeCode
  if code ≥ 0x110000 then fail (.badEscape (String.ofList escape)) escape.length
  pure code

/-- Reads the rest of an escape that gives a code point: hexadecimal digits or a name. -/
def codeEscape? (c : Char) : Reader (Option Nat) := do
  match c with
  | 'x' => some <$> hexEscape c 2
  | 'u' => some <$> hexEscape c 4
  | 'U' => some <$> hexEscape c 8
  | 'N' =>
    if ← accept '\x7b' then
      let name ← readUntil '\x7d' "character name"
      match Text.CharacterName.code? (String.ofList name) with
      | some n => pure (some n)
      | none => fail (.unknownCharacterName (String.ofList name)) (name.length + 4)
    else fail (.missing "\x7b")
  | _ => pure none

/-- Refuses an escape of a character, or takes the character for itself. -/
def plainEscape (c : Char) : Reader Nat := do
  if isAsciiLetter c || isAsciiDigit c then
    fail (.badEscape (String.ofList ['\\', c])) 2
  else pure c.toNat

def octalEscape (c : Char) : Reader Nat := do
  let ds ← takeUpTo isOctalDigit 2
  let n := digitsValue 8 (c :: ds)
  if n > 0o377 then
    let escape := '\\' :: c :: ds
    fail (.octalOutOfRange (String.ofList escape)) escape.length
  else pure n

/-- The member that an escape in a set stands for. -/
def setEscape (c : Char) : Reader SetItem := do
  if let some n := controlEscape? c then return .one n
  if let some item := categoryEscape? c then return item
  if let some n ← codeEscape? c then return .one n
  if isOctalDigit c then return .one (← octalEscape c)
  pure (.one (← plainEscape c))

/-- Whether a group can be referred to from inside the look-behind that is open, if any. -/
def checkLookBehind (index : Nat) : Reader Unit := do
  let s ← get
  match s.lookBehindGroups with
  | none => pure ()
  | some limit =>
    if (s.widths.lookup index).isNone then fail .openGroupReference
    if index ≥ limit then fail .groupInSameLookBehind

/-- A reference to a closed group, `back` characters long. -/
def reference (index back : Nat) : Reader Tree := do
  let s ← get
  match s.widths.lookup index with
  | none => fail .openGroupReference back
  | some width =>
    checkLookBehind index
    pure (.backref s.frame.mode index width)

/-- The reference or the code point that an escape with a digit stands for. -/
def digitEscape (c : Char) : Reader Tree := do
  let mode := (← get).frame.mode
  let literal (n : Nat) : Tree := .chars mode ⟨[.one n], false⟩
  if c = '0' then
    let ds ← takeUpTo isOctalDigit 2
    return literal (digitsValue 8 ds)
  let ds ← takeUpTo isAsciiDigit 1
  if isOctalDigit c && !ds.isEmpty && ds.all isOctalDigit then
    let es ← takeUpTo isOctalDigit 1
    if !es.isEmpty then
      let n := digitsValue 8 (c :: ds ++ es)
      if n > 0o377 then fail (.octalOutOfRange (String.ofList ('\\' :: c :: ds ++ es))) 4
      return literal n
  let index := digitsValue 10 (c :: ds)
  if index < (← get).nextGroup then reference index (ds.length + 2)
  else fail (.invalidGroupReference index) (ds.length + 1)

/-- Reads what an escape outside sets stands for. -/
def escapeItem (c : Char) : Reader Item := do
  let mode := (← get).frame.mode
  if let some a := anchorEscape? c then return .anchor (.anchor mode a)
  if let some item := categoryEscape? c then return .single (.chars mode ⟨[item], false⟩)
  if let some n := controlEscape? c then return .single (.chars mode ⟨[.one n], false⟩)
  if let some n ← codeEscape? c then return .single (.chars mode ⟨[.one n], false⟩)
  if isAsciiDigit c then return .single (← digitEscape c)
  pure (.single (.chars mode ⟨[.one (← plainEscape c)], false⟩))

/-! ## Character sets -/

/-- The member that a unit in a set stands for. -/
def setItem : Lexeme → Reader SetItem
  | .plain c => pure (.one c.toNat)
  | .escaped c => setEscape c

/-- Reads the members of a set that begins at `start`, up to its bracket. `read` holds the members
read before, the last first, and `fuel` bounds the units that can come. -/
def setItems (start : Nat) (read : List SetItem) : (fuel : Nat) → Reader (List SetItem)
  | 0 => failAt .unterminatedSet start
  | fuel + 1 => do
    let some first ← next | failAt .unterminatedSet start
    if first = .plain ']' && !read.isEmpty then return read.reverse
    let lo ← setItem first
    if ← accept '-' then
      let some last ← next | failAt .unterminatedSet start
      if last = .plain ']' then return (.one '-'.toNat :: lo :: read).reverse
      let hi ← setItem last
      let bad : Reader (List SetItem) :=
        fail (.badRange (String.ofList first.text) (String.ofList last.text))
          (first.text.length + 1 + last.text.length)
      match lo, hi with
      | .one l, .one h => if h < l then bad else setItems start (.range l h :: read) fuel
      | _, _ => bad
    else setItems start (lo :: read) fuel

/-- Reads a set whose opening bracket has been read. -/
def set (mode : Mode) : Reader Tree := do
  let start := (← position) - 1
  let complement ← accept '^'
  let items ← setItems start [] (← get).cursor.rest.length
  pure (.chars mode ⟨distinct items, complement⟩)

/-! ## Repetitions -/

/-- The number that the digits of a count denote. -/
def countValue (ds : List Char) : Reader Nat := do
  if ds.length > Text.maxNumeralDigits then exceed (.digits ds.length)
  let n := digitsValue 10 ds
  if n ≥ repetitionLimit then exceed .repetitions
  pure n

/-- Reads the counts of a repetition in braces, whose opening brace has been read. Nothing is read
if the braces hold no counts. -/
def counts? : Reader (Option (Nat × Option Nat)) := do
  let saved ← get
  if (← peek) = some (.plain '\x7d') then return none
  let lo ← takeAll isAsciiDigit
  let hi ← if ← accept ',' then takeAll isAsciiDigit else pure lo
  if !(← accept '\x7d') then
    StateT.set saved
    return none
  let least ← if lo.isEmpty then pure 0 else countValue lo
  if hi.isEmpty then return some (least, none)
  let most ← countValue hi
  if most < least then failAt .emptyRepeatRange saved.cursor.position
  pure (some (least, some most))

/-- Changes the frame of the innermost group. -/
def modifyFrame (f : Frame → Frame) : Reader Unit := modify fun s ↦ { s with frame := f s.frame }

/-- Adds an item to the alternative under way. -/
def push (i : Item) : Reader Unit := modifyFrame (·.push i)

/-- Repeats the last item. The operator begins at `start`. -/
def repetition (start least : Nat) (most : Option Nat) : Reader Unit := do
  match (← get).frame.items with
  | [] => failAt .nothingToRepeat start
  | .anchor _ :: _ => failAt .nothingToRepeat start
  | .loop _ :: _ => failAt .multipleRepeat start
  | .piece ps :: items =>
    let reluctant ← accept '?'
    let possessive ← if reluctant then pure false else accept '+'
    let greed : Greed :=
      if reluctant then .reluctant else if possessive then .possessive else .greedy
    let loop := Item.loop (.loop greed least most (Part.sequence ps))
    modifyFrame fun f ↦ { f with items := loop :: items }

/-! ## Groups -/

def openFrame (kind : GroupKind) (start : Nat) (mode : Mode) : Reader Unit :=
  modify fun s ↦ { s with frame := ⟨kind, start, mode, [], []⟩, outer := s.frame :: s.outer }

/-- Opens a group that remembers its match, under a name if one is given. -/
def openCapture (start : Nat) (name : Option (List Char)) : Reader Unit := do
  let s ← get
  let index := s.nextGroup
  if let some n := name then
    if let some earlier := s.names.lookup n then
      fail (.redefinedGroupName (String.ofList n) index earlier) (n.length + 1)
    modify fun s ↦ { s with names := (n, index) :: s.names }
  modify fun s ↦ { s with nextGroup := index + 1 }
  openFrame (.capture index) start s.frame.mode

/-- Reads the name of a group up to a terminator. -/
def groupName (terminator : Char) : Reader (List Char) := do
  let name ← readUntil terminator "group name"
  if Text.isIdentifier name then pure name
  else fail (.badGroupName (String.ofList name)) (name.length + 1)

/-- Reads what a condition refers to, up to its closing parenthesis. -/
def condition : Reader Nat := do
  let name ← readUntil ')' "group name"
  let back := name.length + 1
  if Text.isIdentifier name then
    match (← get).names.lookup name with
    | some index => pure index
    | none => fail (.unknownGroupName (String.ofList name)) back
  else
    match Text.integer? name with
    | some (.ofNat 0) => fail .groupNumberZero back
    | some (.ofNat index) =>
      if index ≥ groupLimit then fail (.invalidGroupReference index) back
      let s ← get
      if (s.conditions.lookup index).isNone then
        StateT.set { s with conditions := s.conditions ++ [(index, s.cursor.position - back)] }
      pure index
    | _ => fail (.badGroupName (String.ofList name)) back

/-- Reads a comment that begins at `start`. -/
def comment (start : Nat) : (fuel : Nat) → Reader Unit
  | 0 => failAt .unterminatedComment start
  | fuel + 1 => do
    match ← next with
    | none => failAt .unterminatedComment start
    | some l => if l = .plain ')' then pure () else comment start fuel

/-! ## Flags -/

/-- Flags by their letters. -/
inductive Flag where
  | ignoreCase
  | locale
  | multiline
  | dotAll
  | verbose
  | ascii
  | template
  | unicode
deriving DecidableEq

def Flag.ofLexeme? : Lexeme → Option Flag
  | .plain 'i' => some ignoreCase
  | .plain 'L' => some locale
  | .plain 'm' => some multiline
  | .plain 's' => some dotAll
  | .plain 'x' => some verbose
  | .plain 'a' => some ascii
  | .plain 't' => some template
  | .plain 'u' => some unicode
  | _ => none

/-- Whether a flag says what kind of text is matched. -/
def Flag.isType : Flag → Bool
  | ascii => true
  | unicode => true
  | locale => true
  | _ => false

/-- Refuses a unit that is no flag where one of several texts was due. -/
def noFlag {α : Type} (l : Lexeme) (due : String) : Reader α :=
  match l with
  | .plain c =>
    fail (if Text.isLetter c then .unknownFlag else .missing due) 1
  | .escaped _ => fail (.missing due) 2

/-- Reads flags that are switched on, of which `l` is the first and `on` are those read before.
Gives the flags and the character that ends them. -/
def flagsOn (l : Lexeme) (on : List Flag) : (fuel : Nat) → Reader (List Flag × Char)
  | 0 => fail (.missing "-, : or )")
  | fuel + 1 => do
    let some flag := Flag.ofLexeme? l | noFlag l "-, : or )"
    if flag = .locale then fail .localeFlag
    let on := flag :: on
    if flag.isType && on.any (fun f ↦ f.isType && f ≠ flag) then fail .incompatibleFlags
    match ← next with
    | none => fail (.missing "-, : or )")
    | some (.plain ')') => pure (on, ')')
    | some (.plain '-') => pure (on, '-')
    | some (.plain ':') => pure (on, ':')
    | some l => flagsOn l on fuel

/-- Reads flags that are switched off, up to a colon. `due` names what was due in place of `l`. -/
def flagsOff (l : Lexeme) (due : String) (off : List Flag) : (fuel : Nat) → Reader (List Flag)
  | 0 => fail (.missing ":")
  | fuel + 1 => do
    let some flag := Flag.ofLexeme? l | noFlag l due
    if flag.isType then fail .typeFlagOff
    let off := flag :: off
    match ← next with
    | none => fail (.missing ":")
    | some (.plain ':') => pure off
    | some l => flagsOff l ":" off fuel

/-- Reads flags, of which `l` is the first unit. Gives the flags that are switched on and, if they
hold for a group only, the flags that are switched off. -/
def flags (l : Lexeme) : Reader (List Flag × Option (List Flag)) := do
  let fuel := (← get).cursor.rest.length + 1
  let (on, stop) ← if l = .plain '-' then pure ([], '-') else flagsOn l [] fuel
  if stop = ')' then return (on, none)
  if on.contains .template then fail .globalFlagOn 1
  let off ←
    if stop = '-' then
      match ← next with
      | none => fail (.missing "flag")
      | some l => flagsOff l "flag" [] fuel
    else pure []
  if off.contains .template then fail .globalFlagOff 1
  if on.any off.contains then fail .flagOnAndOff 1
  pure (on, some off)

/-- The mode after flags have been switched on and off. -/
def withFlags (mode : Mode) (on off : List Flag) : Mode where
  ignoreCase := (mode.ignoreCase || on.contains .ignoreCase) && !off.contains .ignoreCase
  multiline := (mode.multiline || on.contains .multiline) && !off.contains .multiline
  dotAll := (mode.dotAll || on.contains .dotAll) && !off.contains .dotAll
  asciiOnly := (mode.asciiOnly || on.contains .ascii) && !on.contains .unicode
  verbose := (mode.verbose || on.contains .verbose) && !off.contains .verbose

/-- Switches on flags for the whole expression, from a place before its first item. -/
def globalFlags (start : Nat) (on : List Flag) : Reader Unit := do
  let s ← get
  if s.frame.kind ≠ .whole || !s.frame.branches.isEmpty || !s.frame.items.isEmpty then
    failAt .lateGlobalFlags start
  let mode := s.frame.mode
  modifyFrame fun f ↦ { f with
    mode := { withFlags mode on [] with asciiOnly := mode.asciiOnly || on.contains .ascii } }
  modify fun s ↦ { s with
    unicode := s.unicode || on.contains .unicode
    template := s.template || on.contains .template }

/-! ## Opening and closing -/

def openLook (start : Nat) (behind negated : Bool) : Reader Unit := do
  let s ← get
  if behind then
    let outermost := s.lookBehindGroups.isNone
    if outermost then modify fun s ↦ { s with lookBehindGroups := some s.nextGroup }
    openFrame (.lookBehind negated outermost) start s.frame.mode
  else openFrame (.lookAhead negated) start s.frame.mode

/-- Reads what follows an opening parenthesis at `start` and a `P` after a question mark. -/
def namedExtension (start : Nat) : Reader Unit := do
  if ← accept '<' then openCapture start (some (← groupName '>'))
  else if ← accept '=' then
    let name ← groupName ')'
    match (← get).names.lookup name with
    | none => fail (.unknownGroupName (String.ofList name)) (name.length + 1)
    | some index => push (.single (← reference index (name.length + 1)))
  else
    match ← next with
    | none => fail .unexpectedEnd
    | some l => fail (.unknownExtension (String.ofList ('?' :: 'P' :: l.text))) (l.text.length + 2)

/-- Reads what follows an opening parenthesis at `start` and a question mark. -/
def extension (start : Nat) : Reader Unit := do
  let mode := (← get).frame.mode
  match ← next with
  | none => fail .unexpectedEnd
  | some (.plain 'P') => namedExtension start
  | some (.plain ':') => openFrame .plain start mode
  | some (.plain '#') => comment start ((← get).cursor.rest.length)
  | some (.plain '=') => openLook start false false
  | some (.plain '!') => openLook start false true
  | some (.plain '<') =>
    match ← next with
    | none => fail .unexpectedEnd
    | some (.plain '=') => openLook start true false
    | some (.plain '!') => openLook start true true
    | some l => fail (.unknownExtension (String.ofList ('?' :: '<' :: l.text))) (l.text.length + 2)
  | some (.plain '(') =>
    let index ← condition
    checkLookBehind index
    openFrame (.conditional index) start mode
  | some (.plain '>') => openFrame .atomic start mode
  | some l =>
    if (Flag.ofLexeme? l).isSome || l = .plain '-' then
      match ← flags l with
      | (on, none) => globalFlags start on
      | (on, some off) => openFrame .scoped start (withFlags mode on off)
    else fail (.unknownExtension (String.ofList ('?' :: l.text))) (l.text.length + 1)

/-- The item that a finished group stands for. -/
def closedItem (f : Frame) : Item :=
  match f.kind with
  | .whole => .piece f.parts
  | .plain => .piece f.parts
  | .scoped => .unit f.tree
  | .capture index => .unit (.group index f.tree)
  | .atomic => .unit (.atomic f.tree)
  | .lookAhead negated => .unit (.lookAhead negated f.tree)
  | .lookBehind negated _ => .unit (.lookBehind negated f.tree)
  | .conditional index =>
    match ((f.branch :: f.branches).reverse).map Part.sequence with
    | [yes, no] => .unit (.conditional index yes no)
    | _ => .unit (.conditional index (Part.sequence f.branch) .empty)

/-- Refuses an expression that is marked both as ASCII and as Unicode. -/
def checkTypeFlags (whole : Frame) : Reader Unit := do
  if whole.mode.asciiOnly && (← get).unicode then exceed .conflictingFlags

def close : Reader Unit := do
  let s ← get
  match s.outer with
  | [] =>
    checkTypeFlags s.frame
    fail .unbalancedParenthesis
  | parent :: outer =>
    let _ ← next
    modify fun s ↦ { s with
      frame := parent.push (closedItem s.frame)
      outer
      lookBehindGroups :=
        if s.frame.kind matches .lookBehind _ true then none else s.lookBehindGroups
      widths :=
        match s.frame.kind with
        | .capture index => (index, s.frame.tree.width) :: s.widths
        | _ => s.widths }

/-- Begins the next alternative of the innermost group. -/
def bar : Reader Unit := do
  let f := (← get).frame
  if f.kind matches .conditional _ && !f.branches.isEmpty then fail .tooManyBranches
  let _ ← next
  modifyFrame Frame.nextBranch

/-! ## One construct after the other -/

/-- Skips the rest of a line. -/
def skipLine : (fuel : Nat) → Reader Unit
  | 0 => pure ()
  | fuel + 1 => do
    match ← next with
    | none => pure ()
    | some l => if l = .plain '\n' then pure () else skipLine fuel

/-- The blanks that are skipped in verbose mode. -/
def isVerboseBlank (c : Char) : Bool := c = ' ' || ('\t' ≤ c && c ≤ '\r')

/-- Reads a construct that begins with the character `c`, which has been read. -/
def construct (c : Char) : Reader Unit := do
  let s ← get
  let mode := s.frame.mode
  let start := s.cursor.position - 1
  let literal : Reader Unit := push (.single (.chars mode ⟨[.one c.toNat], false⟩))
  if mode.verbose && isVerboseBlank c then return
  if mode.verbose && c = '#' then return ← skipLine s.cursor.rest.length
  match c with
  | '[' => push (.single (← set mode))
  | '?' => repetition start 0 (some 1)
  | '*' => repetition start 0 none
  | '+' => repetition start 1 none
  | '\x7b' =>
    match ← counts? with
    | some (least, most) => repetition start least most
    | none => literal
  | '.' => push (.single (.any mode))
  | '^' => push (.anchor (.anchor mode .lineStart))
  | '$' => push (.anchor (.anchor mode .lineEnd))
  | '(' => if ← accept '?' then extension start else openCapture start none
  | _ => literal

/-- Reads constructs until the text ends. Every one takes a unit at least, so `fuel` need not exceed
the number of units. -/
def constructs : (fuel : Nat) → Reader Unit
  | 0 => pure ()
  | fuel + 1 => do
    match ← peek with
    | none => pure ()
    | some (.plain '|') => bar; constructs fuel
    | some (.plain ')') => close; constructs fuel
    | some l =>
      let _ ← next
      match l with
      | .plain c => construct c
      | .escaped c => push (← escapeItem c)
      constructs fuel

end Reader

/-! ## Checks on the whole -/

/-- The name of a repetition among the operators of a template. -/
def Greed.operator : Greed → String
  | greedy => "MAX_REPEAT"
  | reluctant => "MIN_REPEAT"
  | possessive => "POSSESSIVE_REPEAT"

/-- The first construct, from the left and from the outside in, that is well written and yet cannot
be matched: a look-behind without a fixed width, or a repetition in a template. -/
def Tree.unsupported? (template : Bool) : Tree → Option Problem
  | empty => none
  | any _ => none
  | chars _ _ => none
  | anchor _ _ => none
  | backref _ _ _ => none
  | seq s t => s.unsupported? template <|> t.unsupported? template
  | alt s t => s.unsupported? template <|> t.unsupported? template
  | group _ t => t.unsupported? template
  | atomic t => t.unsupported? template
  | loop greed _ _ t =>
    if template then some (.templateRepeat greed.operator) else t.unsupported? template
  | lookAhead _ t => t.unsupported? template
  | lookBehind _ t =>
    if t.width.most ≠ t.width.least then some .lookBehindNotFixed
    else t.unsupported? template
  | conditional _ s t => s.unsupported? template <|> t.unsupported? template

/-- The largest number of characters that a look-behind goes back. -/
def Tree.farthest : Tree → Nat
  | empty => 0
  | any _ => 0
  | chars _ _ => 0
  | anchor _ _ => 0
  | backref _ _ _ => 0
  | seq s t => max s.farthest t.farthest
  | alt s t => max s.farthest t.farthest
  | group _ t => t.farthest
  | atomic t => t.farthest
  | loop _ _ _ t => t.farthest
  | lookAhead _ t => t.farthest
  | lookBehind _ t => max t.width.least t.farthest
  | conditional _ s t => max s.farthest t.farthest

def Reader.whole : Reader Tree := do
  constructs (← get).cursor.rest.length
  let s ← get
  if s.frame.kind ≠ .whole then failAt .unterminatedGroup s.frame.start
  checkTypeFlags s.frame
  if let some (index, position) := s.conditions.find? (·.1 ≥ s.nextGroup) then
    failAt (.invalidGroupReference index) position
  let tree := s.frame.tree
  if let some problem := tree.unsupported? s.template then
    throw (.mistake ⟨problem, s.cursor.source, none⟩)
  if lookBehindLimit ≤ tree.farthest then exceed .lookBehind
  pure tree

/-- Reads the text of a regular expression. -/
def Tree.read (source : List Char) : Except Fault Tree := do
  let cursor ← Cursor.ofText source
  let (tree, _) ← Reader.whole.run { cursor, frame := { kind := .whole, start := 0, mode := {} } }
  pure tree

end Motif.Regex
