import Motif.Regex.Reader
import Motif.Text.LowerCase

/-!
# Matching regular expressions

A tree denotes a *tester*: from a place in a text it finds ways to go on, in the order of
preference, and offers each to the rest of the expression until the rest succeeds. The rest is
passed as a function, so backtracking is the failure of that function.

A repetition that matches the empty text is not tried again. Every further repetition therefore
moves forward, and the characters that are left bound how many there can be.
-/

namespace Motif.Regex

/-! ## Places -/

/-- A place in a text, with what the groups have matched on the way to it. -/
structure Place where
  /-- The text before the place, the nearest character first. -/
  before : List Char
  /-- The text after the place. -/
  after : List Char
  /-- The number of characters before the place. -/
  offset : Nat
  /-- Where groups began, the latest first. -/
  opened : List (Nat × Nat) := []
  /-- Where groups ended, the latest first. -/
  closed : List (Nat × Nat) := []

/-- The rest of an expression: what it makes of a place. -/
abbrev Rest := Place → Option Place

/-- What a tree makes of a place and of the rest of the expression. -/
abbrev Tester := Place → Rest → Option Place

namespace Place

def text (p : Place) : List Char := p.before.reverse ++ p.after

/-- The place one character further on. -/
def forward (p : Place) : Option (Char × Place) :=
  match p.after with
  | [] => none
  | c :: after => some (c, { p with before := c :: p.before, after, offset := p.offset + 1 })

/-- The place `n` characters back. -/
def back : (n : Nat) → Place → Option Place
  | 0, p => some p
  | n + 1, p =>
    match p.before with
    | [] => none
    | c :: before => back n { p with before, after := c :: p.after, offset := p.offset - 1 }

def group? (p : Place) (index : Nat) : Option (List Char) := do
  let first ← p.opened.lookup index
  let last ← p.closed.lookup index
  if first ≤ last then some ((p.text.drop first).take (last - first)) else none

end Place

/-! ## Characters -/

/-- Whether a character belongs to a class. -/
def Category.has (asciiOnly : Bool) (c : Char) : Category → Bool
  | digit => if asciiOnly then Reader.isAsciiDigit c else Text.isDecimal c
  | space => if asciiOnly then isVerboseSpace c else Text.isBlank c
  | word =>
    if asciiOnly then Reader.isAsciiDigit c || Reader.isAsciiLetter c || c == '_'
    else Text.isWord c
where
  /-- The ASCII blanks. -/
  isVerboseSpace (c : Char) : Bool := c = ' ' || ('\t' ≤ c && c ≤ '\r')

/-- The code points that count as equal to a character. -/
def Mode.variants (mode : Mode) (c : Char) : List Nat :=
  if !mode.ignoreCase then [c.toNat]
  else if mode.asciiOnly then
    c.toNat ::
      (if 'a' ≤ c && c ≤ 'z' then [c.toNat - 32]
      else if 'A' ≤ c && c ≤ 'Z' then [c.toNat + 32]
      else [])
  else Text.caseVariants c.toNat

/-- The code point of a character as a small letter, where case is ignored. -/
def Mode.small (mode : Mode) (code : Nat) : Nat :=
  if mode.asciiOnly then if 65 ≤ code ∧ code ≤ 90 then code + 32 else code
  else Text.lowerCode code

/-- The least code point beyond the basic plane. Sets ignore case there only in part. -/
def basicEnd : Nat := 0x10000

/-- Whether a code point counts as equal to a character among the members of a set. A capital beyond
the basic plane that is not the only member counts as equal to nothing. -/
def Mode.isMember (mode : Mode) (alone : Bool) (code : Nat) (c : Char) : Bool :=
  if !mode.ignoreCase || alone || mode.small code < basicEnd then (mode.variants c).contains code
  else mode.small c.toNat = code

/-- Whether a character counts as lying between two code points. A range that goes beyond the basic
plane has a letter too whose capital lies in it. -/
def Mode.isBetween (mode : Mode) (lo hi : Nat) (c : Char) : Bool :=
  let isIn (n : Nat) : Bool := lo ≤ n && n ≤ hi
  let capital := Text.capital? (mode.small c.toNat)
  (mode.variants c).any isIn || (mode.ignoreCase && basicEnd ≤ hi && capital.any isIn)

/-- Whether a set has one code point and no other members. -/
def CharSet.isOne (s : CharSet) : Bool :=
  match s.items with
  | [.one _] => true
  | _ => false

/-- Whether a character is a member of a set. -/
def CharSet.has (mode : Mode) (s : CharSet) (c : Char) : Bool :=
  let found := s.items.any fun
    | .one code => mode.isMember s.isOne code c
    | .range lo hi => mode.isBetween lo hi c
    | .category k complement => k.has mode.asciiOnly c != complement
  found != s.complement

/-- Whether two characters count as equal in a repetition of a group's text. -/
def Mode.same (mode : Mode) (c d : Char) : Bool :=
  if !mode.ignoreCase then c == d
  else if mode.asciiOnly then c.toLower == d.toLower
  else Text.lowerChar c == Text.lowerChar d

/-- Whether a place satisfies a condition. In the empty text there is neither a word boundary nor a
place without one. -/
def Anchor.holds (mode : Mode) (p : Place) : Anchor → Bool
  | textStart => p.before.isEmpty
  | textEnd => p.after.isEmpty
  | lineStart => p.before.isEmpty || (mode.multiline && p.before.head? == some '\n')
  | lineEnd =>
    p.after.isEmpty || p.after == ['\n'] || (mode.multiline && p.after.head? == some '\n')
  | boundary => !p.text.isEmpty && isWord p.before != isWord p.after
  | noBoundary => !p.text.isEmpty && isWord p.before == isWord p.after
where
  /-- Whether a word character is next on one side. -/
  isWord (cs : List Char) : Bool :=
    match cs with
    | [] => false
    | c :: _ => Category.has mode.asciiOnly c .word

/-! ## Testers -/

namespace Tester

/-- Matches one character that satisfies a condition. -/
def char (p : Char → Bool) : Tester := fun s k ↦
  match s.forward with
  | some (c, t) => if p c then k t else none
  | none => none

/-- Matches the empty text where a condition holds. -/
def guard (p : Place → Bool) : Tester := fun s k ↦ if p s then k s else none

/-- Matches a given text, up to the equality of characters that the mode gives. -/
def word (mode : Mode) : List Char → Tester
  | [] => fun s k ↦ k s
  | c :: cs => fun s k ↦ char (mode.same c) s fun t ↦ word mode cs t k

/-- Matches what a tester matches, once a number of times. -/
def times (body : Tester) : (count : Nat) → Tester
  | 0 => fun s k ↦ k s
  | count + 1 => fun s k ↦ body s fun t ↦ times body count t k

/-- Whether another repetition is allowed. -/
def hasRoom : Option Nat → Bool
  | some 0 => false
  | _ => true

/-- Matches further repetitions, many before few. `room` is the number that is allowed and `fuel`
bounds the number that can move forward. -/
def greedy (body : Tester) : (fuel : Nat) → (room : Option Nat) → Tester
  | 0, _ => fun s k ↦ k s
  | fuel + 1, room => fun s k ↦
    if hasRoom room then
      -- A repetition that has not moved is the last one, or there would be no end to them.
      (body s fun t ↦
        if t.offset = s.offset then k t else greedy body fuel (room.map (· - 1)) t k) <|> k s
    else k s

/-- Matches further repetitions, few before many. -/
def reluctant (body : Tester) : (fuel : Nat) → (room : Option Nat) → Tester
  | 0, _ => fun s k ↦ k s
  | fuel + 1, room => fun s k ↦
    k s <|>
      (if hasRoom room then
        body s fun t ↦
          if t.offset = s.offset then k t else reluctant body fuel (room.map (· - 1)) t k
      else none)

/-- The place after as many repetitions as possible. -/
def exhaust (body : Tester) : (fuel : Nat) → (room : Option Nat) → Place → Place
  | 0, _, s => s
  | fuel + 1, room, s =>
    if hasRoom room then
      match body s some with
      | none => s
      | some t => if t.offset = s.offset then t else exhaust body fuel (room.map (· - 1)) t
    else s

/-- The place after a number of repetitions, each of which is not tried again. -/
def exhaustTimes (body : Tester) : (count : Nat) → Place → Option Place
  | 0, s => some s
  | count + 1, s => (body s some).bind (exhaustTimes body count)

def loop (greed : Greed) (least : Nat) (most : Option Nat) (body : Tester) : Tester := fun s k ↦
  let room := most.map (· - least)
  match greed with
  | .greedy => times body least s fun t ↦ greedy body (t.after.length + 1) room t k
  | .reluctant => times body least s fun t ↦ reluctant body (t.after.length + 1) room t k
  | .possessive =>
    (exhaustTimes body least s).bind fun t ↦ k (exhaust body (t.after.length + 1) room t)

end Tester

/-! ## Trees -/

def Tree.tester : Tree → Tester
  | empty => fun s k ↦ k s
  | any mode => Tester.char fun c ↦ mode.dotAll || c != '\n'
  | chars mode set => Tester.char (set.has mode)
  | anchor mode a => Tester.guard fun s ↦ a.holds mode s
  | seq x y => fun s k ↦ x.tester s fun t ↦ y.tester t k
  | alt x y => fun s k ↦ x.tester s k <|> y.tester s k
  | group index x => fun s k ↦
    x.tester { s with opened := (index, s.offset) :: s.opened } fun t ↦
      k { t with closed := (index, t.offset) :: t.closed }
  | atomic x => fun s k ↦ (x.tester s some).bind k
  | loop greed least most x => Tester.loop greed least most x.tester
  | backref mode index _ => fun s k ↦
    match s.group? index with
    | some cs => Tester.word mode cs s k
    | none => none
  | lookAhead negated x => fun s k ↦
    match x.tester s some, negated with
    -- What was looked at is not taken, but the groups in it stay closed.
    | some t, false => k { s with opened := t.opened, closed := t.closed }
    | none, true => k s
    | _, _ => none
  | lookBehind negated x => fun s k ↦
    -- All texts that the tree matches have one length, so there is one place to begin.
    match (s.back x.width.least).bind fun t ↦ x.tester t some, negated with
    | some t, false => k { s with opened := t.opened, closed := t.closed }
    | none, true => k s
    | _, _ => none
  | conditional index x y => fun s k ↦
    if (s.group? index).isSome then x.tester s k else y.tester s k

/-- Whether a tree matches a text as a whole. -/
def Tree.matchesWhole (t : Tree) (cs : List Char) : Bool :=
  (t.tester { before := [], after := cs, offset := 0 } fun s ↦
    if s.after.isEmpty then some s else none).isSome

end Motif.Regex

namespace Motif

/-- A regular expression: a text together with the tree that it reads as. -/
structure Regex where
  /-- The text. -/
  source : String
  /-- The tree. -/
  tree : Regex.Tree
  /-- The tree is that of the text. -/
  read_source : Regex.Tree.read source.toList = .ok tree

namespace Regex

def compile (source : String) : Except Fault Regex :=
  match h : Tree.read source.toList with
  | .ok tree => .ok ⟨source, tree, h⟩
  | .error fault => .error fault

/-- Whether the expression matches a text as a whole. -/
def fullMatch (r : Regex) (s : String) : Bool := r.tree.matchesWhole s.toList

theorem ext_source {r s : Regex} (h : r.source = s.source) : r = s := by
  obtain ⟨x, t, ht⟩ := r
  obtain ⟨y, u, hu⟩ := s
  obtain rfl : x = y := h
  have : t = u := by
    rw [ht] at hu
    exact Except.ok.inj hu
  subst this
  rfl

instance : DecidableEq Regex := fun r s ↦
  if h : r.source = s.source then .isTrue (ext_source h)
  else .isFalse fun hrs ↦ h (congrArg source hrs)

end Regex

end Motif
