import Motif.Distinct

/-!
# Regular expressions

The syntax tree of a regular expression. Every piece that compares characters carries the mode it is
compared in, so that flags which are switched on for a part of the text need no scopes in the tree.
Literal characters are kept as code points: an escape may denote a code point that no text contains.

`Tree.width` bounds how many characters a tree can match; a look-behind is admitted only where the
two bounds agree, because the position it starts from is found by counting back. The bounds
themselves do not grow beyond what can be counted.

Alternatives that are one character each are a set of characters. `Part.alternatives` finds them,
after taking out what all alternatives begin with.
-/

namespace Motif.Regex

/-- How characters are compared. -/
structure Mode where
  /-- Letters match whatever their case. -/
  ignoreCase : Bool := false
  /-- Line anchors match at every line, not only at the ends of the text. -/
  multiline : Bool := false
  /-- The dot matches line feeds too. -/
  dotAll : Bool := false
  /-- Classes and case hold for ASCII only. -/
  asciiOnly : Bool := false
  /-- Blanks and comments in the expression are skipped. -/
  verbose : Bool := false
deriving DecidableEq, Repr

/-- Classes of characters with a letter of their own. -/
inductive Category where
  | digit
  | space
  | word
deriving DecidableEq, Repr

/-- A member of a character set. -/
inductive SetItem where
  /-- One code point. -/
  | one (code : Nat)
  /-- All code points between two, ends included. -/
  | range (lo hi : Nat)
  /-- A class or its complement. -/
  | category (category : Category) (complement : Bool)
deriving DecidableEq, Repr

/-- A set of characters, or the complement of one. -/
structure CharSet where
  /-- The members. -/
  items : List SetItem
  /-- Whether the complement is meant. -/
  complement : Bool := false
deriving DecidableEq, Repr

/-- Conditions on a position. -/
inductive Anchor where
  | textStart
  | textEnd
  | lineStart
  | lineEnd
  | boundary
  | noBoundary
deriving DecidableEq, Repr

/-- Which numbers of repetitions are tried, and in which order. -/
inductive Greed where
  /-- Many before few. -/
  | greedy
  /-- Few before many. -/
  | reluctant
  /-- As many as possible and no other number. -/
  | possessive
deriving DecidableEq, Repr

/-- Bounds on the number of characters that a tree can match. -/
structure Width where
  /-- The least number. -/
  least : Nat
  /-- The largest number. -/
  most : Nat
deriving DecidableEq, Repr

/-- Regular expressions. -/
inductive Tree where
  /-- The empty text. -/
  | empty
  /-- Any character, line feeds only if the mode says so. -/
  | any (mode : Mode)
  /-- A character of a set. -/
  | chars (mode : Mode) (set : CharSet)
  /-- The empty text at a position that satisfies a condition. -/
  | anchor (mode : Mode) (anchor : Anchor)
  /-- One tree after the other. -/
  | seq (first second : Tree)
  /-- One tree or else the other. -/
  | alt (first second : Tree)
  /-- A tree whose match is remembered under a number. -/
  | group (index : Nat) (body : Tree)
  /-- A tree that is not tried again once it has matched. -/
  | atomic (body : Tree)
  /-- Repetitions. -/
  | loop (greed : Greed) (least : Nat) (most : Option Nat) (body : Tree)
  /-- The text that a group matched. The width is that of the group. -/
  | backref (mode : Mode) (index : Nat) (width : Width)
  /-- The empty text where a tree matches (or does not) what follows. -/
  | lookAhead (negated : Bool) (body : Tree)
  /-- The empty text where a tree matches (or does not) what precedes. -/
  | lookBehind (negated : Bool) (body : Tree)
  /-- One tree if a group has matched, the other if it has not. -/
  | conditional (index : Nat) (yes no : Tree)
deriving Repr

namespace Width

/-- The largest bound, which stands for any number that is not smaller. -/
def bound : Nat := 4294967295

/-- The width with given bounds. A least number has to be less than a number without bound. -/
def capped (least most : Nat) : Width := ⟨min least (bound - 1), min most bound⟩

def zero : Width := ⟨0, 0⟩

def one : Width := ⟨1, 1⟩

def add (v w : Width) : Width := capped (v.least + w.least) (v.most + w.most)

def join (v w : Width) : Width := ⟨min v.least w.least, max v.most w.most⟩

def repeated (least : Nat) (most : Option Nat) (w : Width) : Width :=
  capped (least * w.least) (most.getD bound * w.most)

end Width

namespace Tree

/-- Bounds on the number of characters that a tree matches. -/
def width : Tree → Width
  | empty => .zero
  | any _ => .one
  | chars _ _ => .one
  | anchor _ _ => .zero
  | seq s t => s.width.add t.width
  | alt s t => s.width.join t.width
  | group _ t => t.width
  | atomic t => t.width
  | loop _ least most t => t.width.repeated least most
  | backref _ _ w => w
  | lookAhead _ _ => .zero
  | lookBehind _ _ => .zero
  | conditional _ s t => s.width.join t.width

def sequence : List Tree → Tree
  | [] => empty
  | [t] => t
  | t :: ts => seq t (sequence ts)

/-- Trees as alternatives, the first tried first. -/
def choice : List Tree → Tree
  | [] => empty
  | [t] => t
  | t :: ts => alt t (choice ts)

/-- Whether two trees without parts are the same, supposed that they are compared in one mode. -/
def sameSingle : Tree → Tree → Bool
  | any _, any _ => true
  | chars _ s, chars _ t => s = t
  | anchor _ a, anchor _ b => a = b
  | backref _ m _, backref _ n _ => m = n
  | _, _ => false

end Tree

/-! ## Alternatives -/

/-- A part of an alternative. -/
structure Part where
  tree : Tree
  /-- Whether the part has no parts itself and is compared in the mode of what stands around it. -/
  isSingle : Bool

namespace Part

def sequence (ps : List Part) : Tree := .sequence (ps.map Part.tree)

/-- The parts that an alternative shares with the beginnings of others, and what is left of them
all. -/
def sharedStart : List Part → List (List Part) → List Part × List (List Part)
  | [], others => ([], [] :: others)
  | p :: ps, others =>
    if p.isSingle && others.all fun o ↦ o.head?.any fun q ↦ q.isSingle && p.tree.sameSingle q.tree
    then
      let (shared, rests) := sharedStart ps (others.map List.tail)
      (p :: shared, rests)
    else ([], (p :: ps) :: others)

/-- The mode and the members of a set that is an alternative by itself, unless it is a
complement. -/
def members? : List Part → Option (Mode × List SetItem)
  | [⟨.chars mode set, true⟩] => if set.complement then none else some (mode, set.items)
  | _ => none

def alternatives : List (List Part) → List Part
  | [] => []
  | [ps] => ps
  | ps :: others =>
    let (shared, rests) := sharedStart ps others
    match rests.mapM members? with
    | some ((mode, items) :: more) =>
      let all := items ++ more.flatMap Prod.snd
      shared ++ [⟨.chars mode ⟨distinct all, false⟩, true⟩]
    | _ => shared ++ [⟨.choice (rests.map sequence), false⟩]

end Part

end Motif.Regex
