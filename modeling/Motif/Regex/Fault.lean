import Motif.Text.Numeral
import Motif.Text.Quoted

/-!
# What can be wrong with a regular expression

Most faults are mistakes in the text of the expression and have a place in it. A few concern limits
that the text exceeds although it is well formed; they are kept apart, because a caller reports only
the former as mistakes of the person who wrote the expression.
-/

namespace Motif.Regex

/-- Mistakes in the text of a regular expression. -/
inductive Problem where
  | danglingBackslash
  | incompleteEscape (escape : String)
  | badEscape (escape : String)
  | missing (what : String)
  | unterminatedName (terminator : String)
  | unknownCharacterName (name : String)
  | octalOutOfRange (escape : String)
  | openGroupReference
  | groupInSameLookBehind
  | invalidGroupReference (index : Nat)
  | unterminatedSet
  | badRange (first last : String)
  | emptyRepeatRange
  | nothingToRepeat
  | multipleRepeat
  | unexpectedEnd
  | badGroupName (name : String)
  | unknownGroupName (name : String)
  | redefinedGroupName (name : String) (index earlier : Nat)
  | unknownExtension (text : String)
  | unterminatedComment
  | unterminatedGroup
  | tooManyBranches
  | groupNumberZero
  | lateGlobalFlags
  | localeFlag
  | incompatibleFlags
  | unknownFlag
  | globalFlagOn
  | globalFlagOff
  | typeFlagOff
  | flagOnAndOff
  | unbalancedParenthesis
  | lookBehindNotFixed
  | templateRepeat (operator : String)
deriving DecidableEq, Repr

def Problem.message : Problem → String
  | danglingBackslash => "bad escape (end of pattern)"
  | incompleteEscape e => "incomplete escape " ++ e
  | badEscape e => "bad escape " ++ e
  | missing what => "missing " ++ what
  | unterminatedName t => "missing " ++ t ++ ", unterminated name"
  | unknownCharacterName n => "undefined character name " ++ Text.quoted n
  | octalOutOfRange e => "octal escape value " ++ e ++ " outside of range 0-0o377"
  | openGroupReference => "cannot refer to an open group"
  | groupInSameLookBehind => "cannot refer to group defined in the same lookbehind subpattern"
  | invalidGroupReference n => "invalid group reference " ++ n.repr
  | unterminatedSet => "unterminated character set"
  | badRange a b => "bad character range " ++ a ++ "-" ++ b
  | emptyRepeatRange => "min repeat greater than max repeat"
  | nothingToRepeat => "nothing to repeat"
  | multipleRepeat => "multiple repeat"
  | unexpectedEnd => "unexpected end of pattern"
  | badGroupName n => "bad character in group name " ++ Text.quoted n
  | unknownGroupName n => "unknown group name " ++ Text.quoted n
  | redefinedGroupName n i e =>
    "redefinition of group name " ++ Text.quoted n ++ " as group " ++ i.repr ++ "; was group " ++
      e.repr
  | unknownExtension t => "unknown extension " ++ t
  | unterminatedComment => "missing ), unterminated comment"
  | unterminatedGroup => "missing ), unterminated subpattern"
  | tooManyBranches => "conditional backref with more than two branches"
  | groupNumberZero => "bad group number"
  | lateGlobalFlags => "global flags not at the start of the expression"
  | localeFlag => "bad inline flags: cannot use 'L' flag with a str pattern"
  | incompatibleFlags => "bad inline flags: flags 'a', 'u' and 'L' are incompatible"
  | unknownFlag => "unknown flag"
  | globalFlagOn => "bad inline flags: cannot turn on global flag"
  | globalFlagOff => "bad inline flags: cannot turn off global flag"
  | typeFlagOff => "bad inline flags: cannot turn off flags 'a', 'u' and 'L'"
  | flagOnAndOff => "bad inline flags: flag turned on and off"
  | unbalancedParenthesis => "unbalanced parenthesis"
  | lookBehindNotFixed => "look-behind requires fixed-width pattern"
  | templateRepeat op => "internal: unsupported template operator " ++ op

/-- A mistake and, for those that have one, its place in the text. -/
structure Mistake where
  /-- What is wrong. -/
  problem : Problem
  /-- The text of the expression. -/
  source : List Char
  /-- The number of characters before the place. -/
  position : Option Nat
deriving DecidableEq, Repr

/-- The number of the line that a position lies in and the number of its column, both from one. -/
def lineAndColumn (cs : List Char) (position : Nat) : Nat × Nat :=
  let before := cs.take position
  (before.count '\n' + 1, (before.reverse.takeWhile (· ≠ '\n')).length + 1)

/-- The message for a mistake: its wording and its place, by line and column too where the text has
several lines. -/
def Mistake.message (m : Mistake) : String :=
  match m.position with
  | none => m.problem.message
  | some p =>
    let place := m.problem.message ++ " at position " ++ p.repr
    if m.source.contains '\n' then
      let (line, column) := lineAndColumn m.source p
      place ++ " (line " ++ line.repr ++ ", column " ++ column.repr ++ ")"
    else place

/-- Limits that a well-formed expression can exceed. -/
inductive Limit where
  /-- A number of repetitions is too large. -/
  | repetitions
  /-- The whole expression is marked both as ASCII and as Unicode. -/
  | conflictingFlags
  /-- A numeral has too many digits. -/
  | digits (count : Nat)
  /-- The code of a character is far too large. -/
  | hugeCode
  /-- A look-behind goes back too far. -/
  | lookBehind
deriving DecidableEq, Repr

def Limit.message : Limit → String
  | repetitions => "the repetition number is too large"
  | conflictingFlags => "ASCII and UNICODE flags are incompatible"
  | digits n => Text.tooManyDigits n
  | hugeCode => "Python int too large to convert to C int"
  | lookBehind => "invalid SRE code"

/-- Why a regular expression was refused. -/
inductive Fault where
  | mistake (mistake : Mistake)
  | limit (limit : Limit)
deriving DecidableEq, Repr

def Fault.message : Fault → String
  | mistake m => m.message
  | limit l => l.message

end Motif.Regex
