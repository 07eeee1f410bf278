import Motif.Calendar
import Motif.Text.Numeral

/-!
# What can be wrong with a YAML text

A text with a mistake is not YAML. A text without mistakes can still say something that has no
value: a number that is none, a day that no month has, a character that does not exist.
-/

namespace Motif.Yaml

/-- Why a text is not a YAML document. -/
inductive Mistake where
  /-- A character that no text may have. -/
  | specialCharacter (c : Char)
  /-- A character that begins nothing. -/
  | unexpectedCharacter (c : Char)
  /-- A quoted text does not end. -/
  | unclosedQuote
  /-- A backslash is followed by something unknown. -/
  | unknownEscape
  /-- The line that begins a block text has something else on it. -/
  | badBlockHeader
  /-- An anchor or alias has no name, or a tag is malformed. -/
  | badName
  /-- A line with a percent sign is malformed, repeats another one or asks for another version. -/
  | badDirective
  /-- The beginning of a tag is not declared. -/
  | unknownHandle (handle : String)
  /-- An entry, a key or a value where there can be none. -/
  | misplaced (what : String)
  /-- What has to be a key has no value. -/
  | keyWithoutValue
  /-- Something else was expected. -/
  | expected (what : String)
  /-- An alias without an anchor, or an anchor that is there already. -/
  | badReference (name : String)
  /-- A key of a mapping is a collection. -/
  | compositeKey
  /-- A tag that has no meaning here. -/
  | unknownTag (tag : String)
  /-- A text has characters that are no letters of the code for bytes, or too few of them. -/
  | badBytes
deriving DecidableEq, Repr

def Mistake.message : Mistake → String
  | specialCharacter c => "special characters are not allowed: " ++ Text.quoted c.toString
  | unexpectedCharacter c =>
    "found character " ++ Text.quoted c.toString ++ " that cannot start any token"
  | unclosedQuote => "found unexpected end of a quoted text"
  | unknownEscape => "found unknown escape character"
  | badBlockHeader => "expected chomping or indentation indicators"
  | badName => "expected a name"
  | badDirective => "found an unknown directive"
  | unknownHandle handle => "found undefined tag handle " ++ Text.quoted handle
  | misplaced what => what ++ " are not allowed here"
  | keyWithoutValue => "could not find expected ':'"
  | expected what => "expected " ++ what
  | badReference name => "found undefined or duplicate name " ++ Text.quoted name
  | compositeKey => "found unhashable key"
  | unknownTag tag => "could not determine a constructor for the tag " ++ Text.quoted tag
  | badBytes => "failed to decode base64 data"

/-- Why what a text says has no value. -/
inductive ContentFault where
  /-- A number has nothing after its sign. -/
  | emptyNumber
  /-- A text is no truth value. -/
  | unknownTruth (s : String)
  /-- A text is no whole number. -/
  | numeral (fault : Text.NumeralFault)
  /-- A text is no number with a point. -/
  | decimal (s : String)
  /-- A number to the base sixty has too many parts. -/
  | tooManyParts
  /-- Numbers make no date or moment. -/
  | calendar (fault : Calendar.Fault)
  /-- A text is no date or moment. -/
  | noTimestamp
  /-- A mapping stands for a date or moment. -/
  | compositeTimestamp
  /-- No character has a code. -/
  | noCharacter
  /-- A code is far too large. -/
  | hugeCode
  /-- The value of a mapping is the value of itself. -/
  | endless
deriving DecidableEq, Repr

def ContentFault.message : ContentFault → String
  | emptyNumber => "string index out of range"
  | unknownTruth s => Text.quoted s
  | numeral fault => fault.message
  | decimal s => "could not convert string to float: " ++ Text.quoted s
  | tooManyParts => "int too large to convert to float"
  | calendar fault => fault.message
  | noTimestamp => "'NoneType' object has no attribute 'groupdict'"
  | compositeTimestamp => "expected string or bytes-like object, got 'list'"
  | noCharacter => "chr() arg not in range(0x110000)"
  | hugeCode => "Python int too large to convert to C int"
  | endless => "maximum recursion depth exceeded"

/-- Why a text has no value. -/
inductive Fault where
  | mistake (m : Mistake)
  | content (fault : ContentFault)
deriving DecidableEq, Repr

def Fault.message : Fault → String
  | mistake m => m.message
  | content fault => fault.message

instance : Coe Mistake Fault := ⟨.mistake⟩

instance : Coe ContentFault Fault := ⟨.content⟩

end Motif.Yaml
