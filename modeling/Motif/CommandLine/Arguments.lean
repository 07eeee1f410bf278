import Motif.CommandLine.Flag
import Motif.Document.Basic
import Motif.Text.Letter
import Motif.Text.Numeral
import Motif.Text.Split

/-!
# Reading the words of a command line

Every word is an option, a plain word or the divider `--`, after which all words are plain. A long
name can be shortened as long as it stays unique. A value follows its option as the next word, which
must be plain, or is attached to it: with an equals sign, or directly after a short name. Short
names of switches can be run together.

A divider that is attached to an option is no value: the option stands there without one.

A word that begins with a hyphen is plain only if it is a lone hyphen, a negative number, or
contains a space and is not an option. Plain words that are not the value of an option belong to
nothing, and so do words that look like options but are none; they are refused at the end, when
every other mistake has been reported.
-/

namespace Motif.CommandLine

/-! ## Mistakes -/

/-- What can be wrong with a command line. -/
inductive UsageFault where
  /-- A shortened name that could be the beginning of several names. -/
  | ambiguous (word : String) (candidates : List Flag)
  /-- A parameter without a value. -/
  | valueExpected (p : Parameter)
  /-- A switch with a value. -/
  | valueIgnored (s : Switch) (value : String)
  /-- A value that should be a number. -/
  | notNumber (p : Parameter) (value : String)
  /-- A number that should not be negative. -/
  | negative (p : Parameter) (n : Int)
  /-- A parameter that excludes another one, which came before it. -/
  | excluded (p earlier : Parameter)
  /-- Nothing to search in. -/
  | nothingToSearch
  /-- Words that belong to nothing. -/
  | unrecognized (words : List String)
deriving DecidableEq, Repr

/-- The kind of number that a parameter asks for. -/
def Parameter.numberKind : Parameter → String
  | .maxMatches => "non_negative_int"
  | _ => "int"

def aboutOption (f : Flag) (what : String) : String := "argument " ++ f.title ++ ": " ++ what

def UsageFault.message : UsageFault → String
  | ambiguous word candidates =>
    "ambiguous option: " ++ word ++ " could match " ++
      ", ".intercalate (candidates.map Flag.longName)
  | valueExpected p => aboutOption (.parameter p) "expected one argument"
  | valueIgnored s value =>
    aboutOption (.switch s) ("ignored explicit argument " ++ Text.quoted value)
  | notNumber p value =>
    aboutOption (.parameter p) ("invalid " ++ p.numberKind ++ " value: " ++ Text.quoted value)
  | negative p n => aboutOption (.parameter p) ("must be non-negative, got " ++ n.repr)
  | excluded p earlier =>
    aboutOption (.parameter p) ("not allowed with argument " ++ (Flag.parameter earlier).title)
  | nothingToSearch => "one of the arguments --text --conllu is required"
  | unrecognized words => "unrecognized arguments: " ++ " ".intercalate words

/-! ## Words -/

/-- Which name of an option is used. -/
inductive Spelling where
  | long
  | short
deriving DecidableEq, Repr

/-- What a word of the command line is. -/
inductive Word where
  /-- A value, or a word that belongs to nothing. -/
  | plain (s : String)
  /-- The divider. -/
  | divider
  /-- An option under one of its names, with the text that is attached to it. -/
  | option (spelling : Spelling) (f : Flag) (attached : Option (List Char))
  /-- A word that looks like an option and is none. -/
  | unknown (s : String)
deriving DecidableEq, Repr

/-- Whether a text consists of at least one digit. -/
def isDigits (cs : List Char) : Bool :=
  !cs.isEmpty && cs.all fun c ↦ (Text.decimalValue? c).isSome

/-- Whether a word is a negative number: a hyphen and digits, with or without a point before the
last of them. A line end after the number is allowed. -/
def isNegativeNumber : List Char → Bool
  | '-' :: cs =>
    let cs := if cs.getLast? = some '\n' then cs.dropLast else cs
    match Text.cut '.' cs with
    | (whole, none) => isDigits whole
    | (whole, some fraction) => (whole.isEmpty || isDigits whole) && isDigits fraction
  | _ => false

/-- A word that begins with a hyphen and is no option. -/
def Word.ofOther (cs : List Char) : Word :=
  if isNegativeNumber cs || cs.contains ' ' then .plain (String.ofList cs)
  else .unknown (String.ofList cs)

/-- The kind of a word that begins with two hyphens and has more. -/
def Word.ofLong (cs : List Char) : Except UsageFault Word :=
  let (name, value) := Text.cut '=' cs
  match Flag.ofLongName? (String.ofList name) with
  | some f => .ok (.option .long f value)
  | none =>
    match Flag.completions name with
    | [] => .ok (.ofOther cs)
    | [f] => .ok (.option .long f value)
    | fs => .error (.ambiguous (String.ofList cs) fs)

/-- The text after a short name, if there is one. An equals sign directly after the name does not
belong to it. -/
def attachedTo : List Char → Option (List Char)
  | [] => none
  | '=' :: cs => some cs
  | cs => some cs

def Word.ofChars : List Char → Except UsageFault Word
  | '-' :: '-' :: cs => Word.ofLong ('-' :: '-' :: cs)
  | '-' :: c :: cs =>
    match Flag.ofLetter? c with
    | some f => .ok (.option .short f (attachedTo cs))
    | none => .ok (.ofOther ('-' :: c :: cs))
  | cs => .ok (.plain (String.ofList cs))

/-- The kinds of the words of a command line. -/
def Word.ofStrings : List String → Except UsageFault (List Word)
  | [] => .ok []
  | s :: ss =>
    -- After the divider no word is an option, not even another divider.
    if s = "--" then .ok (.divider :: ss.map .plain)
    else do
      let w ← Word.ofChars s.toList
      let ws ← Word.ofStrings ss
      pure (w :: ws)

/-! ## Options in a word -/

/-- What an option asks for. -/
inductive Directive where
  | turn (s : Switch)
  /-- To set a parameter to a value, or to none if a divider was attached to it. -/
  | put (p : Parameter) (value : Option String)
deriving DecidableEq, Repr

/-- The directive of a parameter with attached text. -/
def Directive.ofAttached (p : Parameter) (cs : List Char) : Directive :=
  .put p (if cs = ['-', '-'] then none else some (String.ofList cs))

/-- What the options in one word ask for. -/
structure Cluster where
  /-- What is asked for. -/
  directives : List Directive
  /-- A parameter at the end of the word, whose value has to follow. -/
  pending : Option Parameter

def Cluster.after (s : Switch) (c : Cluster) : Cluster :=
  { c with directives := .turn s :: c.directives }

/-- What the switch `s` and the short names after it ask for. Between short names an equals sign has
no meaning of its own. -/
def Cluster.ofLetters (s : Switch) : List Char → Except UsageFault Cluster
  | [] => .ok ⟨[.turn s], none⟩
  | c :: cs =>
    match Flag.ofLetter? c with
    | none => .error (.valueIgnored s (String.ofList (c :: cs)))
    | some (.parameter p) =>
      if cs = [] then .ok ⟨[.turn s], some p⟩
      else .ok ⟨[.turn s, .ofAttached p cs], none⟩
    | some (.switch t) => do
      -- Another switch: the letters after it go on in the same way.
      let cluster ← Cluster.ofLetters t cs
      pure (cluster.after s)

/-- What an option and the short names after it ask for. -/
def Cluster.ofOption : Spelling → Flag → Option (List Char) → Except UsageFault Cluster
  | _, .switch s, none => .ok ⟨[.turn s], none⟩
  | .short, .switch s, some (c :: cs) => Cluster.ofLetters s (c :: cs)
  | _, .switch s, some cs => .error (.valueIgnored s (String.ofList cs))
  | _, .parameter p, none => .ok ⟨[], some p⟩
  | _, .parameter p, some cs => .ok ⟨[.ofAttached p cs], none⟩

/-! ## Settings -/

/-- What the user of the program has asked for. -/
structure Settings where
  /-- The texts of patterns. One can be missing. -/
  patterns : List (Option String)
  /-- The catalogue file. -/
  patternsFile : Option String
  /-- The text to search in, if one is asked for. It can be missing. -/
  text : Option (Option String)
  /-- The file with parsed sentences to search in, if one is asked for. It can be missing. -/
  conllu : Option (Option String)
  /-- The parser for the text. -/
  model : String
  /-- The largest number of matches of one pattern in one sentence. -/
  limit : Option Nat
  /-- Whether to search for reflections too. -/
  reflect : Bool
  /-- The file to write the parsed sentences to. -/
  exportTo : Option String
  /-- Whether to keep the records for debugging. -/
  verbose : Bool
  /-- The parameters for numbers that have been set to none. -/
  unset : List Parameter
deriving DecidableEq, Repr

/-- Why reading the command line came to an end before the settings were complete. -/
inductive Interruption where
  /-- The user asked how the program is used. -/
  | help
  /-- A mistake. -/
  | mistake (fault : UsageFault)
deriving DecidableEq, Repr

namespace Settings

/-- The settings of a command line without words. -/
def standard : Settings :=
  ⟨[], none, none, none, standardModel, none, false, none, false, []⟩

/-- Follows a parameter that says what to search in, unless the other one excludes it. -/
def putSource (s : Settings) (p : Parameter) (value : Option String) :
    Except UsageFault Settings :=
  if p = .text then
    if s.conllu.isSome then .error (.excluded .text .conllu) else .ok { s with text := some value }
  else if s.text.isSome then .error (.excluded .conllu .text)
  else .ok { s with conllu := some value }

/-- Follows a parameter with a value. The number of workers must be a number but makes no difference
to what is found, so it is not kept. -/
def put (s : Settings) (p : Parameter) (value : String) : Except UsageFault Settings :=
  let number : Except UsageFault Int :=
    match Text.integer? value.toList with
    | none => .error (.notNumber p value)
    | some n => .ok n
  let isSet : List Parameter := s.unset.filter (· ≠ p)
  match p with
  | .pattern => .ok { s with patterns := s.patterns ++ [some value] }
  | .patternsFile => .ok { s with patternsFile := some value }
  | .text => s.putSource .text (some value)
  | .conllu => s.putSource .conllu (some value)
  | .model => .ok { s with model := value }
  | .maxMatches => do
    let n ← number
    if n < 0 then throw (.negative .maxMatches n)
    pure { s with limit := n.toNat, unset := isSet }
  | .workers => do
    let _ ← number
    pure { s with unset := isSet }
  | .exportConllu => .ok { s with exportTo := some value }

/-- How a parser without a name is called. -/
def namelessModel : String := "[]"

def clear (s : Settings) (p : Parameter) : Except UsageFault Settings :=
  match p with
  | .pattern => .ok { s with patterns := s.patterns ++ [none] }
  | .patternsFile => .ok { s with patternsFile := none }
  | .text => s.putSource .text none
  | .conllu => s.putSource .conllu none
  | .model => .ok { s with model := namelessModel }
  | .maxMatches => .ok { s with unset := .maxMatches :: s.unset }
  | .workers => .ok { s with unset := .workers :: s.unset }
  | .exportConllu => .ok { s with exportTo := none }

def follow (s : Settings) : Directive → Except Interruption Settings
  | .turn .help => .error .help
  | .turn .reflect => .ok { s with reflect := true }
  | .turn .verbose => .ok { s with verbose := true }
  | .put p (some value) => (s.put p value).mapError .mistake
  | .put p none => (s.clear p).mapError .mistake

/-- The directives of a word and of the value after it, and the words after them. -/
def takeOption (c : Cluster) (ws : List Word) :
    Except UsageFault (List Directive × List Word) :=
  match c.pending, ws with
  | none, ws => .ok (c.directives, ws)
  | some p, .plain value :: ws => .ok (c.directives ++ [.put p (some value)], ws)
  | some p, _ => .error (.valueExpected p)

theorem length_le_of_takeOption {c : Cluster} {ws rest : List Word} {ds : List Directive}
    (h : takeOption c ws = .ok (ds, rest)) :
    rest.length ≤ ws.length := by
  unfold takeOption at h
  split at h
  · cases h
    exact Nat.le_refl _
  · cases h
    simp
  · cases h

/-- Follows the words of a command line. The words that belong to nothing are collected. -/
def followWords (s : Settings) (extra : List String) :
    List Word → Except Interruption (Settings × List String)
  | [] => .ok (s, extra)
  | .plain word :: ws => followWords s (extra ++ [word]) ws
  | .divider :: ws => followWords s (extra ++ ["--"]) ws
  | .unknown word :: ws => followWords s (extra ++ [word]) ws
  | .option spelling f attached :: ws => do
    let cluster ← (Cluster.ofOption spelling f attached).mapError .mistake
    match h : takeOption cluster ws with
    | .error fault => .error (.mistake fault)
    | .ok (ds, rest) => do
      let s ← ds.foldlM follow s
      have := length_le_of_takeOption h
      followWords s extra rest
termination_by ws => ws.length

/-- The settings that a command line asks for. -/
def read (words : List String) : Except Interruption Settings := do
  let ws ← (Word.ofStrings words).mapError .mistake
  let (s, extra) ← followWords standard [] ws
  -- What is missing is reported before what is too much.
  if s.text.isNone && s.conllu.isNone then throw (.mistake .nothingToSearch)
  if !extra.isEmpty then throw (.mistake (.unrecognized extra))
  pure s

end Settings

end Motif.CommandLine
