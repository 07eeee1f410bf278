import Motif.Text.Quoted

/-!
# Options of the command line

An option is a switch, which stands alone, or a parameter, which is followed by a value. Options
have long names, which begin with two hyphens, and some have a short one, a hyphen and a letter.
-/

namespace Motif.CommandLine

/-- The options that stand alone. -/
inductive Switch where
  /-- Show how the program is used. -/
  | help
  /-- Also search for the reflections of all patterns. -/
  | reflect
  /-- Keep the records for debugging. -/
  | verbose
deriving DecidableEq, Repr

/-- The options that are followed by a value. -/
inductive Parameter where
  /-- The text of a pattern. -/
  | pattern
  /-- A catalogue file. -/
  | patternsFile
  /-- A text to search in. -/
  | text
  /-- A file with parsed sentences to search in. -/
  | conllu
  /-- The parser for the text. -/
  | model
  /-- The largest number of matches of one pattern in one sentence. -/
  | maxMatches
  /-- The number of sentences that are searched at a time. -/
  | workers
  /-- A file to write the parsed sentences to. -/
  | exportConllu
deriving DecidableEq, Repr

/-- The options. -/
inductive Flag where
  | switch (s : Switch)
  | parameter (p : Parameter)
deriving DecidableEq, Repr

namespace Flag

/-- The short name of an option, if it has one: the letter after the hyphen. -/
def letter? : Flag → Option Char
  | switch .help => some 'h'
  | parameter .pattern => some 'p'
  | switch .verbose => some 'v'
  | _ => none

/-- The long name of an option, without the hyphens. -/
def word : Flag → String
  | switch .help => "help"
  | switch .reflect => "reflect"
  | switch .verbose => "verbose"
  | parameter .pattern => "pattern"
  | parameter .patternsFile => "patterns-file"
  | parameter .text => "text"
  | parameter .conllu => "conllu"
  | parameter .model => "model"
  | parameter .maxMatches => "max-matches"
  | parameter .workers => "workers"
  | parameter .exportConllu => "export-conllu"

/-- The long name of an option with its hyphens. -/
def longName (f : Flag) : String := "--" ++ f.word

/-- The names of an option, the short one before the long one. -/
def names (f : Flag) : List String :=
  (f.letter?.map fun c ↦ String.ofList ['-', c]).toList ++ [f.longName]

def title (f : Flag) : String := "/".intercalate f.names

/-- The options in the order in which they are listed. -/
def all : List Flag :=
  [switch .help, parameter .pattern, parameter .patternsFile, parameter .text, parameter .conllu,
    parameter .model, parameter .maxMatches, parameter .workers, switch .reflect,
    parameter .exportConllu, switch .verbose]

theorem mem_all (f : Flag) : f ∈ all := by
  cases f with
  | switch s => cases s <;> decide
  | parameter p => cases p <;> decide

def ofLetter? (c : Char) : Option Flag := all.find? fun f ↦ f.letter? = some c

def ofLongName? (name : String) : Option Flag := all.find? fun f ↦ f.longName = name

/-- The options whose long names begin with a given text. -/
def completions (start : List Char) : List Flag :=
  all.filter fun f ↦ start.isPrefixOf f.longName.toList

end Flag

end Motif.CommandLine
