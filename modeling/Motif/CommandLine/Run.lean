import Motif.Catalogue.Load
import Motif.Catalogue.Reflection
import Motif.Catalogue.Search
import Motif.CommandLine.Arguments
import Motif.CommandLine.Usage
import Motif.Conllu.Graph

/-!
# Running a command line

A run fills a catalogue from the command line and from a file, shows it, gets sentences from a file
or by parsing a text, writes them to a file if asked to, and explains the matches in every sentence.

A run ends by being finished, with a complaint to the user, or with a fault that is not the user's
to mend. What it has shown, reported and written until then stays.
-/

namespace Motif.CommandLine

/-! ## What a run depends on and what it leaves -/

/-- What a run finds around it. -/
structure Surroundings where
  /-- The name of the program. -/
  program : String
  /-- What names of files lead to. -/
  files : Files
  /-- Why no file can be written under a name. -/
  writeFault? : String → Option FileFault
  /-- The installed parsers. -/
  models : Models

/-- What a run has done. -/
structure Transcript where
  /-- The lines that were shown. -/
  lines : List String
  /-- The records that were made. -/
  records : List Record
  /-- The files that were written. -/
  written : List (String × String)

/-- The transcript of a run that has done nothing. -/
def Transcript.blank : Transcript := ⟨[], [], []⟩

/-- What the user is told to mend. -/
inductive Complaint where
  /-- A mistake on the command line. -/
  | usage (fault : UsageFault)
  /-- A mistake in the text of a pattern. -/
  | pattern (error : SyntaxError)
  /-- The catalogue file is not there. -/
  | catalogueFile (fault : FileFault)
  /-- The catalogue file is not YAML. -/
  | catalogueText (mistake : Yaml.Mistake)
  /-- There is nothing to search for. -/
  | noPatterns
  /-- The file with sentences is not there. -/
  | sentences (fault : FileFault)
deriving DecidableEq

namespace Complaint

/-- The number that a run with a complaint ends with. -/
def code : Complaint → Nat
  | usage _ => 2
  | pattern _ => 2
  | catalogueFile _ => 1
  | catalogueText _ => 1
  | noPatterns => 2
  | sentences _ => 1

def lines (program : String) : Complaint → List String
  | usage fault => CommandLine.usage program ++ [program ++ ": error: " ++ fault.message]
  | pattern error => ["Error: " ++ error.message]
  | catalogueFile fault => ["Error: cannot read patterns file: " ++ fault.message]
  | catalogueText mistake => ["Error: cannot read patterns file: " ++ mistake.message]
  | noPatterns => ["Error: no patterns given (use --pattern or --patterns-file)"]
  | sentences fault => ["Error: " ++ fault.message]

end Complaint

/-- A fault that is not the user's to mend. -/
inductive RunFault where
  /-- The catalogue could not be filled. -/
  | add (fault : Catalogue.AddFault)
  /-- The catalogue file could not be loaded. -/
  | load (fault : Catalogue.LoadFault)
  /-- The file with sentences could not be loaded. -/
  | sentences (fault : Conllu.LoadFault)
  /-- The parser is not installed. -/
  | model (fault : MissingModel)
  /-- The text could not be parsed. -/
  | process (fault : ProcessFault)
  /-- The file could not be written. -/
  | exporting (fault : FileFault)
  /-- The search failed. -/
  | search (fault : Catalogue.SearchError Token)
  /-- A parameter for a number has been set to none, which cannot be compared. -/
  | unset (p : Parameter)
  /-- The text to search in is missing. -/
  | missingText
  /-- Something could not be shown. -/
  | unshowable (fault : Yaml.Unshowable)
  /-- An id consists of bytes, which cannot be filled up to a width. -/
  | paddedBytes
deriving DecidableEq

def RunFault.message : RunFault → String
  | add fault => fault.message
  | load fault => fault.message
  | sentences fault => fault.message
  | model fault => fault.message
  | process fault => fault.message
  | exporting fault => fault.message
  | search fault => fault.message
  | unset .workers => "'<=' not supported between instances of 'list' and 'int'"
  | unset _ => "'<' not supported between instances of 'list' and 'int'"
  | missingText => "unhashable type: 'list'"
  | unshowable fault => fault.message
  | paddedBytes => "unsupported format string passed to bytes.__format__"

/-- How a run ends before its time. -/
inductive Ending where
  /-- There was no more to do. -/
  | finished
  /-- The user has something to mend. -/
  | refused (complaint : Complaint)
  /-- A fault that is not the user's to mend. -/
  | failed (fault : RunFault)
deriving DecidableEq

abbrev Run := ExceptT Ending (StateM Transcript)

namespace Run

variable {ε α : Type}

def put (lines : List String) : Run Unit :=
  modify fun t ↦ { t with lines := t.lines ++ lines }

def write (records : List Record) : Run Unit :=
  modify fun t ↦ { t with records := t.records ++ records }

/-- Goes on with a result, or ends in the way that a fault asks for. -/
def ofExcept (ending : ε → Ending) : Except ε α → Run α
  | .ok a => pure a
  | .error fault => throw (ending fault)

/-- Takes in the records of a journaled operation and goes on with its result. -/
def ofJournaled (ending : ε → Ending) (x : Journaled ε α) : Run α := do
  write x.result.2
  ofExcept ending x.result.1

end Run

/-! ## The catalogue -/

/-- Why a catalogue could not be filled. -/
inductive FillFault where
  /-- A pattern could not be added. -/
  | add (fault : Catalogue.AddFault)
  /-- The catalogue file could not be loaded. -/
  | load (fault : Catalogue.LoadFault)
deriving DecidableEq

/-- How a run ends whose catalogue could not be filled. -/
def FillFault.ending : FillFault → Ending
  | add (.text (.syntax' error)) => .refused (.pattern error)
  | add fault => .failed (.add fault)
  | load (.file (.missing name)) => .refused (.catalogueFile (.missing name))
  | load (.yaml (.mistake m)) => .refused (.catalogueText m)
  | load fault => .failed (.load fault)

section Filling

variable {V : Type}

/-- The id of a pattern of the command line. -/
def patternId (number : Nat) : Yaml.Value := .text ("pattern_" ++ number.repr)

/-- A pattern of the command line. What is missing counts as an empty sequence. -/
def candidate : Option String → Catalogue.Candidate V
  | some s => .text s
  | none => .value (.list none [])

/-- Adds the patterns of a command line, numbered from the given number. -/
def addPatterns (c : Catalogue V) (number : Nat) :
    List (Option String) → Catalogue.Change V Catalogue.AddFault Unit
  | [] => c.unchanged (.ok ())
  | s :: ss =>
    (c.add (patternId number) (candidate s) (.text "")).andThen fun c _ ↦
      addPatterns c (number + 1) ss

/-- Loads the catalogue file of a command line, if it has one. -/
def addFile (files : Files) (c : Catalogue V) (name : Option String) :
    Catalogue.Change V Catalogue.LoadFault Nat :=
  match name.filter (· ≠ "") with
  | none => c.unchanged (.ok 0)
  | some name => c.load files name

/-- Fills a catalogue: the patterns of the command line, those of the catalogue file, and, if they
are asked for, the reflections of them all. -/
def Settings.fill (s : Settings) (files : Files) (c : Catalogue V) :
    Catalogue.Change V FillFault Unit :=
  ((addPatterns c 1 s.patterns).mapFault .add).andThen fun c _ ↦
    ((addFile files c s.patternsFile).mapFault .load).andThen fun c _ ↦
      if s.reflect then c.addReflections.mapFault .add else c.unchanged (.ok ())

end Filling

def catalogue (around : Surroundings) (s : Settings) : Run (Catalogue Token) := do
  if s.unset.contains .maxMatches then throw (.failed (.unset .maxMatches))
  let change := s.fill around.files (.empty .standard s.limit)
  Run.write change.records
  Run.ofExcept FillFault.ending change.outcome
  if change.catalogue.size = 0 then throw (.refused .noPatterns)
  pure change.catalogue

/-! ## Sentences -/

/-- How a run ends whose file with sentences could not be loaded. -/
def sentencesEnding : Conllu.LoadFault → Ending
  | .file (.missing name) => .refused (.sentences (.missing name))
  | fault => .failed (.sentences fault)

/-- The graphs of the sentences to search in. -/
def sentences (around : Surroundings) (s : Settings) : Run (List (Graph Token)) :=
  match s.conllu.join.filter (· ≠ "") with
  | some name => Run.ofJournaled sentencesEnding (Conllu.load .standard around.files name)
  | none => do
    let parser ← Run.ofExcept (.failed ∘ .model) (around.models.load s.model)
    if s.text = some none then throw (.failed .missingText)
    Run.ofJournaled (.failed ∘ .process) (parser.process s.text.join)

/-- Writes the sentences to a file, if asked to. -/
def exportSentences (around : Surroundings) (s : Settings) (graphs : List (Graph Token)) :
    Run Unit := do
  match s.exportTo.filter (· ≠ "") with
  | none => pure ()
  | some name =>
    match around.writeFault? name with
    | some fault => throw (.failed (.exporting fault))
    | none =>
      let text := Conllu.renderGraphs .standard graphs
      modify fun t ↦ { t with written := t.written ++ [(name, text)] }
      Run.write [Conllu.exportRecord graphs name]

/-! ## What is shown -/

def rule (c : Char) : String := String.ofList (List.replicate 80 c)

/-- A text filled up with spaces to a width. -/
def padded (width : Nat) (s : String) : String :=
  s ++ String.ofList (List.replicate (width - s.length) ' ')

/-- The width of the ids in the list of patterns. -/
def idWidth : Nat := 25

/-- An id in the list of patterns, filled up to a width. An id that is a truth value stands there as
a number; dates and moments take the width for a way to write them. -/
def idColumn (id : Yaml.Scalar) : Except RunFault String :=
  match id with
  | .bool b => .ok (padded idWidth (if b then "1" else "0"))
  | .date _ => .ok ("<" ++ idWidth.repr)
  | .moment _ => .ok ("<" ++ idWidth.repr)
  | .bytes _ => .error .paddedBytes
  | id => (id.shown?.map (padded idWidth)).mapError .unshowable

/-- The line of an entry in the list of patterns. -/
def entryLine (e : Catalogue.Entry Token) : Except RunFault String := do
  pure ("  " ++ (← idColumn e.id) ++ " " ++ (← e.content.shown?.mapError .unshowable))

def showPatterns (c : Catalogue Token) : Run Unit := do
  Run.put [rule '=', "Patterns:"]
  c.entries.forM fun e ↦ do Run.put [← Run.ofExcept .failed (entryLine e)]
  Run.put [rule '=']

def report (c : Catalogue Token) (number : Nat) (g : Graph Token)
    (findings : List (Catalogue.Finding Token)) : Run Unit := do
  let words := (Conllu.Sentence.inOrder g).map Token.form
  Run.put ["", "Sentence " ++ number.repr ++ ": " ++ " ".intercalate words]
  if findings.isEmpty then Run.put ["  (no matches)"]
  findings.forM fun f ↦ do
    Run.put [rule '-']
    Run.put [← Run.ofExcept (.failed ∘ .unshowable) (c.explain f)]

/-- Reports on the sentences, numbered from the given number. -/
def reports (c : Catalogue Token) (number : Nat) :
    List (Graph Token × List (Catalogue.Finding Token)) → Run Unit
  | [] => pure ()
  | (g, findings) :: rest => do
    report c number g findings
    reports c (number + 1) rest

def footer (findings : List (List (Catalogue.Finding Token))) : List String :=
  ["", rule '=', findings.flatten.length.repr ++ " match(es) in " ++ findings.length.repr ++
    " sentence(s)", rule '=']

/-! ## Runs -/

def perform (around : Surroundings) (s : Settings) : Run Unit := do
  let c ← catalogue around s
  showPatterns c
  let graphs ← sentences around s
  exportSentences around s graphs
  if s.unset.contains .workers then throw (.failed (.unset .workers))
  let findings ← Run.ofJournaled (.failed ∘ .search) (c.searchAll graphs)
  reports c 1 (graphs.zip findings)
  Run.put (footer findings)

def start (around : Surroundings) (words : List String) : Run Unit :=
  match Settings.read words with
  | .error .help => Run.put (manual around.program)
  | .error (.mistake fault) => throw (.refused (.usage fault))
  | .ok s => perform around s

/-- The end of a run of a command line, and what the run has done. -/
def run (around : Surroundings) (words : List String) : Ending × Transcript :=
  let (outcome, transcript) := start around words .blank
  match outcome with
  | .ok () => (.finished, transcript)
  | .error ending => (ending, transcript)

end Motif.CommandLine
