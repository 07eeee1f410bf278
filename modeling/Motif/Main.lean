import Motif.CommandLine.Run

/-!
# The program

Runs a command line on the files of the system. No parser is installed, so only sentences that are
parsed already can be searched.
-/

namespace Motif.CommandLine

/-- What a failed attempt to read a file says about its name. -/
def faultOf (name : String) : IO.Error → FileFault
  | .noFileOrDirectory .. => .missing name
  | .inappropriateType _ _ details =>
    if details = "not a directory" then .noDirectory name else .directory name
  | .invalidArgument .. => .longName name
  | _ => .directory name

def readName (name : String) : IO (Except FileFault String) := do
  try
    return .ok (← IO.FS.readFile name)
  catch fault => return .error (faultOf name fault)

/-- The name of the directory that a name lies in. -/
def directoryOf (name : String) : String :=
  match (name.splitOn "/").dropLast with
  | [] => "."
  | [""] => "/"
  | parts => "/".intercalate parts

/-- Why nothing can be written under a name. A name that leads nowhere can be written if it lies in
a directory. -/
def writeFault (name : String) : IO (Option FileFault) := do
  match ← readName name with
  | .ok _ => return none
  | .error (.missing _) =>
    match ← readName (directoryOf name) with
    | .error (.directory _) => return none
    | _ => return some (.missing name)
  | .error fault => return some fault

/-- What a run finds around it: of the files, those that the command line names. -/
def surroundings (program : String) (words : List String) : IO Surroundings := do
  let settings := (Settings.read words).toOption.getD .standard
  let sources := [settings.patternsFile, settings.conllu.join].filterMap id
  let texts ← sources.mapM fun name ↦ return (name, ← readName name)
  let faults ← settings.exportTo.toList.mapM fun name ↦ return (name, ← writeFault name)
  return {
    program := program
    files := fun name ↦ (texts.lookup name).getD (.error (.missing name))
    writeFault? := fun name ↦ (faults.lookup name).join
    models := fun _ ↦ none }

def recordText (r : Record) : String :=
  let severity :=
    match r.severity with
    | .debug => "DEBUG"
    | .info => "INFO"
    | .warning => "WARNING"
    | .error => "ERROR"
  let component :=
    match r.component with
    | .search => "search"
    | .catalogue => "catalogue"
    | .conllu => "conllu"
    | .documents => "documents"
  severity ++ " " ++ component ++ ": " ++ r.message

end Motif.CommandLine

open Motif.CommandLine in
def main (words : List String) : IO UInt32 := do
  let program := (← IO.appPath).fileName.getD "motif"
  let around ← surroundings program words
  let (ending, transcript) := run around words
  let verbose := (Settings.read words).toOption.any Settings.verbose
  for (name, text) in transcript.written do
    IO.FS.writeFile name text
  for r in transcript.records do
    if verbose || r.severity ≠ .debug then IO.eprintln (recordText r)
  for line in transcript.lines do
    IO.println line
  match ending with
  | .finished => return 0
  | .refused complaint =>
    for line in complaint.lines program do
      IO.eprintln line
    return complaint.code.toUInt32
  | .failed fault =>
    IO.eprintln fault.message
    return 1
