/-!
# Journals

What an operation has to say beside its result: records of a severity, from a component, in the
order in which they were made. A journaled operation keeps its records also when it fails.
-/

namespace Motif

/-- How serious a record is. -/
inductive Severity where
  | debug
  | info
  | warning
  | error
deriving DecidableEq, Repr

/-- The part of the library that a record comes from. -/
inductive Component where
  /-- Searching for the matches of one pattern. -/
  | search
  /-- Keeping named patterns. -/
  | catalogue
  /-- Reading and writing CoNLL-U. -/
  | conllu
  /-- Making graphs of parsed documents. -/
  | documents
deriving DecidableEq, Repr

/-- One record of a journal. -/
structure Record where
  severity : Severity
  component : Component
  message : String
deriving DecidableEq, Repr

/-- An operation that may fail with a fault and keeps a journal in either case. -/
abbrev Journaled (ε : Type) := ExceptT ε (StateM (List Record))

namespace Journaled

variable {ε δ α : Type}

def write (records : List Record) : Journaled ε Unit := modify (· ++ records)

def note (severity : Severity) (component : Component) (message : String) : Journaled ε Unit :=
  write [⟨severity, component, message⟩]

def ofExcept (r : Except ε α) : Journaled ε α := ExceptT.mk (pure r)

/-- The same operation with its fault seen as a fault of another kind. -/
def mapFault (f : ε → δ) (x : Journaled ε α) : Journaled δ α := fun journal ↦
  let (r, journal) := x journal
  (r.mapError f, journal)

/-- The result of an operation and its journal. -/
def result (x : Journaled ε α) : Except ε α × List Record := x []

end Journaled

end Motif
