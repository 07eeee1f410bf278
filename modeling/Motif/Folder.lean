import Motif.File
import Motif.Text.Split

/-!
# Folders in memory

A folder holds texts under names that may lead through inner folders, as `data/words`. A name is
followed part by part: each part but the last has to lead to a folder, an empty part and a single
point lead nowhere else, and two points lead outwards. What lies outside of the folder is not known,
apart from the usual places of the system that names with a leading slash can lead to.
-/

namespace Motif

/-- A folder of texts. -/
structure Folder where
  /-- The names of the texts, by their parts, and the texts. -/
  texts : List (List String × String)

namespace Folder

/-- The parts of a name between its slashes. -/
def parts (name : String) : List String := (Text.split '/' name.toList).map String.ofList

/-- The parts of a name that lead somewhere else. -/
def steps (name : String) : List String := (parts name).filter fun part ↦ part ≠ "" ∧ part ≠ "."

def ofList (texts : List (String × String)) : Folder :=
  ⟨texts.map fun t ↦ (steps t.1, t.2)⟩

/-- The folder after a text has been written under a name. -/
def write (f : Folder) (name text : String) : Folder := ⟨(steps name, text) :: f.texts⟩

/-- The places of the system: an inner folder for devices, of which one is always empty, and one for
passing files. -/
def system : Folder := ⟨[(["dev", "null"], ""), (["tmp", ""], "")]⟩

/-- Where the first parts of a name lead. -/
inductive Place where
  /-- To a text. -/
  | text (s : String)
  /-- To an inner folder, or to the folder itself. -/
  | folder (f : Folder) (path : List String)
  /-- To a folder that is not known. -/
  | outside

/-- The longest part of a name, in bytes. -/
def maxPartLength : Nat := 255

/-- The longest name, in bytes. -/
def maxNameLength : Nat := 4095

/-- Follows one more part of a name, which is given for the faults. -/
def Place.follow (name : String) (p : Place) (part : String) : Except FileFault Place :=
  match p with
  | .text _ => .error (.noDirectory name)
  | .folder f path =>
    if part = "" ∨ part = "." then .ok p
    else if part = ".." then .ok (if path = [] then .outside else .folder f path.dropLast)
    else if part.utf8ByteSize > maxPartLength then .error (.longName name)
    else
      let path := path ++ [part]
      match f.texts.lookup path with
      | some s => .ok (.text s)
      | none =>
        if f.texts.any fun t ↦ path.isPrefixOf t.1 then .ok (.folder f path)
        else .error (.missing name)
  | .outside =>
    if part = "" ∨ part = "." ∨ part = ".." then .ok .outside
    else if part.utf8ByteSize > maxPartLength then .error (.longName name)
    else .error (.missing name)

/-- Checks a name as a whole and tells where following it begins. -/
def beginning (f : Folder) (name : String) : Except FileFault Place :=
  if name.toList.contains (Char.ofNat 0) then .error .nullCharacter
  else if name = "" then .error (.missing name)
  else if name.utf8ByteSize > maxNameLength then .error (.longName name)
  else .ok (.folder (if name.toList.head? = some '/' then system else f) [])

def read (f : Folder) : Files := fun name ↦ do
  match ← (parts name).foldlM (Place.follow name) (← f.beginning name) with
  | .text s => pure s
  | _ => throw (.directory name)

/-- Why nothing can be written under a name. A name that ends in a slash is meant for a folder,
whatever it leads to. -/
def writeFault? (f : Folder) (name : String) : Option FileFault :=
  let outcome : Except FileFault Unit := do
    let start ← f.beginning name
    let all := parts name
    let named := (all.reverse.dropWhile (· = "")).reverse
    let last := named.getLast?.getD "."
    match ← named.dropLast.foldlM (Place.follow name) start with
    | .text _ => throw (.noDirectory name)
    | around =>
      if named ≠ all ∨ last = "." ∨ last = ".." then throw (.directory name)
      match around.follow name last with
      | .ok (.text _) => pure ()
      -- What is not there yet can be written.
      | .error (.missing _) => pure ()
      | .ok _ => throw (.directory name)
      | .error fault => throw fault
  match outcome with
  | .ok () => none
  | .error fault => some fault

end Folder

end Motif
