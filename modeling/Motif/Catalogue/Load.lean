import Motif.Catalogue.Basic
import Motif.File
import Motif.Text.Lines
import Motif.Yaml.Assembly

/-!
# Loading catalogues

A catalogue file is a YAML mapping whose key `patterns` has a sequence of entries:

```text
patterns:
  - id: subject
    pattern: "{rel} >nsubj> {arg}"
    description: clause with a subject
```

An entry without an id or a pattern is reported and skipped, and so is one whose text is no pattern
or whose id is in use. Other faults end the loading; what was registered before stays registered.
-/

namespace Motif.Catalogue

/-- Why the loading of a file came to an end. -/
inductive LoadFault where
  /-- The file cannot be read. -/
  | file (fault : FileFault)
  /-- The text of the file is not YAML. -/
  | yaml (fault : Yaml.Fault)
  /-- The file does not hold a mapping. -/
  | noMapping (fault : FieldFault)
  /-- What should be a sequence of entries has no items. -/
  | noItems (kind : String)
  /-- An entry was refused in a way that cannot be skipped. -/
  | add (fault : AddFault)
deriving DecidableEq

def LoadFault.message : LoadFault → String
  | file fault => fault.message
  | yaml fault => fault.message
  | noMapping fault => fault.message
  | noItems kind => "'" ++ kind ++ "' object is not iterable"
  | add fault => fault.message

/-! ## Entries of a file -/

/-- The items of a value: the items of a sequence or a pair, the keys of a mapping, the elements of
a set, the characters of a text or the numbers of bytes. -/
def itemsOf : Yaml.Value → Except LoadFault (List Yaml.Value)
  | .list label items => .ok (Yaml.Value.items label items)
  | .map _ entries => .ok (entries.map fun e ↦ .scalar e.1)
  | .set elements => .ok (elements.map .scalar)
  | .pair a b => .ok [a, b]
  | .scalar (.text s) => .ok (s.toList.map fun c ↦ .text (String.ofList [c]))
  | .scalar (.bytes bs) => .ok (bs.map fun (n : Nat) ↦ .scalar (.number n))
  | v => .error (.noItems v.kind)

/-- The entries that a file lists. A file that holds nothing lists none. -/
def listed (file : Yaml.Value) : Except LoadFault (List Yaml.Value) :=
  if file.isGiven then
    match file with
    | .map label fields =>
      match Yaml.Value.find? label fields (.text "patterns") with
      | some v => itemsOf v
      | none => .ok []
    | v => .error (.noMapping (.noField v.kind "get"))
  else .ok []

/-- An entry of a file. -/
structure Listing where
  id : Yaml.Value
  pattern : Yaml.Value
  description : Yaml.Value

/-- The entry that a value stands for, which must be a mapping with an id and a pattern. -/
def Listing.ofValue? : Yaml.Value → Option Listing
  | .map label fields => do
    let field (name : String) : Option Yaml.Value :=
      Yaml.Value.find? label fields (.text name)
    let id ← (field "id").filter Yaml.Value.isGiven
    let pattern ← (field "pattern").filter Yaml.Value.isGiven
    pure ⟨id, pattern, (field "description").getD (.text "")⟩
  | _ => none

/-! ## Loading -/

/-- Whether an entry that is refused with a fault is reported and skipped. -/
def AddFault.isSkipped : AddFault → Bool
  | duplicateId _ => true
  | text (.syntax' _) => true
  | text (.limit .repetitions) => false
  | text (.limit .hugeCode) => false
  | text (.limit .lookBehind) => false
  | text (.limit _) => true
  | compositeId _ => false
  | noPattern _ => false
  | unshowable _ => true

/-- The report of an entry without an id or a pattern. -/
def incompleteRecord (source : String) (index : Nat) : Record :=
  ⟨.warning, .catalogue, "Skipping entry " ++ index.repr ++ " in " ++ source ++
    ": needs 'id' and 'pattern'"⟩

/-- The report of an entry that is refused. -/
def refusedRecord (id : Yaml.Value) (fault : AddFault) : Except Yaml.Unshowable Record := do
  pure ⟨.warning, .catalogue, "Failed to add pattern " ++ (← id.shown?) ++ ": " ++ fault.message⟩

/-- The report of the number of patterns that were registered. -/
def loadedRecord (source : String) (count : Nat) : Record :=
  ⟨.info, .catalogue, "Loaded " ++ count.repr ++ " patterns from " ++ source⟩

variable {V : Type}

/-- Adds one entry of a file, unless it is skipped, and tells whether it was registered. -/
def loadEntry (c : Catalogue V) (source : String) (index : Nat) (v : Yaml.Value) :
    Change V AddFault Bool :=
  match Listing.ofValue? v with
  | none => ⟨c, [incompleteRecord source index], .ok false⟩
  | some l =>
    let change := c.add l.id (.ofValue l.pattern) l.description
    match change.outcome with
    | .ok _ => change
    | .error fault =>
      if fault.isSkipped then
        match refusedRecord l.id fault with
        | .ok record => ⟨change.catalogue, change.records ++ [record], .ok false⟩
        | .error fault => ⟨change.catalogue, change.records, .error (.unshowable fault)⟩
      else change

/-- Adds the entries of a file, of which `index` were there before, and counts those that were
registered. -/
def loadEntries (c : Catalogue V) (source : String) (index count : Nat) :
    List Yaml.Value → Change V AddFault Nat
  | [] => c.unchanged (.ok count)
  | v :: vs =>
    (c.loadEntry source index v).andThen fun c added ↦
      loadEntries c source (index + 1) (if added then count + 1 else count) vs

/-- Adds the entries that a file lists, reports their number and gives it. -/
def loadValue (c : Catalogue V) (source : String) (file : Yaml.Value) : Change V LoadFault Nat :=
  match listed file with
  | .error fault => c.unchanged (.error fault)
  | .ok vs =>
    ((c.loadEntries source 0 0 vs).mapFault .add).andThen fun c count ↦
      ⟨c, [loadedRecord source count], .ok count⟩

/-- Loads a catalogue file and gives the number of patterns that were registered. -/
def load (c : Catalogue V) (files : Files) (name : String) : Change V LoadFault Nat :=
  match files name with
  | .error fault => c.unchanged (.error (.file fault))
  | .ok text =>
    match Yaml.read (Text.withUnifiedNewlines text) with
    | .error fault => c.unchanged (.error (.yaml fault))
    | .ok file => c.loadValue name file

end Motif.Catalogue
