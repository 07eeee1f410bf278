import Motif.Catalogue.Basic

/-!
# Reflections in a catalogue

A pattern and its reflection describe the same structures, read from either end. A catalogue can
take in the reflections of all its patterns, each under the id of the pattern with an ending.
-/

namespace Motif.Catalogue

variable {V : Type}

/-- The id of the reflection of the pattern with a given id. -/
def reflectionId (id : Yaml.Scalar) : Except Yaml.Unshowable Yaml.Value := do
  pure (.text ((← id.shown?) ++ "_reflection"))

/-- Adds the reflection of the pattern of an entry. -/
def addReflection (c : Catalogue V) (e : Entry V) : Change V AddFault Bool :=
  match reflectionId e.id, e.content.require "reflection" with
  | .error fault, _ => c.unchanged (.error (.unshowable fault))
  | _, .error fault => c.unchanged (.error (.noPattern fault))
  | .ok id, .ok p => c.add id (.pattern p.reflection) (.text "")

/-- Adds the reflections of the patterns of some entries. -/
def addReflectionsOf (c : Catalogue V) : List (Entry V) → Change V AddFault Unit
  | [] => c.unchanged (.ok ())
  | e :: es => (c.addReflection e).andThen fun c _ ↦ addReflectionsOf c es

def addReflections (c : Catalogue V) : Change V AddFault Unit := c.addReflectionsOf c.entries

end Motif.Catalogue
