import Motif.Text.Quoted

/-!
# Text files

What is known of the files around a program: the text that reading a name gives, or why the name
cannot be read.
-/

namespace Motif

/-- Why a file cannot be read or written. -/
inductive FileFault where
  /-- The file or its directory does not exist. -/
  | missing (name : String)
  /-- The name is that of a directory. -/
  | directory (name : String)
  /-- A part of the name in front of others is no directory. -/
  | noDirectory (name : String)
  /-- The name or a part of it is too long. -/
  | longName (name : String)
  /-- The name has a null character. -/
  | nullCharacter
deriving DecidableEq, Repr

namespace FileFault

/-- The kind of a fault, as messages give it. -/
def kind : FileFault → String
  | missing _ => "FileNotFoundError"
  | directory _ => "IsADirectoryError"
  | noDirectory _ => "NotADirectoryError"
  | longName _ => "OSError"
  | nullCharacter => "ValueError"

def message : FileFault → String
  | missing name => "[Errno 2] No such file or directory: " ++ Text.quoted name
  | directory name => "[Errno 21] Is a directory: " ++ Text.quoted name
  | noDirectory name => "[Errno 20] Not a directory: " ++ Text.quoted name
  | longName name => "[Errno 36] File name too long: " ++ Text.quoted name
  | nullCharacter => "embedded null byte"

end FileFault

/-- What reading the file of a given name gives. -/
abbrev Files := String → Except FileFault String

end Motif
