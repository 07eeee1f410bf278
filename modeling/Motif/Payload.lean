import Motif.Token

/-!
# What the vertices of a graph carry

Graphs are built over any type of vertices. Node tests read *fields* of a vertex, and not every kind
of vertex has every field: asking for one that is missing is a fault of the test at that vertex, not
a failure to match. `Payload` is the class of types whose values can be shown and read in this way;
`Vertex` is the type of vertices that are tokens, plain texts or numbers.
-/

namespace Motif

/-- The fields that node tests can read. -/
inductive Field where
  | form
  | tag
  | chunk
  | lemmaForm
  | position
deriving DecidableEq, Repr

/-- The name of a field, as messages give it. -/
def Field.name : Field → String
  | form => "string"
  | tag => "postag"
  | chunk => "chunk"
  | lemmaForm => "lemma"
  | position => "index"

/-- What can go wrong when a value is read. How values are read is open, and so are the ways in
which this can fail. -/
inductive FieldFault where
  /-- A value of this kind has no such field. -/
  | noField (kind field : String)
  /-- A failure of another kind. -/
  | raised (kind message : String)
  /-- There is no next value to be read, for a reader that takes its values from a sequence. -/
  | exhausted (kind message : String)
  /-- There was no next value for a reader that was asked in a sequence itself. -/
  | interrupted (kind message : String)
deriving DecidableEq, Repr

namespace FieldFault

def message : FieldFault → String
  | noField kind field => "'" ++ kind ++ "' object has no attribute '" ++ field ++ "'"
  | raised _ message => message
  | exhausted _ message => message
  | interrupted _ _ => "generator raised StopIteration"

/-- A fault as it leaves a sequence that is produced on demand. There, to be exhausted would mean
that the sequence has come to its regular end, so this fault alone does not leave it as it is. -/
def inSequence : FieldFault → FieldFault
  | exhausted kind message => interrupted kind message
  | fault => fault

@[simp] theorem inSequence_inSequence (fault : FieldFault) :
    fault.inSequence.inSequence = fault.inSequence := by
  cases fault <;> rfl

end FieldFault

/-- What is read from a vertex. -/
inductive Reading where
  /-- No value. -/
  | absent
  /-- A text. -/
  | text (s : String)
  /-- A number. -/
  | number (n : Int)
  /-- Bytes, which are no text. -/
  | bytes (content : List UInt8)
  /-- A value of another kind, which is not empty, equals no text and has no case. -/
  | other (kind : String)
deriving DecidableEq, Repr

namespace Reading

def isText (r : Reading) (s : String) : Bool := r == .text s

/-- The value in lower case. The absent value, the number zero and what is empty all count as the
empty text; another number or value has no case. -/
def lower : Reading → Except FieldFault Reading
  | absent => .ok (text "")
  | text s => .ok (text (Text.lower s))
  | number n => if n = 0 then .ok (text "") else .error (.noField "int" "lower")
  | bytes [] => .ok (text "")
  | bytes content => .ok (bytes (content.map fun b ↦ if 65 ≤ b ∧ b ≤ 90 then b + 32 else b))
  | other kind => .error (.noField kind "lower")

end Reading

/-- Types of vertices that can be shown and read. -/
class Payload (V : Type) extends Display V where
  /-- The kind of a vertex, as messages give it. -/
  kind : V → String
  /-- What a vertex is called in an explanation. -/
  caption : V → String
  /-- The value of a field. -/
  read : V → Field → Except FieldFault Reading
  /-- The vertex itself as a value. -/
  itself : V → Reading

def Token.field (t : Token) : Field → Reading
  | .form => .text t.form
  | .tag => .text t.tag
  | .chunk => .text t.chunk
  | .lemmaForm => .text t.lemmaForm
  | .position => .number t.position

instance : Payload Token where
  kind _ := "Token"
  caption t := t.form
  read t f := .ok (t.field f)
  itself _ := .other "Token"

/-- A vertex that is a token, a plain text or a number. -/
inductive Vertex where
  | token (t : Token)
  | text (s : String)
  | number (n : Int)
deriving DecidableEq, Repr

namespace Vertex

def kind : Vertex → String
  | token _ => "Token"
  | text _ => "str"
  | number _ => "int"

/-- The value of a field. A text has no fields but is able to tell an index, which is a value of its
own kind. -/
def field (v : Vertex) (f : Field) : Except FieldFault Reading :=
  match v with
  | token t => .ok (t.field f)
  | text _ =>
    if f = .position then .ok (.other "builtin_function_or_method")
    else .error (.noField v.kind f.name)
  | number _ => .error (.noField v.kind f.name)

instance : Payload Vertex where
  text
    | token t => Display.text t
    | text s => s
    | number n => Display.text n
  quoted
    | token t => Display.quoted t
    | text s => Display.quoted s
    | number n => Display.quoted n
  kind := kind
  caption
    | token t => t.form
    | text s => s
    | number n => Display.text n
  read := field
  itself
    | token _ => .other "Token"
    | text s => .text s
    | number n => .number n

end Vertex

/-- A way to read a value from a vertex. -/
inductive Accessor where
  /-- The value of a field. -/
  | field (f : Field)
  /-- The vertex itself. -/
  | itself
  /-- No value, whatever the vertex. -/
  | nothing
  /-- A field of the given name, which no vertex has. -/
  | unavailable (name : String)
deriving DecidableEq, Repr

def Accessor.read {V : Type} [Payload V] (a : Accessor) (v : V) : Except FieldFault Reading :=
  match a with
  | field f => Payload.read v f
  | itself => .ok (Payload.itself v)
  | nothing => .ok .absent
  | unavailable name => .error (.noField (Payload.kind v) name)

end Motif
