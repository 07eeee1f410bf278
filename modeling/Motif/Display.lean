import Motif.Text.Quoted

/-!
# How values are shown

A value has a plain text, used in running text, and an unambiguous one, used in messages where the
kind of the value matters. For a text the first is the text and the second is the text in quotes.
-/

namespace Motif

/-- Types whose values can be shown. -/
class Display (α : Type) where
  /-- The plain text of a value. -/
  text : α → String
  /-- The unambiguous text of a value. -/
  quoted : α → String

instance : Display String where
  text s := s
  quoted := Text.quoted

instance : Display Int where
  text n := n.repr
  quoted n := n.repr

instance : Display Nat where
  text n := n.repr
  quoted n := n.repr

end Motif
