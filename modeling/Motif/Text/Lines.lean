import Motif.Text.Blank
import Motif.Text.Split

/-!
# Lines and paragraphs

A text file may end its lines in any of the three customary ways; `unifyNewlines` leaves line feeds
only. `paragraphs` are the runs of lines between blank ones.
-/

namespace Motif.Text

/-- A carriage return, alone or before a line feed, counts as a line feed. -/
def unifyNewlines : List Char → List Char
  | [] => []
  | '\r' :: '\n' :: cs => '\n' :: unifyNewlines cs
  | c :: cs => (if c = '\r' then '\n' else c) :: unifyNewlines cs

/-- The text with its lines ended by line feeds. -/
def withUnifiedNewlines (s : String) : String := String.ofList (unifyNewlines s.toList)

/-- The lines without the blanks before the first and after the last of them. -/
def trimEnds (lines : List (List Char)) : List (List Char) :=
  let lines := lines.modifyHead trimLeft
  lines.dropLast ++ (lines.getLast?.map trimRight).toList

/-- The runs of lines that are not blank. `block` holds the lines of the run so far, the last
first. -/
def paragraphsFrom (block : List (List Char)) : List (List Char) → List (List (List Char))
  | [] => if block = [] then [] else [trimEnds block.reverse]
  | line :: lines =>
    if trim line = [] then
      if block = [] then paragraphsFrom [] lines
      else trimEnds block.reverse :: paragraphsFrom [] lines
    else paragraphsFrom (line :: block) lines

/-- The paragraphs of a text: runs of lines that are not blank. Lines keep the blanks around them,
but a paragraph as a whole is trimmed. -/
def paragraphs (cs : List Char) : List (List (List Char)) := paragraphsFrom [] (split '\n' cs)

theorem unifyNewlines_eq_self {cs : List Char} (h : '\r' ∉ cs) : unifyNewlines cs = cs := by
  induction cs with
  | nil => rfl
  | cons c cs ih =>
    simp only [List.mem_cons, not_or] at h
    rw [unifyNewlines]
    · rw [if_neg fun hc ↦ h.1 hc.symm, ih h.2]
    · rintro rest rfl
      exact fun _ ↦ h.1 rfl

end Motif.Text
