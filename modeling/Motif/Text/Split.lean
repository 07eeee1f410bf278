/-!
# Cutting a text at a separator

`cut` divides a text at the first separator and `split` at every one; `joinWith` is the way back.
-/

namespace Motif.Text

/-- The text before the first separator and, when there is a separator, the text after it. -/
def cut (sep : Char) : List Char → List Char × Option (List Char)
  | [] => ([], none)
  | c :: cs =>
    if c = sep then ([], some cs)
    else
      let r := cut sep cs
      (c :: r.1, r.2)

/-- The pieces between separators. There is always one piece more than there are separators. -/
def split (sep : Char) : List Char → List (List Char)
  | [] => [[]]
  | c :: cs =>
    if c = sep then [] :: split sep cs
    else
      match split sep cs with
      | [] => [[c]]
      | w :: ws => (c :: w) :: ws

/-- The pieces with a separator between any two neighbours. -/
def joinWith (sep : List Char) (pieces : List (List Char)) : List Char :=
  sep.intercalate pieces

/-- Nothing is lost by cutting. -/
theorem cut_append (sep : Char) (cs : List Char) :
    (cut sep cs).1 ++ ((cut sep cs).2.elim [] (sep :: ·)) = cs := by
  induction cs with
  | nil => rfl
  | cons c cs ih =>
    by_cases h : c = sep
    · simp [cut, h]
    · simp [cut, h, ih]

theorem not_mem_cut (sep : Char) (cs : List Char) : sep ∉ (cut sep cs).1 := by
  induction cs with
  | nil => exact List.not_mem_nil
  | cons c cs ih =>
    rw [cut]
    split
    · exact List.not_mem_nil
    · next h =>
      rw [List.mem_cons, not_or]
      exact ⟨fun hs ↦ h hs.symm, ih⟩

theorem cut_append_cons {sep : Char} {before : List Char} (h : sep ∉ before)
    (after : List Char) : cut sep (before ++ sep :: after) = (before, some after) := by
  induction before with
  | nil => rw [List.nil_append, cut, if_pos rfl]
  | cons b before ih =>
    rw [List.mem_cons, not_or] at h
    rw [List.cons_append, cut, if_neg fun hs ↦ h.1 hs.symm, ih h.2]

theorem cut_of_not_mem {sep : Char} {cs : List Char} (h : sep ∉ cs) : cut sep cs = (cs, none) := by
  induction cs with
  | nil => rfl
  | cons c cs ih =>
    rw [List.mem_cons, not_or] at h
    rw [cut, if_neg fun hs ↦ h.1 hs.symm, ih h.2]

theorem cut_eq_none {sep : Char} {cs before : List Char} (h : cut sep cs = (before, none)) :
    cs = before := by
  have happend := cut_append sep cs
  rw [h, Option.elim_none, List.append_nil] at happend
  exact happend.symm

theorem cut_eq_some {sep : Char} {cs before after : List Char}
    (h : cut sep cs = (before, some after)) : cs = before ++ sep :: after ∧ sep ∉ before := by
  have happend := cut_append sep cs
  have hmem := not_mem_cut sep cs
  rw [h] at happend hmem
  exact ⟨happend.symm, hmem⟩

end Motif.Text
