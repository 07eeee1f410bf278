import Motif.InsertionMap

/-!
# Tables that are overwritten

A table that is filled in a pass over a list keeps, under each key, what was stored last: a later
member overwrites what an earlier one has left there. `LastWith` says which member of a list is the
last one that passes a test, and the look-ups in such a table are told by it.
-/

namespace Motif

section LastWith

variable {α : Type} {p : α → Bool} {xs : List α} {x y : α}

/-- `x` is the last member of a list that passes a test. -/
def LastWith (p : α → Bool) (xs : List α) (x : α) : Prop :=
  p x = true ∧ ∃ before after, xs = before ++ x :: after ∧ ∀ y ∈ after, p y = false

theorem lastWith_iff_find? : LastWith p xs x ↔ xs.reverse.find? p = some x := by
  rw [List.find?_eq_some_iff_append]
  apply and_congr_right
  intro _
  constructor
  · rintro ⟨before, after, rfl, hafter⟩
    refine ⟨after.reverse, before.reverse, by simp, ?_⟩
    intro y hy
    rw [hafter y (List.mem_reverse.1 hy)]
    rfl
  · rintro ⟨front, back, hreverse, hfront⟩
    refine ⟨back.reverse, front.reverse, ?_, ?_⟩
    · rw [← List.reverse_reverse xs, hreverse]
      simp
    · intro y hy
      simpa using hfront y (List.mem_reverse.1 hy)

theorem LastWith.mem (h : LastWith p xs x) : x ∈ xs := by
  obtain ⟨-, before, after, rfl, -⟩ := h
  exact List.mem_append_right before List.mem_cons_self

theorem lastWith_concat_of_pos (hy : p y = true) : LastWith p (xs ++ [y]) x ↔ x = y := by
  rw [lastWith_iff_find?, List.reverse_append, List.reverse_singleton, List.singleton_append,
    List.find?_cons_of_pos hy, Option.some_inj, eq_comm]

theorem lastWith_concat_of_neg (hy : p y = false) :
    LastWith p (xs ++ [y]) x ↔ LastWith p xs x := by
  rw [lastWith_iff_find?, lastWith_iff_find?, List.reverse_append, List.reverse_singleton,
    List.singleton_append, List.find?_cons_of_neg (Bool.not_eq_true _ ▸ hy)]

end LastWith

namespace InsertionMap

variable {α κ β : Type} [DecidableEq κ]

/-- The table of the keys and values of some members has the value of the last member with a
key. -/
theorem get?_ofList_map (key : α → κ) (value : α → β) (xs : List α) (k : κ) :
    (ofList (xs.map fun x ↦ (key x, value x))).get? k =
      (xs.reverse.find? fun x ↦ key x = k).map value := by
  rw [get?_ofList, lastOf, List.filter_map, List.getLast?_map, Option.map_map,
    List.getLast?_eq_head?_reverse, ← List.filter_reverse, List.head?_filter]
  rfl

end InsertionMap

end Motif
