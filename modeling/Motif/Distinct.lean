/-!
# First occurrences

`distinctBy key xs` keeps, for every key, the first element that has it, and `distinct` keeps the
first occurrence of every element. Both keep the order of what they keep.
-/

namespace Motif

variable {α κ : Type} [DecidableEq κ]

def distinctBy (key : α → κ) : List α → List α
  | [] => []
  | x :: xs => x :: (distinctBy key xs).filter fun y ↦ key y ≠ key x

/-- Keeps the first occurrence of every element. -/
abbrev distinct (xs : List κ) : List κ := distinctBy id xs

theorem distinctBy_sublist (key : α → κ) (xs : List α) : (distinctBy key xs).Sublist xs := by
  induction xs with
  | nil => exact List.Sublist.slnil
  | cons x xs ih => exact (List.filter_sublist.trans ih).cons_cons x

theorem nodup_map_distinctBy (key : α → κ) (xs : List α) :
    ((distinctBy key xs).map key).Nodup := by
  induction xs with
  | nil => simp [distinctBy]
  | cons x xs ih =>
    simp only [distinctBy, List.map_cons, List.nodup_cons]
    refine ⟨by simp, ?_⟩
    exact ih.sublist (List.filter_sublist.map key)

theorem exists_mem_distinctBy (key : α → κ) {xs : List α} {x : α} (h : x ∈ xs) :
    ∃ y ∈ distinctBy key xs, key y = key x := by
  induction xs with
  | nil => simp at h
  | cons z zs ih =>
    by_cases hz : key x = key z
    · exact ⟨z, by simp [distinctBy], hz.symm⟩
    · have hx : x ∈ zs := by
        rcases List.mem_cons.1 h with rfl | h
        · exact absurd rfl hz
        · exact h
      obtain ⟨y, hy, hyx⟩ := ih hx
      refine ⟨y, List.mem_cons_of_mem _ (List.mem_filter.2 ⟨hy, ?_⟩), hyx⟩
      simpa [hyx] using hz

theorem distinctBy_ne_nil (key : α → κ) {xs : List α} (h : xs ≠ []) : distinctBy key xs ≠ [] := by
  cases xs with
  | nil => exact absurd rfl h
  | cons x xs => simp [distinctBy]

theorem distinctBy_eq_self (key : α → κ) {xs : List α} (h : (xs.map key).Nodup) :
    distinctBy key xs = xs := by
  induction xs with
  | nil => rfl
  | cons x xs ih =>
    simp only [List.map_cons, List.nodup_cons] at h
    simp only [distinctBy, ih h.2, List.cons.injEq, true_and, List.filter_eq_self]
    intro y hy
    have : key y ≠ key x := fun hk ↦ h.1 (hk ▸ List.mem_map_of_mem hy)
    simpa using this

theorem nodup_distinct (xs : List κ) : (distinct xs).Nodup := by
  simpa using nodup_map_distinctBy id xs

@[simp] theorem mem_distinct {xs : List κ} {x : κ} : x ∈ distinct xs ↔ x ∈ xs := by
  constructor
  · exact fun h ↦ (distinctBy_sublist id xs).mem h
  · intro h
    obtain ⟨y, hy, rfl⟩ := exists_mem_distinctBy id h
    exact hy

end Motif
