import Mathlib.Data.List.Nodup
import Motif.Distinct

/-!
# What is kept of a list

`distinctBy` keeps the first element of every key, so what it keeps depends on the order of the list
and on which elements have the same key. It is told here by what comes before an element
(`mem_distinctBy_iff`) and by what a further element changes (`distinctBy_concat`). If no two
elements of a list have one key, every element is kept, and in another order the same elements are
kept in another order (`perm_distinctBy`).
-/

namespace Motif

variable {α β κ : Type} [DecidableEq κ] {key : α → κ} {xs ys : List α} {x : α}

theorem mem_distinctBy_iff :
    x ∈ distinctBy key xs ↔
      ∃ before after, xs = before ++ x :: after ∧ ∀ y ∈ before, key y ≠ key x := by
  induction xs with
  | nil => simp [distinctBy]
  | cons z zs ih =>
    rw [distinctBy, List.mem_cons, List.mem_filter, ih]
    constructor
    · rintro (rfl | ⟨⟨before, after, rfl, hbefore⟩, hz⟩)
      · exact ⟨[], zs, rfl, by simp⟩
      · have hz : key z ≠ key x := Ne.symm (of_decide_eq_true hz)
        exact ⟨z :: before, after, rfl, List.forall_mem_cons.2 ⟨hz, hbefore⟩⟩
    · rintro ⟨before, after, heq, hbefore⟩
      cases before with
      | nil => exact .inl (List.head_eq_of_cons_eq heq).symm
      | cons y before =>
        obtain ⟨rfl, rfl⟩ := List.cons_eq_cons.1 heq
        obtain ⟨hz, hbefore⟩ := List.forall_mem_cons.1 hbefore
        exact .inr ⟨⟨before, after, rfl, hbefore⟩, decide_eq_true hz.symm⟩

theorem distinctBy_map (f : β → α) (xs : List β) :
    distinctBy key (xs.map f) = (distinctBy (key ∘ f) xs).map f := by
  induction xs with
  | nil => rfl
  | cons x xs ih =>
    rw [List.map_cons, distinctBy, distinctBy, List.map_cons, ih, List.filter_map]
    rfl

theorem distinctBy_congr {κ' : Type} [DecidableEq κ'] {key' : α → κ'}
    (h : ∀ x y, key x = key y ↔ key' x = key' y) (xs : List α) :
    distinctBy key xs = distinctBy key' xs := by
  induction xs with
  | nil => rfl
  | cons x xs ih =>
    rw [distinctBy, distinctBy, ih]
    refine congrArg (x :: ·) (List.filter_congr fun y _ ↦ ?_)
    exact decide_eq_decide.2 (not_congr (h y x))

@[simp] theorem mem_map_distinctBy {k : κ} : k ∈ (distinctBy key xs).map key ↔ k ∈ xs.map key := by
  constructor
  · exact fun h ↦ ((distinctBy_sublist key xs).map key).mem h
  · intro h
    obtain ⟨x, hx, rfl⟩ := List.mem_map.1 h
    obtain ⟨y, hy, hkey⟩ := exists_mem_distinctBy key hx
    exact List.mem_map.2 ⟨y, hy, hkey⟩

theorem distinctBy_concat (key : α → κ) (xs : List α) (x : α) : distinctBy key (xs ++ [x]) =
    if key x ∈ xs.map key then distinctBy key xs else distinctBy key xs ++ [x] := by
  induction xs with
  | nil => rfl
  | cons z zs ih =>
    rw [List.cons_append, distinctBy, distinctBy, ih, List.map_cons]
    by_cases hzs : key x ∈ zs.map key
    · rw [if_pos hzs, if_pos (List.mem_cons_of_mem _ hzs)]
    · rw [if_neg hzs, List.filter_append]
      by_cases hz : key x = key z
      · simp [hz]
      · simp [hz, hzs]

private theorem mem_distinctBy_of_injOn (h : ∀ x ∈ xs, ∀ y ∈ xs, key x = key y → x = y) :
    x ∈ distinctBy key xs ↔ x ∈ xs := by
  constructor
  · exact fun hx ↦ (distinctBy_sublist key xs).mem hx
  · intro hx
    obtain ⟨y, hy, hkey⟩ := exists_mem_distinctBy key hx
    rw [← h y ((distinctBy_sublist key xs).mem hy) x hx hkey]
    exact hy

/-- If no two elements have one key, the order does not matter for what is kept. -/
theorem perm_distinctBy (h : ∀ x ∈ xs, ∀ y ∈ xs, key x = key y → x = y) (hperm : xs.Perm ys) :
    (distinctBy key xs).Perm (distinctBy key ys) := by
  have hys : ∀ x ∈ ys, ∀ y ∈ ys, key x = key y → x = y :=
    fun x hx y hy ↦ h x (hperm.mem_iff.2 hx) y (hperm.mem_iff.2 hy)
  apply (List.perm_ext_iff_of_nodup (nodup_map_distinctBy key xs).of_map
    (nodup_map_distinctBy key ys).of_map).2
  intro x
  rw [mem_distinctBy_of_injOn h, mem_distinctBy_of_injOn hys, hperm.mem_iff]

end Motif
