/-!
# Classes of characters as runs of code points

A class of characters is stored as its maximal runs of consecutive code points, in ascending order.
Every table of character properties in this library has this shape, and `Runs.has` is the only
question asked of one.
-/

namespace Motif.Text

/-- Runs of code points, both ends included, in ascending order. -/
abbrev Runs := List (Nat × Nat)

namespace Runs

/-- Whether a code point lies in one of the runs. The search stops at the first run that begins
beyond it, which is where ascending order is used. -/
def has : Runs → Nat → Bool
  | [], _ => false
  | (lo, hi) :: rest, n => if n < lo then false else if n ≤ hi then true else has rest n

theorem exists_of_has {rs : Runs} {n : Nat} (h : rs.has n = true) :
    ∃ r ∈ rs, r.1 ≤ n ∧ n ≤ r.2 := by
  induction rs with
  | nil => simp [has] at h
  | cons r rest ih =>
    obtain ⟨lo, hi⟩ := r
    by_cases h₁ : n < lo
    · simp [has, h₁] at h
    · by_cases h₂ : n ≤ hi
      · exact ⟨(lo, hi), by simp, by omega, h₂⟩
      · simp only [has, h₁, h₂, if_false] at h
        obtain ⟨r, hr, hn⟩ := ih h
        exact ⟨r, List.mem_cons_of_mem _ hr, hn⟩

end Runs

end Motif.Text
