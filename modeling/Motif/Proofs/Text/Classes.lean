import Mathlib.Data.Bool.AllAny
import Motif.Text.Blank
import Motif.Text.Letter

/-!
# Character classes that do not meet

A text is divided by looking at one character at a time, and what makes the division unambiguous is
that the classes of characters are disjoint: no blank belongs to a word, and neither blanks nor
words contain the signs that texts are divided at. Blanks are finitely many, so the first fact is
found by asking for each of them whether it belongs to a word.
-/

namespace Motif.Text

private theorem blankRuns_not_word : ∀ r ∈ blankRuns, ∀ n ∈ List.range' r.1 (r.2 + 1 - r.1),
    letterRuns.has n = false ∧ numeralRuns.has n = false ∧ n ≠ '_'.toNat := by
  decide +kernel

theorem isWord_of_isBlank {c : Char} (h : isBlank c = true) : isWord c = false := by
  obtain ⟨r, hr, hlo, hhi⟩ := Runs.exists_of_has h
  obtain ⟨hletter, hnumeral, hne⟩ := blankRuns_not_word r hr c.toNat
    (List.mem_range'_1.2 ⟨hlo, by omega⟩)
  have hc : ¬ c = '_' := fun hc ↦ hne (congrArg Char.toNat hc)
  simp [isWord, isLetterOrNumeral, isLetter, hletter, hnumeral, hc]

theorem isBlank_of_isWord {c : Char} (h : isWord c = true) : isBlank c = false := by
  cases hb : isBlank c with
  | false => rfl
  | true => exact absurd h (by simp [isWord_of_isBlank hb])

theorem isBlank_of_mem_space : ∀ c ∈ [' '], isBlank c = true :=
  List.forall_mem_singleton.2 (by decide)

/-- A character that one class holds and another does not is no other character. -/
theorem ne_of_class {p : Char → Bool} {c d : Char} (hc : p c = true) (hd : p d = false) : c ≠ d :=
  fun h ↦ absurd hc (by rw [h, hd]; exact Bool.false_ne_true)

theorem trim_append_isBlank {bs : List Char} (hbs : ∀ b ∈ bs, isBlank b = true)
    (cs : List Char) : trim (cs ++ bs) = trim cs := by
  obtain ⟨bs₁, bs₂, hcs, hbs₁, hbs₂, htrimmed⟩ := exists_blanks_trim cs
  have hbs₂' : ∀ b ∈ bs₂ ++ bs, isBlank b = true := fun b hb ↦
    (List.mem_append.1 hb).elim (hbs₂ b) (hbs b)
  calc trim (cs ++ bs)
      = trim (bs₁ ++ (trim cs ++ (bs₂ ++ bs))) := by
        rw [hcs, List.append_assoc, List.append_assoc, ← hcs]
    _ = trim cs := trim_append hbs₁ htrimmed hbs₂'

end Motif.Text
