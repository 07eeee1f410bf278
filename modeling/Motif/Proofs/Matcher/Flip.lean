import Mathlib.Logic.Basic
import Mathlib.Tactic.ByContra
import Motif.Matcher.Edge

/-!
# Edge matchers seen from the other side

The matcher for the step seen from the other side should match a step as the matcher matches the
step turned around. `EdgeMatcher.flip` turns only the outermost demand on the direction. That is
enough for a matcher that makes no other demand (`matchText_flip`), but a demand further inside
stays as it is, and from the other side it asks for the wrong direction. Such a matcher is
`Reversible` only where this cannot show, and no other matcher obeys the law
(`matchText_flip_iff`).
-/

namespace Motif.EdgeMatcher

variable {V : Type} {m : EdgeMatcher}

/-! ## What a matcher accepts -/

/-- A step has text for a matcher when it goes in every direction demanded and its label passes. -/
theorem matchText_eq (m : EdgeMatcher) (d : Step V) :
    m.matchText d =
      if (∀ c ∈ m.directions, c = d.direction) ∧ m.test.accepts d.label = true then some d.label
      else none := by
  rw [matchText]
  refine if_congr ?_ rfl rfl
  rw [Bool.and_eq_true, List.all_eq_true]
  exact and_congr_left fun _ ↦ forall₂_congr fun c _ ↦ beq_iff_eq

theorem canMatch_eq_true_iff {e : Edge V} :
    m.canMatch e = true ↔
      (∃ c, ∀ b ∈ m.directions, b = c) ∧ m.test.accepts e.label = true := by
  have haccepts (c : Direction) : m.accepts (⟨e, c⟩ : Step V) = true ↔
      (∀ b ∈ m.directions, b = c) ∧ m.test.accepts e.label = true := by
    rw [accepts, matchText_eq]
    split
    · next h => exact ⟨fun _ ↦ h, fun _ ↦ rfl⟩
    · next h => exact ⟨fun hf ↦ absurd hf (by simp), fun h' ↦ absurd h' h⟩
  rw [canMatch, Bool.or_eq_true, haccepts, haccepts, ← or_and_right]
  refine and_congr_left fun _ ↦ ⟨?_, ?_⟩
  · rintro (h | h)
    · exact ⟨_, h⟩
    · exact ⟨_, h⟩
  · rintro ⟨c, h⟩
    cases c with
    | up => exact .inl h
    | down => exact .inr h

theorem directions_flip_of_cons {c : Direction} {ds : List Direction}
    (h : m.directions = c :: ds) : m.flip.directions = c.flip :: ds := by
  rw [flip, h]

theorem flip_of_nil (h : m.directions = []) : m.flip = m := by
  rw [flip, h]

/-! ## Matchers that demand one direction at most -/

/-- A matcher that demands one direction at most, turned around, matches a step turned around as the
matcher matches the step. -/
theorem matchText_flip (h : m.directions.length ≤ 1) (d : Step V) :
    m.flip.matchText d.flip = m.matchText d := by
  rw [matchText_eq, matchText_eq, test_flip]
  refine if_congr (and_congr_left fun _ ↦ ?_) rfl rfl
  match hdirections : m.directions with
  | [] =>
    rw [flip_of_nil hdirections, hdirections]
    exact ⟨fun _ c hc ↦ absurd hc List.not_mem_nil, fun _ c hc ↦ absurd hc List.not_mem_nil⟩
  | [c] =>
    rw [directions_flip_of_cons hdirections, List.forall_mem_singleton, List.forall_mem_singleton,
      Step.direction_flip, Direction.flip_eq_iff, Direction.flip_flip]
  | b :: c :: cs =>
    rw [hdirections] at h
    exact absurd h (by simp)

/-! ## All matchers -/

/-- Only the outermost demand on the direction matters: either there is no other one, or what is
inside accepts nothing, because it demands both directions or because no label passes. -/
def Reversible (m : EdgeMatcher) : Prop :=
  m.directions.length ≤ 1 ∨ (.up ∈ m.directions.tail ∧ .down ∈ m.directions.tail) ∨
    ∀ l, m.test.accepts l = false

private theorem not_forall_eq_of_mem {ds : List Direction} (hup : .up ∈ ds) (hdown : .down ∈ ds)
    (c : Direction) : ¬ ∀ b ∈ ds, b = c :=
  fun h ↦ absurd ((h _ hup).trans (h _ hdown).symm) (by decide)

@[simp] private theorem tail_directions_flip (m : EdgeMatcher) :
    m.flip.directions.tail = m.directions.tail := by
  match h : m.directions with
  | [] => rw [flip_of_nil h, h]
  | c :: ds => rw [directions_flip_of_cons h, List.tail_cons, List.tail_cons]

private theorem matchText_eq_none_of_tail (hup : .up ∈ m.directions.tail)
    (hdown : .down ∈ m.directions.tail) (d : Step V) : m.matchText d = none := by
  rw [matchText_eq]
  refine if_neg fun h ↦ ?_
  exact not_forall_eq_of_mem (List.mem_of_mem_tail hup) (List.mem_of_mem_tail hdown) _ h.1

private theorem matchText_eq_none_of_test (h : ∀ l, m.test.accepts l = false) (d : Step V) :
    m.matchText d = none := by
  rw [matchText_eq]
  exact if_neg fun hd ↦ Bool.false_ne_true ((h _).symm.trans hd.2)

theorem Reversible.matchText_flip (h : m.Reversible) (d : Step V) :
    m.flip.matchText d = m.matchText d.flip := by
  rcases h with hone | ⟨hup, hdown⟩ | hnone
  · have hflip := EdgeMatcher.matchText_flip hone d.flip
    rwa [Step.flip_flip] at hflip
  · rw [matchText_eq_none_of_tail hup hdown]
    rw [← tail_directions_flip] at hup hdown
    exact matchText_eq_none_of_tail hup hdown d
  · rw [matchText_eq_none_of_test hnone]
    refine matchText_eq_none_of_test (fun l ↦ ?_) d
    rw [test_flip]
    exact hnone l

private theorem canMatch_flip_of_matchText
    (h : ∀ d : Step V, m.flip.matchText d = m.matchText d.flip) (e : Edge V) :
    m.flip.canMatch e = m.canMatch e := by
  have haccepts (d : Step V) : m.flip.accepts d = m.accepts d.flip := congrArg Option.isSome (h d)
  rw [canMatch, canMatch, haccepts, haccepts, Bool.or_comm]
  rfl

/-- If turning a matcher around never shows in the edges it accepts, then only its outermost demand
on the direction matters. -/
theorem reversible_of_canMatch_flip [Inhabited V]
    (h : ∀ e : Edge V, m.flip.canMatch e = m.canMatch e) : m.Reversible := by
  by_contra hm
  simp only [Reversible, not_or, not_and, not_forall, Bool.not_eq_false] at hm
  obtain ⟨hlength, hboth, l, hl⟩ := hm
  match hdirections : m.directions with
  | [] | [_] => exact hlength (by simp [hdirections])
  | b :: c :: cs =>
    rw [hdirections, List.tail_cons] at hboth
    -- The demands inside all ask for one direction, as `c` does.
    have hall : ∀ d ∈ c :: cs, d = c := by
      intro d hd
      cases hdc : d <;> cases hcc : c
      · rfl
      · exact absurd (hcc ▸ List.mem_cons_self) (hboth (hdc ▸ hd))
      · exact absurd (hdc ▸ hd) (hboth (hcc ▸ List.mem_cons_self))
      · rfl
    -- So the matcher accepts an edge exactly if the outermost demand agrees with them.
    have hcan {n : EdgeMatcher} {d : Direction} (hn : n.directions = d :: c :: cs)
        (htest : n.test = m.test) :
        n.canMatch (⟨default, default, l⟩ : Edge V) = true ↔ d = c := by
      rw [canMatch_eq_true_iff, hn, htest]
      constructor
      · rintro ⟨⟨a, ha⟩, -⟩
        exact (ha d List.mem_cons_self).trans
          (ha c (List.mem_cons_of_mem d List.mem_cons_self)).symm
      · rintro rfl
        exact ⟨⟨d, List.forall_mem_cons.2 ⟨rfl, hall⟩⟩, hl⟩
    have hflip := hcan (directions_flip_of_cons hdirections) (test_flip m)
    rw [h, hcan hdirections rfl] at hflip
    cases b <;> cases c <;> simp [Direction.flip] at hflip

/-- **Matchers seen from the other side.** A matcher turned around matches every step as the matcher
matches the step turned around exactly if only its outermost demand on the direction matters, and
exactly then it accepts the same edges. -/
theorem matchText_flip_iff [Inhabited V] (m : EdgeMatcher) :
    ((∀ d : Step V, m.flip.matchText d = m.matchText d.flip) ↔ m.Reversible) ∧
      ((∀ e : Edge V, m.flip.canMatch e = m.canMatch e) ↔ m.Reversible) := by
  constructor
  · exact ⟨fun h ↦ reversible_of_canMatch_flip (canMatch_flip_of_matchText h),
      fun h ↦ h.matchText_flip⟩
  · exact ⟨reversible_of_canMatch_flip, fun h ↦ canMatch_flip_of_matchText h.matchText_flip⟩

/-- Two demands for the same direction, one around the other. Turned around, the outer one asks for
the other direction, and the matcher accepts nothing any more. -/
theorem matchText_flip_up_up :
    ∃ m, (ofTest .any).directed .up = .ok ⟨none, [.up], .any⟩ ∧
      directed .up ⟨none, [.up], .any⟩ = .ok m ∧
      m.matchText (Step.flip ⟨⟨"a", "b", "r"⟩, .down⟩) = some "r" ∧
      m.flip.matchText (⟨⟨"a", "b", "r"⟩, .down⟩ : Step String) = none ∧
      m.canMatch (⟨"a", "b", "r"⟩ : Edge String) = true ∧
      m.flip.canMatch (⟨"a", "b", "r"⟩ : Edge String) = false :=
  ⟨⟨none, [.up, .up], .any⟩, rfl, rfl, by decide, by decide, by decide, by decide⟩

end Motif.EdgeMatcher
