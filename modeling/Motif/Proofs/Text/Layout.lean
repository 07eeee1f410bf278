import Motif.Text.Blank

/-!
# Units of a text and the blanks around them

A text *lays out* units if it consists of them in order, with any blanks before, between and behind
them. A unit may hold blanks itself, so the division of a text into units says where blanks do not
count. Blanks can be put in at any place of the division (`Lays.insert`), and those around the whole
can be taken off if no unit begins or ends with one (`Lays.trim`).
-/

namespace Motif.Text

/-- A text consists of units, with any blanks before, between and behind them. -/
inductive Lays : List (List Char) → List Char → Prop where
  /-- Nothing but blanks. -/
  | nil {bs : List Char} (hbs : ∀ b ∈ bs, isBlank b = true) : Lays [] bs
  /-- A unit behind blanks, and others behind it. -/
  | cons {bs u cs : List Char} {us : List (List Char)} (hbs : ∀ b ∈ bs, isBlank b = true)
      (hcs : Lays us cs) : Lays (u :: us) (bs ++ (u ++ cs))

variable {us vs : List (List Char)} {u bs cs ds : List Char}

theorem isBlank_of_mem_nil : ∀ b ∈ ([] : List Char), isBlank b = true :=
  fun _ hb ↦ absurd hb List.not_mem_nil

theorem isBlank_append (hbs : ∀ b ∈ bs, isBlank b = true) (hcs : ∀ b ∈ cs, isBlank b = true) :
    ∀ b ∈ bs ++ cs, isBlank b = true :=
  fun b hb ↦ (List.mem_append.1 hb).elim (hbs b) (hcs b)

namespace Lays

theorem cons' (hcs : Lays us cs) : Lays (u :: us) (u ++ cs) := cons isBlank_of_mem_nil hcs

theorem blanks_append (hbs : ∀ b ∈ bs, isBlank b = true) (h : Lays us cs) :
    Lays us (bs ++ cs) := by
  cases h with
  | nil hcs => exact .nil (isBlank_append hbs hcs)
  | cons hbs' hcs =>
    rw [← List.append_assoc]
    exact .cons (isBlank_append hbs hbs') hcs

theorem append (h : Lays us cs) (h' : Lays vs ds) : Lays (us ++ vs) (cs ++ ds) := by
  induction h with
  | nil hbs => exact h'.blanks_append hbs
  | cons hbs _ ih =>
    rw [List.append_assoc, List.append_assoc]
    exact .cons hbs ih

theorem append_blanks (h : Lays us cs) (hbs : ∀ b ∈ bs, isBlank b = true) :
    Lays us (cs ++ bs) := by
  rw [← List.append_nil us]
  exact h.append (.nil hbs)

theorem insert (h : Lays us cs) (hbs : ∀ b ∈ bs, isBlank b = true) (h' : Lays vs ds) :
    Lays (us ++ vs) (cs ++ (bs ++ ds)) :=
  h.append (h'.blanks_append hbs)

theorem exists_of_append (h : Lays (us ++ vs) cs) :
    ∃ xs ys, cs = xs ++ ys ∧ Lays us xs ∧ Lays vs ys := by
  induction us generalizing cs with
  | nil => exact ⟨[], cs, rfl, .nil isBlank_of_mem_nil, h⟩
  | cons u us ih =>
    cases h with
    | cons hbs hrest =>
      obtain ⟨xs, ys, rfl, hxs, hys⟩ := ih hrest
      exact ⟨_, ys, by simp only [List.append_assoc], .cons hbs hxs, hys⟩

theorem exists_of_cons (h : Lays (u :: us) cs) :
    ∃ bs ds, cs = bs ++ (u ++ ds) ∧ (∀ b ∈ bs, isBlank b = true) ∧ Lays us ds := by
  cases h with
  | cons hbs hrest => exact ⟨_, _, rfl, hbs, hrest⟩

theorem isBlank_of_nil (h : Lays [] cs) : ∀ b ∈ cs, isBlank b = true := by
  cases h with
  | nil hbs => exact hbs

theorem exists_of_singleton (h : Lays [u] cs) :
    ∃ bs bs', cs = bs ++ (u ++ bs') ∧ (∀ b ∈ bs, isBlank b = true) ∧
      ∀ b ∈ bs', isBlank b = true := by
  obtain ⟨bs, bs', hcs, hbs, hrest⟩ := h.exists_of_cons
  exact ⟨bs, bs', hcs, hbs, hrest.isBlank_of_nil⟩

theorem exists_of_split {d : Char} (h : Lays (us ++ [d] :: vs) cs) :
    ∃ xs ys, cs = xs ++ d :: ys ∧ Lays us xs ∧ Lays vs ys := by
  obtain ⟨xs, ys, rfl, hxs, hys⟩ := h.exists_of_append
  obtain ⟨bs, zs, rfl, hbs, hzs⟩ := hys.exists_of_cons
  exact ⟨xs ++ bs, zs, by simp, hxs.append_blanks hbs, hzs⟩

theorem split {d : Char} (h : Lays us cs) (h' : Lays vs ds) :
    Lays (us ++ [d] :: vs) (cs ++ d :: ds) :=
  h.append (h'.cons' (u := [d]))

/-- What lays out units between two characters has them at its ends, blanks apart. -/
theorem exists_of_between {c d : Char} (h : Lays ([c] :: us ++ [[d]]) cs) :
    ∃ bs inner bs', cs = bs ++ (c :: inner ++ [d] ++ bs') ∧ (∀ b ∈ bs, isBlank b = true) ∧
      (∀ b ∈ bs', isBlank b = true) ∧ Lays us inner := by
  obtain ⟨bs, ds, rfl, hbs, hds⟩ := h.exists_of_cons
  obtain ⟨inner, bs', rfl, hinner, hbs'⟩ := exists_of_split hds
  exact ⟨bs, inner, bs', by simp, hbs, hbs'.isBlank_of_nil, hinner⟩

theorem between {c d : Char} (h : Lays us cs) : Lays ([c] :: us ++ [[d]]) (c :: cs ++ [d]) :=
  (h.split (.nil isBlank_of_mem_nil)).cons' (u := [c])

theorem singleton_trim (cs : List Char) : Lays [Text.trim cs] cs := by
  obtain ⟨bs, bs', hcs, hbs, hbs', -⟩ := exists_blanks_trim cs
  have h : Lays [Text.trim cs] (bs ++ (Text.trim cs ++ bs')) := .cons hbs (.nil hbs')
  rwa [← hcs] at h

theorem of_trim (h : Lays us (Text.trim cs)) : Lays us cs := by
  obtain ⟨bs, bs', hcs, hbs, hbs', -⟩ := exists_blanks_trim cs
  rw [hcs]
  exact (h.append_blanks hbs').blanks_append hbs

end Lays

/-! ## Units without blanks around them -/

/-- A unit is not empty, and neither begins nor ends with a blank. -/
def Solid (u : List Char) : Prop := u ≠ [] ∧ Trimmed u

theorem solid_singleton {c : Char} (hc : isBlank c = false) : Solid [c] := by
  refine ⟨List.cons_ne_nil c [], fun d hd ↦ ?_, fun d hd ↦ ?_⟩
  · obtain rfl : c = d := Option.some_inj.1 hd
    exact hc
  · obtain rfl : c = d := Option.some_inj.1 hd
    exact hc

private theorem Solid.trimRight_append (hu : Solid u) (bs cs : List Char) :
    trimRight (bs ++ (u ++ cs)) = bs ++ (u ++ trimRight cs) := by
  obtain ⟨bs', hcs, hbs', hlast⟩ := exists_blanks_trimRight cs
  have htrim : trimRight (bs ++ (u ++ trimRight cs) ++ bs') = bs ++ (u ++ trimRight cs) := by
    refine Text.trimRight_append hbs' fun c hc ↦ ?_
    rw [← List.append_assoc, List.getLast?_append] at hc
    cases hright : (trimRight cs).getLast? with
    | some d =>
      rw [hright, Option.some_or] at hc
      exact hlast c (hright ▸ hc)
    | none =>
      have hlast' := hu.2.2
      rw [hright, Option.none_or, List.getLast?_append] at hc
      rw [List.getLast?_eq_some_getLast hu.1] at hc hlast'
      exact hlast' c hc
  rwa [List.append_assoc, List.append_assoc, ← hcs] at htrim

theorem Lays.trim (hus : ∀ u ∈ us, Solid u) (h : Lays us cs) : Lays us (Text.trim cs) := by
  -- The blanks at the front stand before the first unit.
  have hleft : Lays us (trimLeft cs) := by
    cases h with
    | nil hbs =>
      rw [← List.append_nil cs, trimLeft_append hbs (by simp)]
      exact .nil isBlank_of_mem_nil
    | @cons bs u ds us hbs hds =>
      obtain ⟨hne, htrimmed⟩ := hus u List.mem_cons_self
      obtain ⟨c, u', rfl⟩ := List.exists_cons_of_ne_nil hne
      rw [List.cons_append, trimLeft_append_cons hbs (htrimmed.1 c rfl), ← List.cons_append]
      exact hds.cons'
  clear h
  rw [Text.trim]
  generalize trimLeft cs = cs at hleft
  -- Those at the back stand behind the last, which is reached one unit after the other.
  induction hleft with
  | @nil bs hbs =>
    rw [← List.nil_append bs, trimRight_append hbs (by simp)]
    exact .nil isBlank_of_mem_nil
  | cons hbs _ ih =>
    obtain ⟨hu, hus⟩ := List.forall_mem_cons.1 hus
    rw [hu.trimRight_append]
    exact .cons hbs (ih hus)

theorem Lays.trim_ne_nil (hus : ∀ u ∈ us, Solid u) (hne : us ≠ []) (h : Lays us cs) :
    Text.trim cs ≠ [] := by
  have htrim := h.trim hus
  intro hnil
  rw [hnil] at htrim
  obtain ⟨u, us', rfl⟩ := List.exists_cons_of_ne_nil hne
  obtain ⟨bs, ds, hcs, -, -⟩ := htrim.exists_of_cons
  have happend := (List.append_eq_nil_iff.1 hcs.symm).2
  exact (hus u List.mem_cons_self).1 (List.append_eq_nil_iff.1 happend).1

end Motif.Text
