import Motif.Catalogue.Reflection
import Motif.Proofs.Catalogue.Loading
import Motif.Proofs.Pattern.Involution

/-!
# Catalogues that are closed under reflection

A catalogue that takes in the reflections of its patterns should have, in the end, the reflection of
every pattern that it has. Reflecting is an involution on patterns and respects their equality, so
one round is enough, and no two patterns have one reflection.

What can go wrong are the ids. A reflection gets an id that is made of the text of the id of its
pattern, and adding is refused if that id is in use, even where the reflection is there already. So
the ids have to fit (`ReflectionsFit`): none that a reflection gets is in use, and two patterns
whose ids have one text, as a number and the text of it, do not both have a reflection that is new.
One round comes to an end exactly if they do (`addReflections_eq_ok_iff`), and what it leaves is
closed.
-/

namespace Motif.Catalogue

variable {V : Type} {c d : Catalogue V} {e f : Entry V} {es : List (Entry V)}

/-! ## Patterns under ids that can be shown -/

/-- The entry is a pattern, and its id can be shown. -/
structure Entry.Presentable (e : Entry V) : Prop where
  id : e.id.isShowable = true
  content : ∃ p description, e.content = .pattern p description

/-- All entries are patterns under ids that can be shown. -/
def Presentable (c : Catalogue V) : Prop := ∀ e ∈ c.entries, e.Presentable

/-- A content is registered that equals the given one. -/
def Has (c : Catalogue V) (content : Content V) : Prop :=
  ∃ f ∈ c.entries, f.content.same content = true

instance (c : Catalogue V) (content : Content V) : Decidable (c.Has content) :=
  inferInstanceAs (Decidable (∃ f ∈ c.entries, f.content.same content = true))

private theorem has_append_iff {content : Content V} (h : d.entries = c.entries ++ [e]) :
    d.Has content ↔ c.Has content ∨ e.content.same content = true := by
  rw [Has, h, Has]
  simp [or_and_right, exists_or]

theorem contains_append_iff {id : Yaml.Scalar} (h : d.entries = c.entries ++ [e]) :
    d.contains id = false ↔ c.contains id = false ∧ e.key ≠ id.key := by
  rw [contains, h, contains, List.any_append, Bool.or_eq_false_iff]
  simp

private theorem Entry.Presentable.exists_duplicateRecord (he : e.Presentable) (hf : f.Presentable) :
    ∃ record, duplicateRecord e.id f.id e.content = .ok record := by
  obtain ⟨p, description, hcontent⟩ := he.content
  rw [duplicateRecord, Yaml.Scalar.shown?, if_pos he.id, Yaml.Scalar.shown?, if_pos hf.id, hcontent]
  exact ⟨_, rfl⟩

/-- What an attempt to add an entry comes to, if there are no difficulties but that its id is in use
or its content is there. -/
inductive Placing (c : Catalogue V) (e : Entry V) : Change V AddFault Bool → Prop where
  /-- The id is in use. -/
  | taken (htaken : c.contains e.id = true) :
    Placing c e (c.unchanged (.error (.ofDuplicate e.id)))
  /-- An equal content is there. -/
  | known {record : Record} (hfree : c.contains e.id = false) (hknown : c.Has e.content) :
    Placing c e ⟨c, [record], .ok false⟩
  /-- The entry is new. -/
  | new {d : Catalogue V} (hfree : c.contains e.id = false) (hnew : ¬ c.Has e.content)
    (hentries : d.entries = c.entries ++ [e]) (hgrows : c.GrowsTo d) :
    Placing c e ⟨d, [], .ok true⟩

/-- **Adding an entry that can be shown comes to one of these**, if there are only such entries. -/
theorem placing (hc : c.Presentable) (he : e.Presentable) {candidate : Candidate V}
    {description : Yaml.Value}
    (hresolve : candidate.resolve c.vocabulary description = .ok e.content) :
    Placing c e (c.add (.scalar e.id) candidate description) := by
  have hkey {key : Yaml.Scalar} (hid : (Yaml.Value.scalar e.id).asKey = .ok key) : e.id = key :=
    Except.ok.inj hid
  have hcontent {content : Content V}
      (hread : candidate.resolve c.vocabulary description = .ok content) : e.content = content :=
    Except.ok.inj (hresolve.symm.trans hread)
  have hadding := adding c (.scalar e.id) candidate description
  generalize c.add (.scalar e.id) candidate description = change at hadding ⊢
  cases hadding with
  | composite hid => exact nomatch hid
  | taken hid htaken =>
    obtain rfl := hkey hid
    exact .taken htaken
  | unread _ _ hread => exact nomatch hresolve.symm.trans hread
  | known hid hfree hread hf hsame _ =>
    obtain rfl := hkey hid
    obtain rfl := hcontent hread
    exact .known hfree ⟨_, hf, hsame⟩
  | unreportable hid hfree hread hf hsame hrecord =>
    obtain rfl := hkey hid
    obtain rfl := hcontent hread
    obtain ⟨record, hok⟩ := he.exists_duplicateRecord (hc _ hf)
    exact nomatch hok.symm.trans hrecord
  | new hid hfree hread hnew =>
    obtain rfl := hkey hid
    obtain rfl := hcontent hread
    obtain ⟨p, description', hpattern⟩ := he.content
    have hrecorded : e.content.recorded.map (fun _ ↦ true) = .ok true := by
      rw [hpattern]
      rfl
    have hunknown : ¬ c.Has e.content := by
      rintro ⟨f, hf, hsame⟩
      exact List.find?_eq_none.1 hnew f hf hsame
    rw [hrecorded]
    exact .new hfree hunknown rfl ⟨List.prefix_append _ _, rfl, rfl⟩

/-! ## Reflections of entries -/

/-- The reflection of a content. A value that is no pattern has none and stays as it is. -/
def Content.reflected : Content V → Content V
  | .pattern p _ => .pattern p.reflection (.text "")
  | .value v => .value v

/-- The entry that the reflection of an entry makes. -/
def Entry.reflected (e : Entry V) : Entry V :=
  ⟨.text (Display.text e.id ++ "_reflection"), e.content.reflected⟩

theorem Entry.Presentable.same_reflected (he : e.Presentable) (hf : f.Presentable) :
    e.reflected.content.same f.reflected.content = e.content.same f.content := by
  obtain ⟨p, description, hp⟩ := he.content
  obtain ⟨q, description', hq⟩ := hf.content
  rw [reflected, reflected, hp, hq]
  exact Pattern.same_reflection p q

private theorem Entry.Presentable.same_self (he : e.Presentable) :
    e.content.same e.content = true := by
  obtain ⟨p, description, hp⟩ := he.content
  rw [hp]
  exact beq_self_eq_true p.signature

theorem Entry.Presentable.same_reflected_reflected (he : e.Presentable) :
    e.content.same e.reflected.reflected.content = true := by
  obtain ⟨p, description, hp⟩ := he.content
  rw [reflected, reflected, hp]
  change p.same p.reflection.reflection = true
  rw [Pattern.reflection_reflection]
  exact beq_self_eq_true p.signature

theorem Entry.Presentable.reflected (he : e.Presentable) : e.reflected.Presentable := by
  obtain ⟨p, description, hp⟩ := he.content
  refine ⟨rfl, p.reflection, .text "", ?_⟩
  rw [Entry.reflected, hp]
  rfl

theorem placing_addReflection (hc : c.Presentable) (he : e.Presentable) :
    Placing c e.reflected (c.addReflection e) := by
  obtain ⟨p, description, hp⟩ := he.content
  have hadd : c.addReflection e =
      c.add (.scalar e.reflected.id) (.pattern p.reflection) (.text "") := by
    rw [addReflection, reflectionId, Yaml.Scalar.shown?, if_pos he.id, hp]
    rfl
  have hresolve : (Candidate.pattern p.reflection).resolve c.vocabulary (.text "") =
      .ok e.reflected.content := by
    rw [Entry.reflected, hp]
    rfl
  rw [hadd]
  exact placing hc he.reflected hresolve

private theorem key_reflected_eq_iff : e.reflected.key = f.reflected.id.key ↔
    e.reflected.id = f.reflected.id := by
  rw [Entry.key, Entry.reflected, Entry.reflected, Yaml.Scalar.key_text, Yaml.Scalar.key_text,
    Yaml.Key.text.injEq, Yaml.Scalar.text.injEq]

theorem presentable_append (hc : c.Presentable) (he : e.Presentable)
    (h : d.entries = c.entries ++ [e]) : d.Presentable := by
  intro f hf
  rw [h] at hf
  rcases List.mem_append.1 hf with hf | hf
  · exact hc f hf
  · obtain rfl := List.mem_singleton.1 hf
    exact he

/-! ## One round of reflections -/

/-- **A round of reflections comes to an end** exactly if the ids that the reflections get are not
in use, and no two of them that are new get the same one. -/
theorem addReflectionsOf_eq_ok_iff (hc : c.Presentable) (hes : ∀ e ∈ es, e.Presentable)
    (hdiffer : es.Pairwise fun e f ↦ e.content.same f.content = false) :
    (c.addReflectionsOf es).outcome = .ok () ↔
      (∀ e ∈ es, c.contains e.reflected.id = false) ∧
        es.Pairwise fun e f ↦ e.reflected.id = f.reflected.id → c.Has e.reflected.content := by
  induction es generalizing c with
  | nil => exact iff_of_true rfl ⟨fun e he ↦ absurd he List.not_mem_nil, .nil⟩
  | cons e es ih =>
    obtain ⟨he, hes⟩ := List.forall_mem_cons.1 hes
    obtain ⟨hfirst, hdiffer⟩ := List.pairwise_cons.1 hdiffer
    have hplacing := placing_addReflection hc he
    rw [addReflectionsOf, Change.andThen, List.forall_mem_cons, List.pairwise_cons]
    generalize c.addReflection e = change at hplacing ⊢
    cases hplacing with
    | taken htaken =>
      refine iff_of_false (by rintro ⟨⟩) ?_
      rintro ⟨⟨hfree, -⟩, -⟩
      rw [htaken] at hfree
      cases hfree
    | known hfree hknown =>
      dsimp only
      rw [ih hc hes hdiffer]
      exact ⟨fun h ↦ ⟨⟨hfree, h.1⟩, fun _ _ _ ↦ hknown, h.2⟩, fun h ↦ ⟨h.1.2, h.2.2⟩⟩
    | @new d hfree hnew hentries hgrows =>
      -- The new entry takes up an id, and its content is the reflection of no later entry.
      have hcontains (f : Entry V) : d.contains f.reflected.id = false ↔
          c.contains f.reflected.id = false ∧ e.reflected.id ≠ f.reflected.id := by
        rw [contains_append_iff hentries, Ne, key_reflected_eq_iff]
      have hhas (f : Entry V) (hf : f ∈ es) :
          d.Has f.reflected.content ↔ c.Has f.reflected.content := by
        rw [has_append_iff hentries, he.same_reflected (hes f hf), hfirst f hf]
        exact or_iff_left Bool.false_ne_true
      dsimp only
      rw [ih (presentable_append hc he.reflected hentries) hes hdiffer]
      constructor
      · rintro ⟨hids, hpairs⟩
        refine ⟨⟨hfree, fun f hf ↦ ((hcontains f).1 (hids f hf)).1⟩, fun f hf heq ↦ ?_, ?_⟩
        · exact absurd heq ((hcontains f).1 (hids f hf)).2
        · exact hpairs.imp_of_mem fun hx _ h heq ↦ (hhas _ hx).1 (h heq)
      · rintro ⟨⟨-, hids⟩, hapart, hpairs⟩
        refine ⟨fun f hf ↦ (hcontains f).2 ⟨hids f hf, fun heq ↦ hnew (hapart f hf heq)⟩, ?_⟩
        exact hpairs.imp_of_mem fun hx _ h heq ↦ (hhas _ hx).2 (h heq)

private theorem presentable_of_addReflection {added : Bool}
    (hok : (c.addReflection e).outcome = .ok added) : e.Presentable := by
  obtain ⟨id, content⟩ := e
  rw [addReflection, reflectionId, Yaml.Scalar.shown?] at hok
  split_ifs at hok with hshown
  · cases content with
    | pattern p description => exact ⟨hshown, p, description, rfl⟩
    | value v => cases hok
  · cases hok

theorem presentable_of_addReflectionsOf (hok : (c.addReflectionsOf es).outcome = .ok ()) :
    ∀ e ∈ es, e.Presentable := by
  induction es generalizing c with
  | nil => exact fun e he ↦ absurd he List.not_mem_nil
  | cons e es ih =>
    rw [addReflectionsOf, Change.andThen] at hok
    cases hfirst : (c.addReflection e).outcome with
    | error fault =>
      rw [hfirst] at hok
      cases hok
    | ok added =>
      rw [hfirst] at hok
      exact List.forall_mem_cons.2 ⟨presentable_of_addReflection hfirst, ih hok⟩

/-- A catalogue has grown by the reflections of some entries. -/
structure GrownBy (c : Catalogue V) (es : List (Entry V)) (d : Catalogue V) : Prop where
  /-- What was there is there, in its place. -/
  growsTo : c.GrowsTo d
  /-- The reflections are there. -/
  has : ∀ e ∈ es, d.Has e.reflected.content
  /-- Nothing else was added. -/
  origin : ∀ x ∈ d.entries, x ∈ c.entries ∨ ∃ e ∈ es, x = e.reflected

private theorem GrowsTo.has (h : c.GrowsTo d) {content : Content V} (hhas : c.Has content) :
    d.Has content := by
  obtain ⟨f, hf, hsame⟩ := hhas
  exact ⟨f, h.entries.subset hf, hsame⟩

/-- A round of reflections leaves the reflections, and nothing else that was not there. -/
theorem grownBy_of_addReflectionsOf (hc : c.Presentable) (hes : ∀ e ∈ es, e.Presentable)
    (hok : (c.addReflectionsOf es).outcome = .ok ()) :
    c.GrownBy es (c.addReflectionsOf es).catalogue := by
  induction es generalizing c with
  | nil => exact ⟨.refl c, fun e he ↦ absurd he List.not_mem_nil, fun x hx ↦ .inl hx⟩
  | cons e es ih =>
    obtain ⟨he, hes⟩ := List.forall_mem_cons.1 hes
    have hplacing := placing_addReflection hc he
    rw [addReflectionsOf, Change.andThen] at hok ⊢
    generalize c.addReflection e = change at hplacing hok ⊢
    cases hplacing with
    | taken htaken => cases hok
    | known hfree hknown =>
      obtain ⟨hgrows, hhas, horigin⟩ := ih hc hes hok
      refine ⟨hgrows, List.forall_mem_cons.2 ⟨hgrows.has hknown, hhas⟩, fun x hx ↦ ?_⟩
      rcases horigin x hx with hx | ⟨f, hf, hx⟩
      · exact .inl hx
      · exact .inr ⟨f, List.mem_cons_of_mem e hf, hx⟩
    | @new d hfree hnew hentries hgrows =>
      obtain ⟨hrest, hhas, horigin⟩ := ih (presentable_append hc he.reflected hentries) hes hok
      have hmem : e.reflected ∈ d.entries := by
        rw [hentries]
        exact List.mem_append_right _ (List.mem_singleton_self _)
      refine ⟨hgrows.trans hrest, List.forall_mem_cons.2 ⟨?_, hhas⟩, fun x hx ↦ ?_⟩
      · exact hrest.has ⟨_, hmem, he.reflected.same_self⟩
      · rcases horigin x hx with hx | ⟨f, hf, hx⟩
        · rw [hentries] at hx
          rcases List.mem_append.1 hx with hx | hx
          · exact .inl hx
          · exact .inr ⟨e, List.mem_cons_self, List.mem_singleton.1 hx⟩
        · exact .inr ⟨f, List.mem_cons_of_mem e hf, hx⟩

/-! ## Closed catalogues -/

/-- All entries are patterns, and for every one of them there is an entry that equals its
reflection. -/
def ClosedUnderReflection (c : Catalogue V) : Prop :=
  ∀ e ∈ c.entries, ∃ p description, e.content = .pattern p description ∧
    ∃ f ∈ c.entries, ∃ q description', f.content = .pattern q description' ∧
      q.same p.reflection = true

/-- The ids that reflections get are not in use, and where two of them are the same, the first
reflection is there. -/
structure ReflectionsFit (c : Catalogue V) : Prop where
  free : ∀ e ∈ c.entries, c.contains e.reflected.id = false
  apart : c.entries.Pairwise fun e f ↦ e.reflected.id = f.reflected.id → c.Has e.reflected.content

theorem addReflections_eq_ok_iff (hc : c.Presentable) :
    c.addReflections.outcome = .ok () ↔ c.ReflectionsFit := by
  rw [addReflections, addReflectionsOf_eq_ok_iff hc hc c.contents_differ]
  exact ⟨fun h ↦ ⟨h.1, h.2⟩, fun h ↦ ⟨h.1, h.2⟩⟩

/-- **What a round of reflections leaves is closed.** -/
theorem closed_of_grownBy (hc : c.Presentable) (h : c.GrownBy c.entries d) :
    d.ClosedUnderReflection := by
  have hd : d.Presentable := by
    intro x hx
    rcases h.origin x hx with hx | ⟨e, he, rfl⟩
    · exact hc x hx
    · exact (hc e he).reflected
  have hreflected : ∀ x ∈ d.entries, d.Has x.reflected.content := by
    intro x hx
    rcases h.origin x hx with hx | ⟨e, he, rfl⟩
    · exact h.has x hx
    · exact ⟨e, h.growsTo.entries.subset he, (hc e he).same_reflected_reflected⟩
  intro x hx
  obtain ⟨p, description, hp⟩ := (hd x hx).content
  obtain ⟨f, hf, hsame⟩ := hreflected x hx
  obtain ⟨q, description', hq⟩ := (hd f hf).content
  rw [Entry.reflected, hp, hq] at hsame
  exact ⟨p, description, hp, f, hf, q, description', hq, hsame⟩

end Motif.Catalogue
