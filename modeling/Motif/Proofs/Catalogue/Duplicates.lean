import Motif.Proofs.Catalogue.Run
import Motif.Proofs.Pattern.RoundTrip

/-!
# Equal patterns are interchangeable

Patterns are compared by their signatures, in which a test of nodes is nothing but its text, while
searches ask the test itself. For patterns that have been read this makes no difference: the
canonical text of an expression determines what it means, down to the first fault, and so patterns
with the same signature make the same tests (`eq_of_same`). A catalogue that declines a pattern
therefore has one that finds the same matches.
-/

namespace Motif

variable {V : Type} {voc : Vocabulary V}

namespace Pattern

theorem Readable.eq_of_same {p q : Pattern V} (hp : p.Readable voc) (hq : q.Readable voc)
    (h : p.same q = true) : p = q := by
  have hsignature : p.signature = q.signature := eq_of_beq h
  obtain ⟨hfirst, hlinks⟩ := Signature.mk.inj hsignature
  have hlink (l l' : Link V) (hl : l.edge.Readable ∧ l.node.Readable voc)
      (hl' : l'.edge.Readable ∧ l'.node.Readable voc)
      (heq : (l.edge, l.node.signature) = (l'.edge, l'.node.signature)) : l = l' := by
    obtain ⟨hedge, hnode⟩ := Prod.mk.inj heq
    exact congrArg₂ Link.mk hedge (hl.2.eq_of_signature hl'.2 hnode)
  exact congrArg₂ Pattern.mk (hp.first.eq_of_signature hq.first hfirst)
    (eq_of_map_eq hlink hp.links hq.links hlinks)

variable [DecidableEq V]

/-- All searches for two patterns have the same outcome, be it matches or a fault. -/
def SearchAlike (p q : Pattern V) : Prop :=
  ∀ g anchor limit, p.search g anchor limit = q.search g anchor limit

theorem searchAlike_of_same {s t : String} {p q : Pattern V} (hp : read voc s = .ok p)
    (hq : read voc t = .ok q) (h : p.same q = true) : p.SearchAlike q := by
  obtain rfl := (readable_of_read hp).eq_of_same (readable_of_read hq) h
  exact fun g anchor limit ↦ rfl

/-- A catalogue that declines a pattern has one that is searched for alike. -/
theorem exists_searchAlike_of_add {c : Catalogue V}
    (hc : ∀ e ∈ c.entries, ∃ t q description,
      read c.vocabulary t = .ok q ∧ e.content = .pattern q description)
    {id description : Yaml.Value} {s : String}
    (h : (c.add id (.text s) description).outcome = .ok false) :
    ∃ p, read c.vocabulary s = .ok p ∧ ∃ e ∈ c.entries, ∃ q description',
      e.content = .pattern q description' ∧ q.SearchAlike p := by
  have hadding := c.adding id (.text s) description
  generalize c.add id (.text s) description = change at h hadding
  cases hadding with
  | composite | taken | unread | unreportable => exact nomatch h
  | @new _ content =>
    have htrue : content.recorded.map (fun _ ↦ true) = .ok false := h
    cases hrecorded : content.recorded <;> exact nomatch hrecorded ▸ htrue
  | @known _ content e _ _ _ hread he hsame _ =>
    obtain ⟨p, hp, rfl⟩ := bind_pure_eq_ok_iff.1 hread
    obtain ⟨t, q, description', hq, hcontent⟩ := hc e he
    rw [hcontent] at hsame
    exact ⟨p, hp, e, he, q, description', hcontent, searchAlike_of_same hq hp hsame⟩

/-- **Equality is sound.** Equal patterns that are read with one vocabulary are searched for alike.
Tests that are read and have the same canonical text give the same answers and faults. A pattern
that a catalogue declines is searched for like one that the catalogue has. -/
theorem same_sound (voc : Vocabulary V) :
    (∀ s t (p q : Pattern V), read voc s = .ok p → read voc t = .ok q → p.same q = true →
      p.SearchAlike q) ∧
    (∀ cs ds i j (t u : NodeTest V), Expression.compile voc cs i = .ok t →
      Expression.compile voc ds j = .ok u → t.text = u.text →
      ∀ v, t.matchText v = u.matchText v) ∧
    (∀ c : Catalogue V, c.vocabulary = voc →
      (∀ e ∈ c.entries, ∃ t q description,
        read voc t = .ok q ∧ e.content = .pattern q description) →
      ∀ id s description, (c.add id (.text s) description).outcome = .ok false →
        ∃ p, read voc s = .ok p ∧ ∃ e ∈ c.entries, ∃ q description',
          e.content = .pattern q description' ∧ q.SearchAlike p) := by
  refine ⟨fun s t p q hp hq h ↦ searchAlike_of_same hp hq h, fun cs ds i j t u ht hu h v ↦ ?_, ?_⟩
  · obtain ⟨e, he, rfl⟩ := Expression.compile_eq_ok_iff.1 ht
    obtain ⟨f, hf, rfl⟩ := Expression.compile_eq_ok_iff.1 hu
    rw [toTest_eq_of_text (Expression.writable_of_read he) (Expression.writable_of_read hf) h]
  · rintro c rfl hc id s description h
    exact exists_searchAlike_of_add hc h

/-- A disjunction that is grouped to the left, with other quotes and blanks than the next. -/
def groupedLeft : String := "(self='a'|age='1') | self='b'"

/-- The same disjunction grouped to the right. -/
def groupedRight : String := "self=\"a\"|(age=\"1\"|self=\"b\")"

theorem same_sound_grouped :
    ∃ p q : Pattern String, read Expression.echo groupedLeft = .ok p ∧
      read Expression.echo groupedRight = .ok q ∧ p.same q = true ∧ p.SearchAlike q ∧
      (∃ t u, Expression.compile Expression.echo groupedLeft.toList 0 = .ok t ∧
        Expression.compile Expression.echo groupedRight.toList 0 = .ok u ∧ t.text = u.text ∧
        ∀ v, t.matchText v = u.matchText v) ∧
      ∃ c : Catalogue String, c.entries = [⟨.text "left", .pattern p (.text "")⟩] ∧
        (c.add (.text "right") (.text groupedRight) (.text "")).outcome = .ok false ∧
        ∃ p', read Expression.echo groupedRight = .ok p' ∧
          ∃ e ∈ c.entries, ∃ q' description,
            e.content = .pattern q' description ∧ q'.SearchAlike p' := by
  obtain ⟨hpatterns, htests, hcatalogue⟩ := same_sound Expression.echo
  have hsame : (do
      let p ← (read Expression.echo groupedLeft).toOption
      let q ← (read Expression.echo groupedRight).toOption
      pure (p.same q)) = some true := by
    cbv
  obtain ⟨p, hp, hsame⟩ := Option.bind_eq_some_iff.1 hsame
  obtain ⟨q, hq, hsame⟩ := Option.bind_eq_some_iff.1 hsame
  rw [toOption_eq_some_iff] at hp hq
  replace hsame : p.same q = true := Option.some_inj.1 hsame
  -- The two are read as different expressions with one text.
  let e : Expression := .or (.or (.test "self" "a") (.test "age" "1")) (.test "self" "b")
  let f : Expression := .or (.test "self" "a") (.or (.test "age" "1") (.test "self" "b"))
  have he : Expression.read Expression.echo groupedLeft.toList = .ok e := by
    set_option maxRecDepth 2048 in cbv
  have hf : Expression.read Expression.echo groupedRight.toList = .ok f := by
    set_option maxRecDepth 2048 in cbv
  have htext : (e.toTest Expression.echo).text = (f.toTest Expression.echo).text := rfl
  have ht : Expression.compile Expression.echo groupedLeft.toList 0 = .ok (e.toTest _) :=
    Expression.compile_eq_ok_iff.2 ⟨e, he, rfl⟩
  have hu : Expression.compile Expression.echo groupedRight.toList 0 = .ok (f.toTest _) :=
    Expression.compile_eq_ok_iff.2 ⟨f, hf, rfl⟩
  let c : Catalogue String :=
    (Catalogue.empty Expression.echo none).append ⟨.text "left", .pattern p (.text "")⟩ rfl rfl
  have hnamed : c.Named := fun e he ↦ ⟨"left", p, .text "", List.mem_singleton.1 he⟩
  have hids : .text "right" ∉ c.ids := by
    have heq : c.ids = [.text "left"] := rfl
    rw [heq]
    decide
  have hoffering := Catalogue.offering hnamed "right" (.text groupedRight) (.text "")
  have hdeclined := (hoffering.registers hnamed).false_iff.2
    ⟨hids, q, hq, (.text "left", p), List.mem_singleton.2 rfl, hsame⟩
  refine ⟨p, q, hp, hq, hsame, hpatterns _ _ p q hp hq hsame,
    ⟨_, _, ht, hu, htext, htests _ _ _ _ _ _ ht hu htext⟩, c, rfl, hdeclined,
    hcatalogue c rfl (fun e he ↦ ?_) _ _ _ hdeclined⟩
  obtain rfl := List.mem_singleton.1 he
  exact ⟨_, p, _, hp, rfl⟩

end Pattern

end Motif
