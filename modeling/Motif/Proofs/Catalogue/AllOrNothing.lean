import Motif.Proofs.Catalogue.Questions

/-!
# Registration is all or nothing

An attempt to register something that fails should leave no trace: afterwards the catalogue gives
the same answers as before (`AnswersLike`). This is so wherever the attempt fails before anything is
written, because of the id, because of the text, or because a report cannot be made.

A value that is no pattern is written first and found out then. It takes up the id that it was
offered for, and stays. So an attempt leaves no trace exactly if it is not one to register such a
value under an id that is free, next to no equal value (`add_allOrNothing_iff`). What stays behind
is more than an id: a catalogue with such an entry finds no matches any more and has no statistics
(`not_answers_of_value`).
-/

namespace Motif.Catalogue

variable {V : Type} {c : Catalogue V} {id description : Yaml.Value} {candidate : Candidate V}

/-- Nothing keeps a value from being registered under an id: the id is a scalar that is not in use,
and no content equals the value. -/
def Admits (c : Catalogue V) (id v : Yaml.Value) : Prop :=
  ∃ key, id.asKey = .ok key ∧ c.contains key = false ∧
    ∀ e ∈ c.entries, e.content.same (.value v) = false

/-! ## What a failed attempt leaves -/

private theorem recorded_pattern (p : Pattern V) (description : Yaml.Value) :
    (Content.pattern p description).recorded = .ok () := rfl

private theorem exists_recorded_value (v : Yaml.Value) :
    ∃ fault, (Content.value v : Content V).recorded = .error fault := by
  rw [Content.recorded, Content.shown?]
  cases v.shown? with
  | ok text => exact ⟨_, rfl⟩
  | error fault => exact ⟨_, rfl⟩

private theorem eq_value_of_resolve {voc : Vocabulary V} {v : Yaml.Value}
    (h : candidate.resolve voc description = .ok (.value v)) : candidate = .value v := by
  cases candidate with
  | text s =>
    obtain ⟨p, -, hp⟩ := bind_pure_eq_ok_iff.1 h
    exact nomatch hp
  | pattern p => exact nomatch Except.ok.inj h
  | value w => rw [Content.value.inj (Except.ok.inj h)]

private theorem same_eq_false_of_find? {content : Content V}
    (h : c.entries.find? (fun f ↦ f.content.same content) = none) :
    ∀ e ∈ c.entries, e.content.same content = false := by
  intro e he
  exact Bool.eq_false_iff.2 (List.find?_eq_none.1 h e he)

/-- An attempt that fails leaves the catalogue as it was, unless it was to register a value that is
no pattern, and nothing but that was wrong. -/
theorem Adding.catalogue_of_error {change : Change V AddFault Bool} {fault : AddFault}
    (h : Adding c id candidate description change) (herror : change.outcome = .error fault) :
    change.catalogue = c ∨ ∃ v, candidate = .value v ∧ c.Admits id v := by
  cases h with
  | composite | taken | unread | unreportable => exact .inl rfl
  | known => exact nomatch herror
  | @new key content hid hfree hread hnew =>
    cases content with
    | pattern p d =>
      rw [recorded_pattern] at herror
      exact nomatch herror
    | value v =>
      exact .inr ⟨v, eq_value_of_resolve hread, key, hid, hfree, same_eq_false_of_find? hnew⟩

/-- A value that is no pattern and is let in is a fault, and stays under the id. -/
theorem Adding.of_admits {v : Yaml.Value} {change : Change V AddFault Bool}
    (h : Adding c id (.value v) description change) (hadmits : c.Admits id v) :
    (∃ fault, change.outcome = .error fault) ∧
      ∃ key, change.catalogue.entries = c.entries ++ [⟨key, .value v⟩] := by
  obtain ⟨key, hkey, hfree, hdiffers⟩ := hadmits
  have hvalue {content : Content V}
      (hread : (Candidate.value v).resolve c.vocabulary description = .ok content) :
      content = .value v := (Except.ok.inj hread).symm
  cases h with
  | composite hid => exact nomatch hkey.symm.trans hid
  | taken hid htaken =>
    obtain rfl := Except.ok.inj (hkey.symm.trans hid)
    exact absurd (htaken.symm.trans hfree) (by decide)
  | unread _ _ hread => exact nomatch hread
  | known _ _ hread he hsame _ | unreportable _ _ hread he hsame _ =>
    rw [hvalue hread, hdiffers _ he] at hsame
    exact absurd hsame (by decide)
  | new hid _ hread _ =>
    obtain rfl := hvalue hread
    obtain ⟨fault, hfault⟩ := exists_recorded_value (V := V) v
    refine ⟨⟨fault, ?_⟩, _, rfl⟩
    rw [hfault]
    rfl

/-! ## What a catalogue answers -/

/-- A catalogue gives the same answers as another to everything that it can be asked. -/
structure AnswersLike [Payload V] [DecidableEq V] (d c : Catalogue V) : Prop where
  /-- The ids are the same, in the same order. -/
  ids : d.ids = c.ids
  /-- There are as many entries. -/
  size : d.size = c.size
  /-- The same contents with the same descriptions are registered under every id. -/
  get : ∀ id, d.get id = c.get id
  /-- Matches are explained in the same words. -/
  explain : ∀ f, d.explain f = c.explain f
  /-- The statistics are the same. -/
  statistics : d.statistics = c.statistics
  /-- The same matches are found in every graph. -/
  search : ∀ g, d.search g = c.search g

theorem AnswersLike.refl [Payload V] [DecidableEq V] (c : Catalogue V) : c.AnswersLike c :=
  ⟨rfl, rfl, fun _ ↦ rfl, fun _ ↦ rfl, rfl, fun _ ↦ rfl⟩

/-- **Registration is all or nothing** exactly if it is not a value that is no pattern for which an
id is free. -/
theorem add_allOrNothing_iff [Payload V] [DecidableEq V] (c : Catalogue V) (id : Yaml.Value)
    (candidate : Candidate V) (description : Yaml.Value) :
    (∀ fault, (c.add id candidate description).outcome = .error fault →
        (c.add id candidate description).catalogue.AnswersLike c) ↔
      ¬ ∃ v, candidate = .value v ∧ c.Admits id v := by
  have hadding := adding c id candidate description
  generalize c.add id candidate description = change at hadding ⊢
  constructor
  · rintro hkeeps ⟨v, rfl, hadmits⟩
    obtain ⟨⟨fault, hfault⟩, key, hentries⟩ := hadding.of_admits hadmits
    -- There is one entry more than before.
    have hsize := (hkeeps fault hfault).size
    rw [size, size, hentries, List.length_append, List.length_singleton] at hsize
    omega
  · intro hvalue fault hfault
    rcases hadding.catalogue_of_error hfault with hsame | hadmits
    · rw [hsame]
      exact .refl c
    · exact absurd hadmits hvalue

/-- A number in the place of a pattern. The attempt to register it fails, and afterwards it is
there. -/
theorem not_allOrNothing_of_number :
    ((empty .standard none : Catalogue Token).add (.text "a") (.ofValue (.scalar (.number 5)))
        (.text "")).outcome = .error (.noPattern (.noField "int" "edge_matchers")) ∧
      (empty .standard none : Catalogue Token).ids = [] ∧
      ((empty .standard none : Catalogue Token).add (.text "a") (.ofValue (.scalar (.number 5)))
        (.text "")).catalogue.ids = [.text "a"] ∧
      ¬ ((empty .standard none : Catalogue Token).add (.text "a") (.ofValue (.scalar (.number 5)))
        (.text "")).catalogue.AnswersLike (empty .standard none) := by
  refine ⟨by decide +kernel, rfl, by decide +kernel, fun h ↦ ?_⟩
  exact absurd h.size (by decide +kernel)

/-! ## What a value does to a catalogue -/

/-- A catalogue that holds a value has no statistics and finds no matches, in any graph. -/
theorem not_answers_of_value [Payload V] [DecidableEq V] {e : Entry V} {v : Yaml.Value}
    (he : e ∈ c.entries) (hvalue : e.content = .value v) :
    (∀ s, c.statistics ≠ .ok s) ∧ ∀ g findings, (c.search g).result.1 ≠ .ok findings := by
  constructor
  · intro s hs
    obtain ⟨ps, hps, -⟩ := bind_eq_ok_iff.1 hs
    obtain ⟨p, hp⟩ := exists_eq_ok_of_mapM hps e he
    rw [hvalue] at hp
    exact nomatch hp
  · intro g findings hfound
    have hyields : (c.search g).Yields _ :=
      (Journaled.yields_mapM fun e _ ↦ e.search_yields c.limit g).bind fun findings ↦
        Journaled.yields_pure findings.flatten
    rw [hyields.result_fst] at hfound
    obtain ⟨found, hfound, -⟩ := bind_eq_ok_iff.1 hfound
    obtain ⟨ms, hms⟩ := exists_eq_ok_of_mapM hfound e he
    rw [hvalue] at hms
    exact nomatch hms

end Motif.Catalogue
