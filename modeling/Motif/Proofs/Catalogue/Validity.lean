import Motif.Catalogue.Load

/-!
# Entries of catalogue files

An entry of a file is *new* next to some others if its id is a scalar that is not in use and its
pattern is a text that stands for a pattern which is not there yet. A file adds its new entries one
after the other (`additions`).

Entries that are not new have to be refused. This can be done for those that are *manageable*: there
is a reason to refuse them which can be reported. Some entries are not: one whose id has parts, one
whose text exceeds a limit of regular expressions that is not seen as a mistake, one that is refused
and cannot be reported because its id is a number of too many digits, and one whose pattern is no
text and not there already. An entry with a text under an id that can be shown is manageable, those
limits apart (`manageable_of_showable`).
-/

namespace Motif.Catalogue

variable {V : Type}

/-! ## New entries -/

/-- The entry `e` is what an entry of a file stands for, and it is new next to the entries `es`. -/
structure IsNew (voc : Vocabulary V) (es : List (Entry V)) (l : Listing) (e : Entry V) : Prop where
  /-- The id is a scalar. -/
  id : l.id = .scalar e.id
  /-- The pattern is a text that can be read. -/
  content : ∃ s p, l.pattern = .text s ∧ Pattern.read voc s = .ok p ∧
    e.content = .pattern p l.description
  /-- The id is not in use. -/
  free : ∀ f ∈ es, f.key ≠ e.key
  /-- No content equals the pattern. -/
  differs : ∀ f ∈ es, f.content.same e.content = false

/-- The entry that an entry of a file stands for, if it is new. -/
def newcomer? (voc : Vocabulary V) (es : List (Entry V)) (l : Listing) : Option (Entry V) :=
  match l.id, l.pattern with
  | .scalar id, .scalar (.text s) =>
    match Pattern.read voc s with
    | .ok p =>
      let e : Entry V := ⟨id, .pattern p l.description⟩
      if es.all fun f ↦ f.key ≠ e.key && !f.content.same e.content then some e else none
    | .error _ => none
  | _, _ => none

variable {voc : Vocabulary V} {es : List (Entry V)} {l : Listing} {e : Entry V}

theorem newcomer?_eq_some_iff : newcomer? voc es l = some e ↔ IsNew voc es l e := by
  have hall (e : Entry V) : (es.all fun f ↦ f.key ≠ e.key && !f.content.same e.content) = true ↔
      ∀ f ∈ es, f.key ≠ e.key ∧ f.content.same e.content = false := by
    simp [List.all_eq_true]
  obtain ⟨lid, lpattern, description⟩ := l
  constructor
  · intro h
    unfold newcomer? at h
    split at h
    · next id s hid hs =>
      dsimp only at hid hs
      split at h
      · next p hp =>
        dsimp only at h
        split at h
        · next hnew =>
          obtain rfl := Option.some_inj.1 h
          have hnew := (hall _).1 hnew
          exact ⟨hid, ⟨s, p, hs, hp, rfl⟩, fun f hf ↦ (hnew f hf).1, fun f hf ↦ (hnew f hf).2⟩
        · exact nomatch h
      · exact nomatch h
    · exact nomatch h
  · rintro ⟨hid, ⟨s, p, hs, hp, hcontent⟩, hfree, hdiffers⟩
    obtain ⟨id, content⟩ := e
    dsimp only at hid hs hcontent
    subst hid hs hcontent
    have hnew := (hall ⟨id, .pattern p description⟩).2 fun f hf ↦ ⟨hfree f hf, hdiffers f hf⟩
    simp only [newcomer?, hp]
    exact if_pos hnew

/-- What a value of a file adds to the entries `es`: an entry of the file that is new, and what it
stands for. -/
def addition? (voc : Vocabulary V) (es : List (Entry V)) (v : Yaml.Value) :
    Option (Listing × Entry V) := do
  let l ← Listing.ofValue? v
  let e ← newcomer? voc es l
  pure (l, e)

/-- What values of a file add to the entries `es` one after the other. -/
def additions (voc : Vocabulary V) (es : List (Entry V)) :
    List Yaml.Value → List (Listing × Entry V)
  | [] => []
  | v :: vs =>
    let added := (addition? voc es v).toList
    added ++ additions voc (es ++ added.map Prod.snd) vs

/-- The values of a file that add nothing, with their indices, of which the first is `index`. -/
def refused (voc : Vocabulary V) (es : List (Entry V)) (index : Nat) :
    List Yaml.Value → List (Nat × Yaml.Value)
  | [] => []
  | v :: vs =>
    match addition? voc es v with
    | some x => refused voc (es ++ [x.2]) (index + 1) vs
    | none => (index, v) :: refused voc es (index + 1) vs

theorem addition?_eq_some_iff {v : Yaml.Value} {x : Listing × Entry V} :
    addition? voc es v = some x ↔ Listing.ofValue? v = some x.1 ∧ IsNew voc es x.1 x.2 := by
  rw [addition?]
  cases hv : Listing.ofValue? v with
  | none => exact ⟨fun h ↦ (nomatch h), fun h ↦ (nomatch h.1)⟩
  | some l =>
    cases hnew : newcomer? voc es l with
    | none =>
      refine ⟨fun h ↦ absurd h (by simp [hnew]), fun h ↦ ?_⟩
      obtain rfl := Option.some_inj.1 h.1
      exact absurd (newcomer?_eq_some_iff.2 h.2) (by simp [hnew])
    | some e =>
      constructor
      · intro h
        obtain rfl : (l, e) = x := by simpa [hnew] using h
        exact ⟨rfl, newcomer?_eq_some_iff.1 hnew⟩
      · rintro ⟨hl, he⟩
        obtain rfl := Option.some_inj.1 hl
        have hx := hnew.symm.trans (newcomer?_eq_some_iff.2 he)
        obtain rfl := Option.some_inj.1 hx
        simp [hnew]

/-! ## Values as candidates -/

/-- A value of a file that is a text is read, and any other is left as it is. -/
theorem resolve_ofValue (voc : Vocabulary V) (w description : Yaml.Value) :
    (∃ s, w = .text s ∧ (Candidate.ofValue w : Candidate V) = .text s) ∨
      (Candidate.ofValue w : Candidate V).resolve voc description = .ok (.value w) := by
  cases w with
  | scalar k =>
    cases k with
    | text s => exact .inl ⟨s, rfl, rfl⟩
    | _ => exact .inr rfl
  | _ => exact .inr rfl

theorem resolve_text {s : String} {description : Yaml.Value} :
    (Candidate.text s).resolve voc description =
      (Pattern.read voc s).map fun p ↦ .pattern p description := by
  rw [Candidate.resolve]
  cases Pattern.read voc s <;> rfl

/-! ## Manageable entries -/

/-- An entry of a file can be dealt with next to the entries `es`: it is new, or there is a reason
to refuse it which can be reported. -/
inductive Manageable (voc : Vocabulary V) (es : List (Entry V)) (l : Listing) : Prop where
  /-- The entry is new. -/
  | new {e : Entry V} (h : IsNew voc es l e)
  /-- The id is in use. -/
  | taken {id : Yaml.Scalar} (hid : l.id = .scalar id) (hshown : id.isShowable = true)
    (h : ∃ f ∈ es, f.key = id.key)
  /-- The text is no pattern, and this is seen as a mistake. -/
  | unread {id : Yaml.Scalar} {fault : TextFault} (hid : l.id = .scalar id)
    (hshown : id.isShowable = true)
    (hread : (Candidate.ofValue l.pattern).resolve voc l.description = .error fault)
    (hskip : (AddFault.text fault).isSkipped = true)
  /-- What the entry holds is there already, be it a pattern or not. -/
  | known {id : Yaml.Scalar} {content : Content V} (hid : l.id = .scalar id)
    (hshown : id.isShowable = true)
    (hread : (Candidate.ofValue l.pattern).resolve voc l.description = .ok content)
    (h : ∃ f ∈ es, f.content.same content = true)

/-- An entry with an id that can be shown and a text is manageable, unless its pattern exceeds a
limit that ends the loading. -/
theorem manageable_of_showable {id : Yaml.Scalar} {s : String} (hid : l.id = .scalar id)
    (hshown : id.isShowable = true) (hs : l.pattern = .text s)
    (hskip : ∀ fault, Pattern.read voc s = .error fault →
      (AddFault.text fault).isSkipped = true) : Manageable voc es l := by
  have hresolve : (Candidate.ofValue l.pattern).resolve voc l.description =
      (Pattern.read voc s).map fun p ↦ .pattern p l.description := by
    rw [hs]
    exact resolve_text
  cases hread : Pattern.read voc s with
  | error fault =>
    rw [hread] at hresolve
    exact .unread hid hshown hresolve (hskip fault hread)
  | ok p =>
    rw [hread] at hresolve
    by_cases hsame : ∃ f ∈ es, f.content.same (.pattern p l.description) = true
    · exact .known hid hshown hresolve hsame
    · by_cases htaken : ∃ f ∈ es, f.key = id.key
      · exact .taken hid hshown htaken
      · refine .new (e := ⟨id, .pattern p l.description⟩)
          ⟨hid, ⟨s, p, hs, hread, rfl⟩, ?_, ?_⟩
        · exact fun f hf hkey ↦ htaken ⟨f, hf, hkey⟩
        · exact fun f hf ↦ eq_false_of_ne_true fun h ↦ hsame ⟨f, hf, h⟩

/-- Whether an entry of a file can be dealt with next to the entries `es`. -/
def isManageable (voc : Vocabulary V) (es : List (Entry V)) (l : Listing) : Bool :=
  (newcomer? voc es l).isSome ||
    match l.id with
    | .scalar id => id.isShowable && ((es.any fun f ↦ f.key = id.key) ||
      match (Candidate.ofValue l.pattern).resolve voc l.description with
      | .error fault => (AddFault.text fault).isSkipped
      | .ok content => es.any fun f ↦ f.content.same content)
    | _ => false

theorem isManageable_iff : isManageable voc es l = true ↔ Manageable voc es l := by
  rw [isManageable, Bool.or_eq_true, Option.isSome_iff_exists]
  constructor
  · rintro (⟨e, hnew⟩ | hold)
    · exact .new (newcomer?_eq_some_iff.1 hnew)
    · split at hold
      · next id hid =>
        obtain ⟨hshown, hold⟩ := (Bool.and_eq_true _ _).mp hold
        rcases (Bool.or_eq_true _ _).mp hold with htaken | hread
        · exact .taken hid hshown (by simpa using htaken)
        · split at hread
          · next fault hfault => exact .unread hid hshown hfault hread
          · next content hcontent => exact .known hid hshown hcontent (by simpa using hread)
      · exact nomatch hold
  · intro h
    cases h with
    | new h => exact .inl ⟨_, newcomer?_eq_some_iff.2 h⟩
    | taken hid hshown h =>
      refine .inr ?_
      rw [hid]
      simp [hshown, h]
    | unread hid hshown hread hskip =>
      refine .inr ?_
      rw [hid, hread]
      simp [hshown, hskip]
    | known hid hshown hread h =>
      refine .inr ?_
      rw [hid, hread]
      simp [hshown, h]

instance : Decidable (Manageable voc es l) := decidable_of_iff _ isManageable_iff

/-- Each of some values of a file, if it is an entry, is manageable next to the entries `es` and
what the values before it add to them. -/
def ManageableInTurn (voc : Vocabulary V) (es : List (Entry V)) (vs : List Yaml.Value) : Prop :=
  ∀ us v ws, vs = us ++ v :: ws → ∀ l ∈ Listing.ofValue? v,
    Manageable voc (es ++ (additions voc es us).map Prod.snd) l

theorem manageableInTurn_cons_iff {v : Yaml.Value} {vs : List Yaml.Value} :
    ManageableInTurn voc es (v :: vs) ↔
      (∀ l ∈ Listing.ofValue? v, Manageable voc es l) ∧
        ManageableInTurn voc (es ++ (addition? voc es v).toList.map Prod.snd) vs := by
  constructor
  · intro h
    constructor
    · have hfirst := h [] v vs rfl
      simpa [additions] using hfirst
    · rintro us w ws rfl
      have hrest := h (v :: us) w ws rfl
      simpa [additions] using hrest
  · rintro ⟨hfirst, hrest⟩ us w ws hsplit
    rcases List.cons_eq_append_iff.1 hsplit with ⟨rfl, hw⟩ | ⟨us, rfl, hus⟩
    · obtain ⟨rfl, -⟩ := List.cons_eq_cons.1 hw
      simpa [additions] using hfirst
    · have hlater := hrest us w ws hus
      simpa [additions] using hlater

/-- Whether the values of a file are manageable in turn can be found out one after the other. -/
def decideManageableInTurn (voc : Vocabulary V) :
    (es : List (Entry V)) → (vs : List Yaml.Value) → Decidable (ManageableInTurn voc es vs)
  | _, [] => .isTrue fun us v ws hsplit ↦ absurd hsplit (by simp)
  | es, v :: vs =>
    have := decideManageableInTurn voc (es ++ (addition? voc es v).toList.map Prod.snd) vs
    decidable_of_iff _ manageableInTurn_cons_iff.symm

instance (vs : List Yaml.Value) : Decidable (ManageableInTurn voc es vs) :=
  decideManageableInTurn voc es vs

end Motif.Catalogue
