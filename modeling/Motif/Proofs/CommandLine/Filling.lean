import Motif.CommandLine.Run
import Motif.Proofs.Catalogue.Reflection

/-!
# The catalogue of a command line

A command line fills a catalogue: with the patterns that it gives, under ids that number them, with
those of a file, and, if it asks for them, with the reflections of them all. Patterns that are texts
of patterns are no obstacle, and neither are those of the file whose entries are valid, with one
exception: an id that is a number of too many digits cannot be shown, and so it can neither be
reported nor be made into the id of a reflection.

So all that can stand in the way of the reflections, those numbers apart, are the ids that they get
(`fill_reflects_iff`).
-/

namespace Motif

namespace Catalogue

variable {V : Type} {c d : Catalogue V} {voc : Vocabulary V} {v : Yaml.Value} {vs : List Yaml.Value}

/-! ## Valid entries of files -/

/-- The id is a scalar, and the pattern is the text of a pattern. -/
structure Listing.IsValid (voc : Vocabulary V) (l : Listing) : Prop where
  id : ∃ id, l.id = .scalar id
  pattern : ∃ s p, l.pattern = .text s ∧ Pattern.read voc s = .ok p

def Listing.isValid (voc : Vocabulary V) (l : Listing) : Bool :=
  match l.id, l.pattern with
  | .scalar _, .scalar (.text s) => (Pattern.read voc s).toOption.isSome
  | _, _ => false

theorem Listing.isValid_iff {l : Listing} : l.isValid voc = true ↔ l.IsValid voc := by
  constructor
  · intro h
    rw [isValid] at h
    split at h
    · next id s hid hpattern =>
      obtain ⟨p, hp⟩ := Option.isSome_iff_exists.1 h
      exact ⟨⟨id, hid⟩, s, p, hpattern, toOption_eq_some_iff.1 hp⟩
    · exact nomatch h
  · rintro ⟨⟨id, hid⟩, s, p, hs, hp⟩
    rw [isValid, hid, hs]
    exact Option.isSome_iff_exists.2 ⟨p, toOption_eq_some_iff.2 hp⟩

instance (l : Listing) : Decidable (l.IsValid voc) := decidable_of_iff _ Listing.isValid_iff

theorem Listing.IsValid.manageable {es : List (Entry V)} {l : Listing} (h : l.IsValid voc)
    (hshown : l.id.isShowable = true) : Manageable voc es l := by
  obtain ⟨id, hid⟩ := h.id
  obtain ⟨s, p, hs, hp⟩ := h.pattern
  rw [hid] at hshown
  exact manageable_of_showable hid hshown hs fun fault hfault ↦ nomatch hp.symm.trans hfault

/-- A valid entry is loaded, and the catalogue can still be shown, exactly if its id can be
shown. -/
private theorem loadEntry_presentable_iff (source : String) (index : Nat) (hc : c.Presentable)
    (hv : ∀ l ∈ Listing.ofValue? v, l.IsValid c.vocabulary) :
    ((∃ added, (c.loadEntry source index v).outcome = .ok added) ∧
      (c.loadEntry source index v).catalogue.Presentable) ↔
    ∀ l ∈ Listing.ofValue? v, l.id.isShowable = true := by
  constructor
  · rintro ⟨⟨added, hok⟩, hpresentable⟩ l hl
    rcases manageable_or_registered hl hok with hmanageable | ⟨id, w, hentries⟩
    · cases hmanageable with
      | taken hid hshown | unread hid hshown | known hid hshown =>
        rw [hid]
        exact hshown
      | @new e hnew =>
        obtain ⟨d, hload, -, hentries, -⟩ := loadEntry_of_addition source index
          (addition?_eq_some_iff (x := (l, e)).2 ⟨hl, hnew⟩)
        rw [hload] at hpresentable
        have hmem : e ∈ d.entries := hentries ▸ List.mem_append_right _ (List.mem_singleton_self e)
        rw [hnew.id]
        exact (hpresentable e hmem).id
    · obtain ⟨p, description, hp⟩ := (hpresentable ⟨id, .value w⟩
        (hentries ▸ List.mem_append_right _ (List.mem_singleton_self _))).content
      exact nomatch hp
  · intro hshown
    cases hx : addition? c.vocabulary c.entries v with
    | some x =>
      obtain ⟨hl, hnew⟩ := addition?_eq_some_iff.1 hx
      obtain ⟨d, hload, -, hentries, -⟩ := loadEntry_of_addition source index hx
      obtain ⟨s, p, -, -, hcontent⟩ := hnew.content
      have hid : x.2.id.isShowable = true := by
        have hlisted := hshown x.1 hl
        rw [hnew.id] at hlisted
        exact hlisted
      rw [hload]
      exact ⟨⟨true, rfl⟩, presentable_append hc ⟨hid, p, _, hcontent⟩ hentries⟩
    | none =>
      obtain ⟨r, hload, -⟩ := exists_report source index hx fun l hl ↦
        (hv l hl).manageable (hshown l hl)
      rw [hload]
      exact ⟨⟨false, rfl⟩, hc⟩

private theorem GrowsTo.presentable (h : c.GrowsTo d) (hd : d.Presentable) : c.Presentable :=
  fun e he ↦ hd e (h.entries.subset he)

/-- Valid entries are loaded, and the catalogue can still be shown, exactly if all ids can be
shown. -/
theorem loadEntries_presentable_iff (source : String) (index count : Nat) (hc : c.Presentable)
    (hvs : ∀ v ∈ vs, ∀ l ∈ Listing.ofValue? v, l.IsValid c.vocabulary) :
    ((∃ n, (c.loadEntries source index count vs).outcome = .ok n) ∧
      (c.loadEntries source index count vs).catalogue.Presentable) ↔
    ∀ v ∈ vs, ∀ l ∈ Listing.ofValue? v, l.id.isShowable = true := by
  induction vs generalizing c index count with
  | nil => exact iff_of_true ⟨⟨count, rfl⟩, hc⟩ fun v hv ↦ absurd hv List.not_mem_nil
  | cons v vs ih =>
    obtain ⟨hv, hvs⟩ := List.forall_mem_cons.1 hvs
    have hfirst := loadEntry_presentable_iff source index hc hv
    have hgrows := loadEntry_growsTo c source index v
    rw [loadEntries, Change.andThen, List.forall_mem_cons, ← hfirst]
    generalize c.loadEntry source index v = change at hgrows ⊢
    cases houtcome : change.outcome with
    | error fault => exact iff_of_false (by rintro ⟨⟨_, ⟨⟩⟩, -⟩) (by rintro ⟨⟨⟨_, ⟨⟩⟩, -⟩, -⟩)
    | ok added =>
      dsimp only
      rw [← hgrows.vocabulary] at hvs
      constructor
      · rintro ⟨hok, hpresentable⟩
        have hpresent := (loadEntries_growsTo _ _ _ _ _).presentable hpresentable
        exact ⟨⟨⟨added, rfl⟩, hpresent⟩, (ih _ _ hpresent hvs).1 ⟨hok, hpresentable⟩⟩
      · rintro ⟨⟨-, hpresent⟩, hshown⟩
        exact (ih _ _ hpresent hvs).2 hshown

/-- A file with valid entries is loaded, and the catalogue can still be shown, exactly if all ids
can be shown. -/
theorem load_presentable_iff {files : Files} {name : String}
    (hlist : listedIn? files name = some vs) (hc : c.Presentable)
    (hvs : ∀ v ∈ vs, ∀ l ∈ Listing.ofValue? v, l.IsValid c.vocabulary) :
    ((∃ n, (c.load files name).outcome = .ok n) ∧ (c.load files name).catalogue.Presentable) ↔
      ∀ v ∈ vs, ∀ l ∈ Listing.ofValue? v, l.id.isShowable = true := by
  obtain ⟨text, htext, hlist⟩ := Option.bind_eq_some_iff.1 hlist
  obtain ⟨file, hfile, hlist⟩ := Option.bind_eq_some_iff.1 hlist
  rw [← loadEntries_presentable_iff name 0 0 hc hvs, load,
    toOption_eq_some_iff.1 htext]
  dsimp only
  rw [toOption_eq_some_iff.1 hfile]
  dsimp only
  rw [loadValue, toOption_eq_some_iff.1 hlist]
  dsimp only [Change.andThen, Change.mapFault]
  cases (c.loadEntries name 0 0 vs).outcome with
  | error fault => exact iff_of_false (by rintro ⟨⟨_, ⟨⟩⟩, -⟩) (by rintro ⟨⟨_, ⟨⟩⟩, -⟩)
  | ok n => exact and_congr_left' ⟨fun _ ↦ ⟨n, rfl⟩, fun _ ↦ ⟨n, rfl⟩⟩

end Catalogue

namespace CommandLine

open Catalogue

variable {V : Type} {c : Catalogue V} {s : Settings} {files : Files}
  {texts : List (Option String)} {ls : List Listing}

/-! ## The patterns of a command line -/

private theorem repr_injective {m n : Nat} (h : m.repr = n.repr) : m = n := by
  have hdigits := congrArg (fun s ↦ Nat.ofDigitChars 10 s.toList 0) h
  rwa [Nat.toList_repr, Nat.toList_repr, Nat.ofDigitChars_ten_toDigits,
    Nat.ofDigitChars_ten_toDigits] at hdigits

/-- The id of a pattern of the command line, as a scalar. -/
def patternKey (number : Nat) : Yaml.Scalar := .text ("pattern_" ++ number.repr)

private theorem key_patternKey_ne {m n : Nat} (h : m ≠ n) :
    (patternKey m).key ≠ (patternKey n).key := by
  intro heq
  have htext : "pattern_" ++ m.repr = "pattern_" ++ n.repr := Yaml.Key.text.inj heq
  exact h (repr_injective ((String.append_right_inj _).1 htext))

private theorem addPatterns_eq_ok (number : Nat) (hc : c.Presentable)
    (hfree : ∀ n, number ≤ n → c.contains (patternKey n) = false)
    (htexts : ∀ t ∈ texts, ∃ s p, t = some s ∧ Pattern.read c.vocabulary s = .ok p) :
    (addPatterns c number texts).outcome = .ok () ∧
      (addPatterns c number texts).catalogue.Presentable ∧
      (addPatterns c number texts).catalogue.vocabulary = c.vocabulary := by
  induction texts generalizing c number with
  | nil => exact ⟨rfl, hc, rfl⟩
  | cons t texts ih =>
    obtain ⟨⟨s, p, rfl, hp⟩, hrest⟩ := List.forall_mem_cons.1 htexts
    let e : Entry V := ⟨patternKey number, .pattern p (.text "")⟩
    have he : e.Presentable := ⟨rfl, p, .text "", rfl⟩
    have hresolve : (candidate (some s)).resolve c.vocabulary (.text "") = .ok e.content :=
      resolve_text.trans (by rw [hp]; rfl)
    have hplacing : Placing c e (c.add (patternId number) (candidate (some s)) (.text "")) :=
      placing hc he hresolve
    rw [addPatterns, Change.andThen]
    generalize c.add (patternId number) (candidate (some s)) (.text "") = change at hplacing ⊢
    cases hplacing with
    | taken htaken =>
      rw [show c.contains e.id = false from hfree number (Nat.le_refl _)] at htaken
      cases htaken
    | known => exact ih (number + 1) hc (fun n hn ↦ hfree n (by omega)) hrest
    | @new d _ _ hentries hgrows =>
      have hfree' : ∀ n, number + 1 ≤ n → d.contains (patternKey n) = false := fun n hn ↦
        (contains_append_iff hentries).2 ⟨hfree n (by omega), key_patternKey_ne (by omega)⟩
      have hvocabulary := hgrows.vocabulary
      rw [← hvocabulary] at hrest ⊢
      exact ih (number + 1) (presentable_append hc he hentries) hfree' hrest

/-! ## The file of a command line -/

/-- The entries of the file, which has to be there and to be readable if one is named. -/
def Settings.listings? (s : Settings) (files : Files) : Option (List Listing) :=
  match s.patternsFile.filter (· ≠ "") with
  | none => some []
  | some name => (listedIn? files name).map (List.filterMap Listing.ofValue?)

private theorem addFile_presentable_iff (hlist : s.listings? files = some ls) (hc : c.Presentable)
    (hvalid : ∀ l ∈ ls, l.IsValid c.vocabulary) :
    ((∃ n, (addFile files c s.patternsFile).outcome = .ok n) ∧
      (addFile files c s.patternsFile).catalogue.Presentable) ↔
    ∀ l ∈ ls, l.id.isShowable = true := by
  rw [Settings.listings?] at hlist
  rw [addFile]
  generalize s.patternsFile.filter (· ≠ "") = name at hlist ⊢
  cases name with
  | none =>
    obtain rfl := Option.some_inj.1 hlist
    exact iff_of_true ⟨⟨0, rfl⟩, hc⟩ fun l hl ↦ absurd hl List.not_mem_nil
  | some name =>
    obtain ⟨vs, hvs, rfl⟩ := Option.map_eq_some_iff.1 hlist
    have hmem (P : Listing → Prop) : (∀ l ∈ vs.filterMap Listing.ofValue?, P l) ↔
        ∀ v ∈ vs, ∀ l ∈ Listing.ofValue? v, P l := by
      simp only [List.mem_filterMap]
      exact ⟨fun h v hv l hl ↦ h l ⟨v, hv, hl⟩, fun h l ⟨v, hv, hl⟩ ↦ h v hv l hl⟩
    rw [hmem]
    exact load_presentable_iff hvs hc ((hmem _).1 hvalid)

/-! ## Both, and their reflections -/

/-- The settings without the wish for reflections. -/
def Settings.unreflected (s : Settings) : Settings := { s with reflect := false }

private theorem andThen_assoc {ε α β γ : Type} (x : Change V ε α)
    (f : Catalogue V → α → Change V ε β) (g : Catalogue V → β → Change V ε γ) :
    (x.andThen f).andThen g = x.andThen fun c a ↦ (f c a).andThen g := by
  obtain ⟨d, records, outcome⟩ := x
  cases outcome with
  | error fault => rfl
  | ok a =>
    simp only [Change.andThen]
    cases (f d a).outcome with
    | error fault => rfl
    | ok b => simp only [List.append_assoc]

theorem fill_eq_andThen (h : s.reflect = true) (files : Files) (c : Catalogue V) :
    s.fill files c = (s.unreflected.fill files c).andThen fun d _ ↦
      d.addReflections.mapFault .add := by
  obtain ⟨patterns, file, text, conllu, model, limit, reflect, exportTo, verbose, unset⟩ := s
  obtain rfl : reflect = true := h
  rw [Settings.fill, Settings.fill, andThen_assoc]
  congr 1
  funext d _
  rw [andThen_assoc]
  rfl

/-- Without reflections, texts of patterns and a file with valid entries fill a catalogue that can
be shown exactly if the ids of the file can be shown. -/
theorem fill_unreflected_presentable_iff {voc : Vocabulary V} {limit : Option Nat}
    (htexts : ∀ t ∈ s.patterns, ∃ text p, t = some text ∧ Pattern.read voc text = .ok p)
    (hlist : s.listings? files = some ls) (hvalid : ∀ l ∈ ls, l.IsValid voc) :
    ((s.unreflected.fill files (.empty voc limit)).outcome = .ok () ∧
      (s.unreflected.fill files (.empty voc limit)).catalogue.Presentable) ↔
    ∀ l ∈ ls, l.id.isShowable = true := by
  obtain ⟨hok, hpresentable, hvocabulary⟩ := addPatterns_eq_ok 1
    (c := .empty voc limit) (fun e he ↦ absurd he List.not_mem_nil) (fun _ _ ↦ rfl) htexts
  rw [← addFile_presentable_iff hlist hpresentable (by rwa [hvocabulary]), Settings.fill,
    Change.andThen, Change.mapFault, Settings.unreflected, hok]
  dsimp only [Except.mapError]
  rw [Change.andThen, Change.mapFault]
  cases (addFile files (addPatterns (.empty voc limit) 1 s.patterns).catalogue
    s.patternsFile).outcome with
  | error fault => exact iff_of_false (by rintro ⟨⟨⟩, -⟩) (by rintro ⟨⟨_, ⟨⟩⟩, -⟩)
  | ok n => exact and_congr_left' ⟨fun _ ↦ ⟨n, rfl⟩, fun _ ↦ rfl⟩

/-- One filling does what the other does, and the reflections besides. -/
structure Reflects (full plain : Change V FillFault Unit) : Prop where
  /-- It comes to an end. -/
  completes : full.outcome = .ok ()
  /-- Every pattern keeps its id and its place. -/
  keeps : plain.catalogue.entries <+: full.catalogue.entries
  /-- The reflection of every pattern is there. -/
  closed : full.catalogue.ClosedUnderReflection

/-- **With reflections, a command line fills a catalogue that is closed under them**, and that has
everything it would have without them in the same place, exactly if all ids of the file can be shown
and those that the reflections get fit. -/
theorem fill_reflects_iff {voc : Vocabulary V} {limit : Option Nat} (hreflect : s.reflect = true)
    (htexts : ∀ t ∈ s.patterns, ∃ text p, t = some text ∧ Pattern.read voc text = .ok p)
    (hlist : s.listings? files = some ls) (hvalid : ∀ l ∈ ls, l.IsValid voc) :
    Reflects (s.fill files (.empty voc limit)) (s.unreflected.fill files (.empty voc limit)) ↔
    (∀ l ∈ ls, l.id.isShowable = true) ∧
      (s.unreflected.fill files (.empty voc limit)).catalogue.ReflectionsFit := by
  rw [← fill_unreflected_presentable_iff htexts hlist hvalid, fill_eq_andThen hreflect,
    Change.andThen]
  generalize s.unreflected.fill files (.empty voc limit) = plain
  cases plain.outcome with
  | error fault => exact iff_of_false (by rintro ⟨⟨⟩, -, -⟩) (by rintro ⟨⟨⟨⟩, -⟩, -⟩)
  | ok u =>
    dsimp only
    constructor
    · rintro ⟨hcompletes, -, -⟩
      have hok := mapError_eq_ok_iff.1 hcompletes
      have hpresentable : plain.catalogue.Presentable := presentable_of_addReflectionsOf hok
      exact ⟨⟨rfl, hpresentable⟩, (addReflections_eq_ok_iff hpresentable).1 hok⟩
    · rintro ⟨⟨-, hpresentable⟩, hfit⟩
      have hok := (addReflections_eq_ok_iff hpresentable).2 hfit
      have hgrown := grownBy_of_addReflectionsOf hpresentable hpresentable hok
      exact ⟨mapError_eq_ok_iff.2 hok, hgrown.growsTo.entries,
        closed_of_grownBy hpresentable hgrown⟩

/-- A symmetric pattern, and a file with one that is not. -/
def subjectSettings : Settings :=
  { Settings.standard with
    patterns := [some ".* -.*- .*"], patternsFile := some "patterns.yaml", reflect := true }

def subjectFiles : Files := fun _ ↦
  .ok "patterns:\n- id: subject\n  pattern: .* >nsubj> .*\n"

theorem fill_reflects_iff_subject :
    Reflects (subjectSettings.fill subjectFiles (.empty (.standard : Vocabulary Token) none))
      (subjectSettings.unreflected.fill subjectFiles (.empty .standard none)) := by
  have hentries : ∃ ls ∈ subjectSettings.listings? subjectFiles,
      ∀ l ∈ ls, l.IsValid (.standard : Vocabulary Token) ∧ l.id.isShowable = true := by
    decide +kernel
  obtain ⟨ls, hls, hentries⟩ := hentries
  have hread : ∃ p, (Pattern.read (.standard : Vocabulary Token) ".* -.*- .*").toOption = some p :=
    Option.isSome_iff_exists.1 (by decide +kernel)
  obtain ⟨p, hp⟩ := hread
  have htexts : ∀ t ∈ subjectSettings.patterns,
      ∃ text p, t = some text ∧ Pattern.read .standard text = .ok p :=
    List.forall_mem_singleton.2 ⟨_, p, rfl, toOption_eq_some_iff.1 hp⟩
  exact (fill_reflects_iff rfl htexts hls fun l hl ↦ (hentries l hl).1).2
    ⟨fun l hl ↦ (hentries l hl).2, ⟨by decide +kernel, by decide +kernel⟩⟩

def fileSettings : Settings :=
  { Settings.standard with patternsFile := some "patterns.yaml", reflect := true }

/-- A file with two symmetric patterns, one under the id that the reflection of the other gets. -/
def symmetricFiles : Files := fun _ ↦
  .ok "patterns:\n- id: a\n  pattern: .*\n- id: a_reflection\n  pattern: .* -.*- .*\n"

/-- Nothing would have to be added, but the attempt is refused. -/
theorem fill_symmetricFiles :
    (∃ ls, fileSettings.listings? symmetricFiles = some ls ∧
      ∀ l ∈ ls, l.IsValid (.standard : Vocabulary Token)) ∧
    (fileSettings.unreflected.fill symmetricFiles
      (.empty (.standard : Vocabulary Token) none)).catalogue.ids =
        [.text "a", .text "a_reflection"] ∧
    (fileSettings.fill symmetricFiles (.empty (.standard : Vocabulary Token) none)).outcome =
      .error (.add (.duplicateId (.text "a_reflection"))) ∧
    ¬ Reflects (fileSettings.fill symmetricFiles (.empty (.standard : Vocabulary Token) none))
      (fileSettings.unreflected.fill symmetricFiles (.empty .standard none)) := by
  have hvalid : ∃ ls ∈ fileSettings.listings? symmetricFiles,
      ∀ l ∈ ls, l.IsValid (.standard : Vocabulary Token) := by decide +kernel
  have hfails : (fileSettings.fill symmetricFiles
      (.empty (.standard : Vocabulary Token) none)).outcome =
        .error (.add (.duplicateId (.text "a_reflection"))) := by decide +kernel
  exact ⟨hvalid, by decide +kernel, hfails,
    fun h ↦ nomatch hfails.symm.trans h.completes⟩

end CommandLine

end Motif
