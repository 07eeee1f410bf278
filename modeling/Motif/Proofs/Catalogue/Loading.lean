import Mathlib.Data.List.Forall2
import Motif.Proofs.Catalogue.Registration
import Motif.Proofs.Catalogue.Validity

/-!
# How files of patterns are loaded

Loading a file should register the entries that are new, report every other value and skip it, and
count. `SkipsInvalid` says that it does. It does not always: an entry that is not manageable either
ends the loading or stays in the catalogue although it is no pattern. So a file is loaded as it
should be exactly if each of its entries is manageable at its turn (`load_skipsInvalid_iff`).

One value is loaded first, according to all that adding an entry can come to. What it leaves is what
the next value finds, and the two ways in which a value can be dealt with, `skips_cons_of_some` and
`skips_cons_of_none`, make the step of the induction.
-/

namespace Motif.Catalogue

variable {V : Type} {voc : Vocabulary V} {es : List (Entry V)} {l : Listing} {e : Entry V}

/-! ## Loading one entry -/

variable {c d : Catalogue V} {v : Yaml.Value} {source : String} {index : Nat}

theorem contains_eq_false_iff {id : Yaml.Scalar} :
    c.contains id = false ↔ ∀ f ∈ c.entries, f.key ≠ id.key := by
  rw [contains, List.any_eq_false]
  simp

theorem asKey_eq_ok_iff {w : Yaml.Value} {key : Yaml.Scalar} :
    w.asKey = .ok key ↔ w = .scalar key := by
  constructor
  · intro h
    cases w with
    | scalar id => exact congrArg _ (Except.ok.inj h)
    | _ => cases h
  · rintro rfl
    rfl

theorem add_of_isNew (h : IsNew c.vocabulary c.entries l e) :
    ∃ d, c.add l.id (.ofValue l.pattern) l.description = ⟨d, [], .ok true⟩ ∧
      d.entries = c.entries ++ [e] ∧ d.vocabulary = c.vocabulary := by
  obtain ⟨s, p, hs, hp, hcontent⟩ := h.content
  have hresolve : (Candidate.ofValue l.pattern).resolve c.vocabulary l.description =
      .ok e.content := by
    rw [hs, hcontent]
    exact resolve_text.trans (by rw [hp]; rfl)
  have hkey {key : Yaml.Scalar} (hid : l.id.asKey = .ok key) : key = e.id :=
    Yaml.Value.scalar.inj ((asKey_eq_ok_iff.1 hid).symm.trans h.id)
  have hadding := adding c l.id (.ofValue l.pattern) l.description
  generalize c.add l.id (.ofValue l.pattern) l.description = change at hadding ⊢
  cases hadding with
  | composite hid =>
    rw [h.id] at hid
    cases hid
  | taken hid htaken =>
    rw [hkey hid, contains_eq_false_iff.2 h.free] at htaken
    cases htaken
  | unread hid hfree hread => exact absurd (hread.symm.trans hresolve) (by simp)
  | known hid hfree hread hf hsame | unreportable hid hfree hread hf hsame =>
    obtain rfl := Except.ok.inj (hread.symm.trans hresolve)
    rw [h.differs _ hf] at hsame
    cases hsame
  | @new key content hid hfree hread hnew =>
    obtain rfl := hkey hid
    obtain rfl := Except.ok.inj (hread.symm.trans hresolve)
    have hrecorded : (e.content.recorded.map fun _ ↦ true) = .ok true := by
      rw [hcontent]
      rfl
    rw [hrecorded]
    exact ⟨_, rfl, rfl, rfl⟩

/-- A value that adds an entry does so when it is loaded, and nothing is reported. -/
theorem loadEntry_of_addition (source : String) (index : Nat) {x : Listing × Entry V}
    (h : addition? c.vocabulary c.entries v = some x) :
    ∃ d, c.loadEntry source index v = ⟨d, [], .ok true⟩ ∧
      (c.add x.1.id (.ofValue x.1.pattern) x.1.description).catalogue = d ∧
      d.entries = c.entries ++ [x.2] ∧ d.vocabulary = c.vocabulary := by
  obtain ⟨hv, hnew⟩ := addition?_eq_some_iff.1 h
  obtain ⟨d, hadd, hentries, hvocabulary⟩ := add_of_isNew hnew
  refine ⟨d, ?_, by rw [hadd], hentries, hvocabulary⟩
  rw [loadEntry, hv]
  dsimp only
  rw [hadd]

/-- An entry that is refused is reported, if its fault can be skipped and its id can be shown. -/
theorem loadEntry_of_refused {fault : AddFault} (hv : Listing.ofValue? v = some l)
    (hadd : c.add l.id (.ofValue l.pattern) l.description = c.unchanged (.error fault)) :
    c.loadEntry source index v =
      if fault.isSkipped then
        if l.id.isShowable then
          ⟨c, [⟨.warning, .catalogue, "Failed to add pattern " ++ Display.text l.id ++ ": " ++
            fault.message⟩], .ok false⟩
        else c.unchanged (.error (.unshowable {}))
      else c.unchanged (.error fault) := by
  rw [loadEntry, hv]
  dsimp only
  rw [hadd]
  cases hskip : fault.isSkipped with
  | false => simp only [unchanged, hskip, Bool.false_eq_true, if_false]
  | true =>
    simp only [unchanged, hskip, if_true, refusedRecord, Yaml.Value.shown?]
    cases l.id.isShowable <;> rfl

theorem loadEntry_catalogue (hv : Listing.ofValue? v = some l) :
    (c.loadEntry source index v).catalogue =
      (c.add l.id (.ofValue l.pattern) l.description).catalogue := by
  rw [loadEntry, hv]
  dsimp only
  split
  · rfl
  · split
    · split <;> rfl
    · rfl

/-- A record reports that a value is skipped: it is a warning that tells the index of the value in
the file, or the id if there is one. -/
def Reports (source : String) (x : Nat × Yaml.Value) (r : Record) : Prop :=
  match Listing.ofValue? x.2 with
  | none => r = incompleteRecord source x.1
  | some l => r.severity = .warning ∧ r.component = .catalogue ∧
    ∃ shown before after, l.id.shown? = .ok shown ∧ r.message = before ++ shown ++ after

/-- An entry that is refused with a fault that can be skipped is reported, if its id can be shown,
and nothing else happens. -/
private theorem exists_report_of_refused {fault : AddFault} (hv : Listing.ofValue? v = some l)
    (hshown : l.id.isShowable = true) (hskip : fault.isSkipped = true)
    (hadd : c.add l.id (.ofValue l.pattern) l.description = c.unchanged (.error fault)) :
    ∃ r, c.loadEntry source index v = ⟨c, [r], .ok false⟩ ∧ Reports source (index, v) r := by
  rw [loadEntry_of_refused hv hadd, if_pos hskip, if_pos hshown]
  refine ⟨_, rfl, ?_⟩
  rw [Reports, hv]
  refine ⟨rfl, rfl, Display.text l.id, "Failed to add pattern ", ": " ++ fault.message,
    if_pos hshown, ?_⟩
  exact String.append_assoc ..

private theorem reports_duplicateRecord {id earlier : Yaml.Scalar} {content : Content V}
    {r : Record} (hv : Listing.ofValue? v = some l) (hid : l.id = .scalar id)
    (h : duplicateRecord id earlier content = .ok r) : Reports source (index, v) r := by
  obtain ⟨shown, hshown, h⟩ := bind_eq_ok_iff.1 h
  obtain ⟨shown', -, h⟩ := bind_eq_ok_iff.1 h
  obtain ⟨text, -, h⟩ := bind_eq_ok_iff.1 h
  obtain rfl := Except.ok.inj h
  rw [Reports, hv]
  refine ⟨rfl, rfl, shown, "Pattern ", " duplicates " ++ shown' ++ " (" ++ text ++ "); skipping",
    ?_, ?_⟩
  · rw [hid]
    exact hshown
  · simp only [String.append_assoc]

theorem Manageable.objection (h : Manageable voc es l) (hold : ∀ e, ¬ IsNew voc es l e) :
    ∃ id, l.id = .scalar id ∧ id.isShowable = true ∧
      ((∃ f ∈ es, f.key = id.key) ∨
        (∃ fault, (Candidate.ofValue l.pattern).resolve voc l.description = .error fault ∧
          (AddFault.text fault).isSkipped = true) ∨
        ∃ content, (Candidate.ofValue l.pattern).resolve voc l.description = .ok content ∧
          ∃ f ∈ es, f.content.same content = true) := by
  cases h with
  | new h => exact absurd h (hold _)
  | taken hid hshown h => exact ⟨_, hid, hshown, .inl h⟩
  | unread hid hshown hread hskip => exact ⟨_, hid, hshown, .inr (.inl ⟨_, hread, hskip⟩)⟩
  | known hid hshown hread h => exact ⟨_, hid, hshown, .inr (.inr ⟨_, hread, h⟩)⟩

/-- A manageable entry that is not new is reported, and nothing else happens. -/
theorem exists_report_of_manageable (hv : Listing.ofValue? v = some l)
    (hold : ∀ e, ¬ IsNew c.vocabulary c.entries l e) (h : Manageable c.vocabulary c.entries l) :
    ∃ r, c.loadEntry source index v = ⟨c, [r], .ok false⟩ ∧ Reports source (index, v) r := by
  obtain ⟨id, hid, hshown, hobjection⟩ := h.objection hold
  have hshowable : l.id.isShowable = true := by
    rw [hid]
    exact hshown
  have hkey {key : Yaml.Scalar} (hasKey : l.id.asKey = .ok key) : id = key :=
    Yaml.Value.scalar.inj (hid.symm.trans (asKey_eq_ok_iff.1 hasKey))
  have hunused (hfree : c.contains id = false) : ¬ ∃ f ∈ c.entries, f.key = id.key := by
    rintro ⟨f, hf, hfkey⟩
    exact contains_eq_false_iff.1 hfree f hf hfkey
  have hadding := adding c l.id (.ofValue l.pattern) l.description
  generalize hchange : c.add l.id (.ofValue l.pattern) l.description = change at hadding
  cases hadding with
  | composite hasKey =>
    rw [hid] at hasKey
    cases hasKey
  | taken hasKey htaken =>
    obtain rfl := hkey hasKey
    refine exists_report_of_refused hv hshowable ?_ hchange
    have hok : id.shown? = .ok (Display.text id) := if_pos hshown
    rw [AddFault.ofDuplicate, hok]
    rfl
  | unread hasKey hfree hread =>
    obtain rfl := hkey hasKey
    refine exists_report_of_refused hv hshowable ?_ hchange
    rcases hobjection with htaken | ⟨fault, hfault, hskip⟩ | ⟨content, hcontent, -⟩
    · exact absurd htaken (hunused hfree)
    · obtain rfl := Except.error.inj (hread.symm.trans hfault)
      exact hskip
    · cases hread.symm.trans hcontent
  | known hasKey hfree hread he hsame hrecord =>
    obtain rfl := hkey hasKey
    refine ⟨_, ?_, reports_duplicateRecord hv hid hrecord⟩
    rw [loadEntry, hv]
    dsimp only
    rw [hchange]
  | unreportable hasKey hfree hread he hsame hrecord =>
    exact exists_report_of_refused hv hshowable rfl hchange
  | new hasKey hfree hread hnew =>
    obtain rfl := hkey hasKey
    rcases hobjection with htaken | ⟨fault, hfault, -⟩ | ⟨content, hcontent, f, hf, hsame⟩
    · exact absurd htaken (hunused hfree)
    · cases hread.symm.trans hfault
    · obtain rfl := Except.ok.inj (hread.symm.trans hcontent)
      exact absurd hsame (List.find?_eq_none.1 hnew f hf)

/-- A value that adds nothing is reported, if it is manageable when it is an entry. -/
theorem exists_report (source : String) (index : Nat)
    (hnone : addition? c.vocabulary c.entries v = none)
    (h : ∀ l ∈ Listing.ofValue? v, Manageable c.vocabulary c.entries l) :
    ∃ r, c.loadEntry source index v = ⟨c, [r], .ok false⟩ ∧ Reports source (index, v) r := by
  cases hv : Listing.ofValue? v with
  | none =>
    refine ⟨incompleteRecord source index, ?_, ?_⟩
    · rw [loadEntry, hv]
    · rw [Reports, hv]
  | some l =>
    refine exists_report_of_manageable hv (fun e hnew ↦ ?_) (h l hv)
    have hsome := addition?_eq_some_iff (x := (l, e)).2 ⟨hv, hnew⟩
    rw [hnone] at hsome
    cases hsome

/-- What a value of a file stands for is new if nothing speaks against it, or it is no pattern. -/
private theorem isNew_or_value {id : Yaml.Scalar} {content : Content V} (hid : l.id = .scalar id)
    (hfree : c.contains id = false)
    (hread : (Candidate.ofValue l.pattern).resolve c.vocabulary l.description = .ok content)
    (hnew : c.entries.find? (fun f ↦ f.content.same content) = none) :
    IsNew c.vocabulary c.entries l ⟨id, content⟩ ∨ ∃ w, content = .value w := by
  rcases resolve_ofValue c.vocabulary l.pattern l.description with ⟨s, hs, hcandidate⟩ | hvalue
  · rw [hcandidate, resolve_text] at hread
    cases hp : Pattern.read c.vocabulary s with
    | error fault => exact absurd (hp ▸ hread) (by simp [Except.map])
    | ok p =>
      obtain rfl := Except.ok.inj (hp ▸ hread)
      refine .inl ⟨hid, ⟨s, p, hs, hp, rfl⟩, contains_eq_false_iff.1 hfree, fun f hf ↦ ?_⟩
      exact eq_false_of_ne_true (List.find?_eq_none.1 hnew f hf)
  · exact .inr ⟨_, Except.ok.inj (hread.symm.trans hvalue)⟩

/-- An entry whose loading comes to a result is manageable, or it is a value that is registered
although it is no pattern. -/
theorem manageable_or_registered {added : Bool} (hv : Listing.ofValue? v = some l)
    (hok : (c.loadEntry source index v).outcome = .ok added) :
    Manageable c.vocabulary c.entries l ∨
      ∃ id w, (c.loadEntry source index v).catalogue.entries = c.entries ++ [⟨id, .value w⟩] := by
  -- An entry that is refused without an end of the loading is reported.
  have hrefused {fault : AddFault}
      (hadd : c.add l.id (.ofValue l.pattern) l.description = c.unchanged (.error fault)) :
      fault.isSkipped = true ∧ l.id.isShowable = true := by
    rw [loadEntry_of_refused hv hadd] at hok
    split at hok
    · next hskip =>
      split at hok
      · next hshown => exact ⟨hskip, hshown⟩
      · cases hok
    · cases hok
  rw [loadEntry_catalogue hv]
  have hadding := adding c l.id (.ofValue l.pattern) l.description
  generalize hchange : c.add l.id (.ofValue l.pattern) l.description = change at hadding
  cases hadding with
  | composite => exact absurd (hrefused hchange).1 (by simp [AddFault.isSkipped])
  | taken hasKey htaken =>
    have hshown := (hrefused hchange).2
    rw [asKey_eq_ok_iff.1 hasKey] at hshown
    obtain ⟨f, hf, hkey⟩ := List.any_eq_true.1 htaken
    exact .inl (.taken (asKey_eq_ok_iff.1 hasKey) hshown ⟨f, hf, of_decide_eq_true hkey⟩)
  | unread hasKey hfree hread =>
    obtain ⟨hskip, hshown⟩ := hrefused hchange
    rw [asKey_eq_ok_iff.1 hasKey] at hshown
    exact .inl (.unread (asKey_eq_ok_iff.1 hasKey) hshown hread hskip)
  | @known key content e record hasKey hfree hread he hsame hrecord =>
    obtain ⟨shown, hshown, -⟩ := bind_eq_ok_iff.1 hrecord
    have hshowable : key.isShowable = true := by
      cases hshows : key.isShowable with
      | true => rfl
      | false =>
        rw [Yaml.Scalar.shown?, hshows] at hshown
        cases hshown
    exact .inl (.known (asKey_eq_ok_iff.1 hasKey) hshowable hread ⟨e, he, hsame⟩)
  | unreportable hasKey hfree hread he hsame =>
    have hshown := (hrefused hchange).2
    rw [asKey_eq_ok_iff.1 hasKey] at hshown
    exact .inl (.known (asKey_eq_ok_iff.1 hasKey) hshown hread ⟨_, he, hsame⟩)
  | new hasKey hfree hread hnew =>
    rcases isNew_or_value (asKey_eq_ok_iff.1 hasKey) hfree hread hnew with hisNew | ⟨w, rfl⟩
    · exact .inl (.new hisNew)
    · exact .inr ⟨_, w, rfl⟩

theorem loadEntry_growsTo (c : Catalogue V) (source : String) (index : Nat) (v : Yaml.Value) :
    c.GrowsTo (c.loadEntry source index v).catalogue := by
  cases hv : Listing.ofValue? v with
  | none =>
    rw [loadEntry, hv]
    exact .refl c
  | some l =>
    rw [loadEntry_catalogue hv]
    exact (adding c l.id (.ofValue l.pattern) l.description).growsTo

/-! ## Loading all entries -/

variable {ε : Type} {vs : List Yaml.Value} {count : Nat}

theorem loadEntries_growsTo (c : Catalogue V) (source : String) (index count : Nat)
    (vs : List Yaml.Value) : c.GrowsTo (c.loadEntries source index count vs).catalogue := by
  induction vs generalizing c index count with
  | nil => exact .refl c
  | cons v vs ih =>
    have hfirst := loadEntry_growsTo c source index v
    rw [loadEntries, Change.andThen]
    generalize c.loadEntry source index v = change at hfirst ⊢
    cases change.outcome with
    | error fault => exact hfirst
    | ok added => exact hfirst.trans (ih _ _ _)

/-- The catalogue after some entries of a file are added one after the other. -/
def addAll (c : Catalogue V) (ls : List Listing) : Catalogue V :=
  ls.foldl (fun c l ↦ (c.add l.id (.ofValue l.pattern) l.description).catalogue) c

/-- The values of a file, of which `index` were loaded before and `count` added an entry, are loaded
and the invalid ones skipped. -/
structure Skips (c : Catalogue V) (source : String) (index count : Nat) (vs : List Yaml.Value)
    (x : Change V ε Nat) : Prop where
  /-- The entries that are added are counted. -/
  outcome : x.outcome = .ok (count + (additions c.vocabulary c.entries vs).length)
  /-- The catalogue is the one that adding the new entries alone makes. -/
  catalogue : x.catalogue = c.addAll ((additions c.vocabulary c.entries vs).map Prod.fst)
  /-- All of them are there in the end, and nothing else is. -/
  entries : x.catalogue.entries = c.entries ++ (additions c.vocabulary c.entries vs).map Prod.snd
  /-- All other values are reported in their order, and nothing else is. -/
  records : List.Forall₂ (Reports source) (refused c.vocabulary c.entries index vs) x.records

variable {y : Change V ε Nat}

theorem additions_cons_of_some {x : Listing × Entry V} (h : addition? voc es v = some x) :
    additions voc es (v :: vs) = x :: additions voc (es ++ [x.2]) vs := by
  rw [additions, h]
  rfl

theorem additions_cons_of_none (h : addition? voc es v = none) :
    additions voc es (v :: vs) = additions voc es vs := by
  rw [additions, h]
  simp

theorem isPattern_of_mem_additions {x : Listing × Entry V} (h : x ∈ additions voc es vs) :
    ∃ p description, x.2.content = .pattern p description := by
  induction vs generalizing es with
  | nil => cases h
  | cons v vs ih =>
    cases hv : addition? voc es v with
    | none =>
      rw [additions_cons_of_none hv] at h
      exact ih h
    | some y =>
      rw [additions_cons_of_some hv] at h
      rcases List.mem_cons.1 h with rfl | h
      · obtain ⟨s, p, -, -, hcontent⟩ := (addition?_eq_some_iff.1 hv).2.content
        exact ⟨p, _, hcontent⟩
      · exact ih h

theorem skips_cons_of_some {x : Listing × Entry V}
    (hx : addition? c.vocabulary c.entries v = some x)
    (hadd : (c.add x.1.id (.ofValue x.1.pattern) x.1.description).catalogue = d)
    (hentries : d.entries = c.entries ++ [x.2]) (hvocabulary : d.vocabulary = c.vocabulary) :
    Skips c source index count (v :: vs) y ↔ Skips d source (index + 1) (count + 1) vs y := by
  have hadditions : additions c.vocabulary c.entries (v :: vs) =
      x :: additions d.vocabulary d.entries vs := by
    rw [additions_cons_of_some hx, hvocabulary, hentries]
  have hrefused : refused c.vocabulary c.entries index (v :: vs) =
      refused d.vocabulary d.entries (index + 1) vs := by
    rw [refused, hx, hvocabulary, hentries]
  have hcount (n : Nat) : count + (n + 1) = count + 1 + n := by omega
  have hall (ls : List Listing) : c.addAll (x.1 :: ls) = d.addAll ls := by
    rw [addAll, List.foldl_cons, hadd, addAll]
  have hlist (fs : List (Entry V)) : c.entries ++ x.2 :: fs = d.entries ++ fs := by
    rw [hentries, List.append_assoc, List.singleton_append]
  constructor
  · rintro ⟨houtcome, hcatalogue, hlast, hrecords⟩
    rw [hadditions] at houtcome hcatalogue hlast
    rw [List.map_cons, hall] at hcatalogue
    rw [List.map_cons, hlist] at hlast
    rw [List.length_cons, hcount] at houtcome
    exact ⟨houtcome, hcatalogue, hlast, hrefused ▸ hrecords⟩
  · rintro ⟨houtcome, hcatalogue, hlast, hrecords⟩
    refine ⟨?_, ?_, ?_, hrefused ▸ hrecords⟩
    · rw [hadditions, List.length_cons, hcount]
      exact houtcome
    · rw [hadditions, List.map_cons, hall]
      exact hcatalogue
    · rw [hadditions, List.map_cons, hlist]
      exact hlast

/-- The first value adds nothing and is reported, and the others are loaded after it. -/
theorem skips_cons_of_none {r : Record} {records : List Record} {outcome : Except ε Nat}
    (hnone : addition? c.vocabulary c.entries v = none) (hr : Reports source (index, v) r) :
    Skips c source index count (v :: vs) ⟨d, r :: records, outcome⟩ ↔
      Skips c source (index + 1) count vs ⟨d, records, outcome⟩ := by
  have hadditions : additions c.vocabulary c.entries (v :: vs) =
      additions c.vocabulary c.entries vs := additions_cons_of_none hnone
  have hrefused : refused c.vocabulary c.entries index (v :: vs) =
      (index, v) :: refused c.vocabulary c.entries (index + 1) vs := by
    rw [refused, hnone]
  constructor
  · rintro ⟨houtcome, hcatalogue, hlast, hrecords⟩
    rw [hadditions] at houtcome hcatalogue hlast
    rw [hrefused] at hrecords
    exact ⟨houtcome, hcatalogue, hlast, (List.forall₂_cons.1 hrecords).2⟩
  · rintro ⟨houtcome, hcatalogue, hlast, hrecords⟩
    refine ⟨?_, ?_, ?_, ?_⟩
    · rw [hadditions]
      exact houtcome
    · rw [hadditions]
      exact hcatalogue
    · rw [hadditions]
      exact hlast
    · rw [hrefused]
      exact .cons hr hrecords

/-- If a value adds nothing and the loading skips the invalid values, then the value is manageable
when it is an entry. -/
private theorem manageable_of_skips (hnone : addition? c.vocabulary c.entries v = none)
    (h : Skips c source index count (v :: vs) (c.loadEntries source index count (v :: vs))) :
    ∀ l ∈ Listing.ofValue? v, Manageable c.vocabulary c.entries l := by
  intro l hv
  obtain ⟨houtcome, -, hentries, -⟩ := h
  rw [additions_cons_of_none hnone] at hentries
  rw [loadEntries, Change.andThen] at houtcome hentries
  cases hfirst : (c.loadEntry source index v).outcome with
  | error fault =>
    rw [hfirst] at houtcome
    cases houtcome
  | ok added =>
    rw [hfirst] at hentries
    rcases manageable_or_registered hv hfirst with hmanageable | ⟨id, w, hvalue⟩
    · exact hmanageable
    · -- The value would stay in the catalogue, which has gained nothing but patterns.
      exfalso
      have hprefix := (loadEntries_growsTo (c.loadEntry source index v).catalogue source
        (index + 1) (if added then count + 1 else count) vs).entries
      dsimp only at hentries
      rw [hvalue, hentries, List.prefix_append_right_inj] at hprefix
      have hmem := hprefix.subset (List.mem_singleton_self _)
      obtain ⟨x, hx, hxe⟩ := List.mem_map.1 hmem
      obtain ⟨p, description, hcontent⟩ := isPattern_of_mem_additions hx
      rw [hxe] at hcontent
      cases hcontent

/-- Values are loaded and the invalid ones skipped exactly if all are manageable in turn. -/
theorem skips_loadEntries_iff :
    Skips c source index count vs (c.loadEntries source index count vs) ↔
      ManageableInTurn c.vocabulary c.entries vs := by
  induction vs generalizing c index count with
  | nil =>
    refine iff_of_true ⟨rfl, rfl, (List.append_nil _).symm, .nil⟩ ?_
    intro us v ws hsplit
    exact absurd hsplit (by simp)
  | cons v vs ih =>
    rw [manageableInTurn_cons_iff]
    cases hx : addition? c.vocabulary c.entries v with
    | some x =>
      obtain ⟨d, hload, hadd, hentries, hvocabulary⟩ :=
        loadEntry_of_addition source index hx
      have hnew : ∀ l ∈ Listing.ofValue? v, Manageable c.vocabulary c.entries l := by
        intro l hv
        obtain ⟨hv', hisNew⟩ := addition?_eq_some_iff.1 hx
        obtain rfl := Option.some_inj.1 (hv'.symm.trans hv)
        exact .new hisNew
      have hrest : c.loadEntries source index count (v :: vs) =
          d.loadEntries source (index + 1) (count + 1) vs := by
        rw [loadEntries, hload]
        rfl
      rw [hrest, skips_cons_of_some hx hadd hentries hvocabulary, ih, hvocabulary, hentries]
      exact (and_iff_right hnew).symm
    | none =>
      rw [Option.toList_none, List.map_nil, List.append_nil]
      constructor
      · intro h
        have hfirst := manageable_of_skips hx h
        obtain ⟨r, hload, hr⟩ := exists_report source index hx hfirst
        rw [loadEntries, hload] at h
        exact ⟨hfirst, ih.1 ((skips_cons_of_none hx hr).1 h)⟩
      · rintro ⟨hfirst, hrest⟩
        obtain ⟨r, hload, hr⟩ := exists_report source index hx hfirst
        rw [loadEntries, hload]
        exact (skips_cons_of_none hx hr).2 (ih.2 hrest)

/-! ## Loading a file -/

/-- The sequence under `patterns` in a file that holds a mapping. -/
def sequenceOf? : Yaml.Value → Option (List Yaml.Value)
  | .map label fields =>
    match Yaml.Value.find? label fields (.text "patterns") with
    | some (.list l items) => some (Yaml.Value.items l items)
    | _ => none
  | _ => none

/-- The sequence under `patterns` in the file of a name, if it can be read and has one. -/
def sequenceIn? (files : Files) (name : String) : Option (List Yaml.Value) := do
  let text ← (files name).toOption
  let file ← (Yaml.read (Text.withUnifiedNewlines text)).toOption
  sequenceOf? file

/-- A file with the values `vs` is loaded from `source`: the new entries among them are added and
counted, all others are reported and skipped, and the count is reported in the end. -/
def SkipsInvalid (c : Catalogue V) (source : String) (vs : List Yaml.Value)
    (x : Change V LoadFault Nat) : Prop :=
  ∃ reports, Skips c source 0 0 vs ⟨x.catalogue, reports, x.outcome⟩ ∧
    x.records = reports ++ [loadedRecord source (additions c.vocabulary c.entries vs).length]

theorem not_skipsInvalid {x : Change V LoadFault Nat} {fault : LoadFault}
    (h : x.outcome = .error fault) : ¬ SkipsInvalid c source vs x := by
  rintro ⟨reports, hskips, -⟩
  exact nomatch h.symm.trans hskips.outcome

private theorem skips_mapFault_iff {δ : Type} {f : ε → δ} :
    Skips c source index count vs (y.mapFault f) ↔ Skips c source index count vs y := by
  constructor
  · rintro ⟨houtcome, hcatalogue, hentries, hrecords⟩
    exact ⟨mapError_eq_ok_iff.1 houtcome, hcatalogue, hentries, hrecords⟩
  · rintro ⟨houtcome, hcatalogue, hentries, hrecords⟩
    exact ⟨mapError_eq_ok_iff.2 houtcome, hcatalogue, hentries, hrecords⟩

private theorem skipsInvalid_andThen_iff {x : Change V LoadFault Nat} :
    SkipsInvalid c source vs
        (x.andThen fun d n ↦ (⟨d, [loadedRecord source n], .ok n⟩ : Change V LoadFault Nat)) ↔
      Skips c source 0 0 vs x := by
  obtain ⟨d, records, outcome⟩ := x
  cases outcome with
  | error fault => exact iff_of_false (not_skipsInvalid rfl) fun hskips ↦ nomatch hskips.outcome
  | ok n =>
    constructor
    · rintro ⟨reports, hskips, hrecords⟩
      obtain rfl : n = 0 + _ := Except.ok.inj hskips.outcome
      rw [Nat.zero_add] at hrecords
      obtain rfl := List.append_cancel_right hrecords
      exact hskips
    · intro hskips
      refine ⟨records, hskips, ?_⟩
      obtain rfl : n = 0 + _ := Except.ok.inj hskips.outcome
      rw [Nat.zero_add]
      rfl

private theorem listed_eq_ok_of_sequenceOf? {file : Yaml.Value} (h : sequenceOf? file = some vs) :
    listed file = .ok vs := by
  cases file with
  | map label fields =>
    rw [sequenceOf?] at h
    split at h
    · next l items hfind =>
      have hgiven : (Yaml.Value.map label fields).isGiven = true := by
        cases fields with
        | nil => cases hfind
        | cons => rfl
      rw [listed, if_pos hgiven, hfind]
      exact congrArg _ (Option.some_inj.1 h)
    · cases h
  | _ => cases h

/-- **Loading skips what is invalid** exactly if each entry of the file can be dealt with at its
turn. -/
theorem load_skipsInvalid_iff {files : Files} {name : String}
    (hlist : sequenceIn? files name = some vs) :
    SkipsInvalid c name vs (c.load files name) ↔ ManageableInTurn c.vocabulary c.entries vs := by
  obtain ⟨text, htext, hlist⟩ := Option.bind_eq_some_iff.1 hlist
  obtain ⟨file, hfile, hsequence⟩ := Option.bind_eq_some_iff.1 hlist
  have hload : c.load files name = c.loadValue name file := by
    rw [load, toOption_eq_some_iff.1 htext]
    dsimp only
    rw [toOption_eq_some_iff.1 hfile]
  rw [hload, loadValue, listed_eq_ok_of_sequenceOf? hsequence]
  dsimp only
  rw [skipsInvalid_andThen_iff, skips_mapFault_iff, skips_loadEntries_iff]

/-- A file with a new entry between one without a pattern and one whose id is in use. -/
def mixedFiles : Files := fun _ ↦
  .ok "\x7bpatterns: [\x7bid: a\x7d, \x7bid: a, pattern: .*\x7d, \x7bid: a, pattern: x\x7d]\x7d"

theorem load_skipsInvalid_iff_mixed :
    ∃ vs, sequenceIn? mixedFiles "patterns.yaml" = some vs ∧
      ManageableInTurn (.standard : Vocabulary Token) [] vs ∧
      SkipsInvalid (empty (.standard : Vocabulary Token) none) "patterns.yaml" vs
        ((empty .standard none).load mixedFiles "patterns.yaml") := by
  have hfile : ∃ vs, sequenceIn? mixedFiles "patterns.yaml" = some vs :=
    Option.isSome_iff_exists.1 (by decide +kernel)
  obtain ⟨vs, hvs⟩ := hfile
  have hmanageable : ∀ vs ∈ sequenceIn? mixedFiles "patterns.yaml",
      ManageableInTurn (.standard : Vocabulary Token) [] vs := by decide +kernel
  exact ⟨vs, hvs, hmanageable vs hvs, (load_skipsInvalid_iff hvs).2 (hmanageable vs hvs)⟩

/-- A file with an id that has parts before an entry that is new. -/
def compositeFiles : Files := fun _ ↦
  .ok "\x7bpatterns: [\x7bid: [x], pattern: .*\x7d, \x7bid: a, pattern: .*\x7d]\x7d"

/-- Nothing of such a file is loaded. -/
theorem load_compositeFiles :
    ∃ vs, sequenceIn? compositeFiles "patterns.yaml" = some vs ∧
      (additions (.standard : Vocabulary Token) [] vs).map (fun x ↦ x.2.id) = [.text "a"] ∧
      ((empty (.standard : Vocabulary Token) none).load compositeFiles "patterns.yaml").outcome =
        .error (.add (.compositeId ⟨"list"⟩)) ∧
      ((empty (.standard : Vocabulary Token) none).load compositeFiles
        "patterns.yaml").catalogue.ids = [] ∧
      ¬ SkipsInvalid (empty (.standard : Vocabulary Token) none) "patterns.yaml" vs
        ((empty .standard none).load compositeFiles "patterns.yaml") := by
  have hfile : ∃ vs, sequenceIn? compositeFiles "patterns.yaml" = some vs :=
    Option.isSome_iff_exists.1 (by decide +kernel)
  obtain ⟨vs, hvs⟩ := hfile
  have hadditions : ∀ vs ∈ sequenceIn? compositeFiles "patterns.yaml",
      (additions (.standard : Vocabulary Token) [] vs).map (fun x ↦ x.2.id) = [.text "a"] := by
    decide +kernel
  have houtcome : ((empty (.standard : Vocabulary Token) none).load compositeFiles
      "patterns.yaml").outcome = .error (.add (.compositeId ⟨"list"⟩)) := by decide +kernel
  exact ⟨vs, hvs, hadditions vs hvs, houtcome, by decide +kernel, not_skipsInvalid houtcome⟩

end Motif.Catalogue
