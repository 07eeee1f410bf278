import Motif.Catalogue.Load
import Motif.Proofs.Outcome

/-!
# What registering a pattern comes to

`Adding` lists everything that an attempt to add a candidate can come to, with the conditions under
which it does, and `adding` says that there is nothing else. All that is proved about catalogues
rests on it.

In a catalogue that is filled with texts and patterns under ids that are texts, most of the cases
cannot arise: what is left is that the id is in use, that the text is not the text of a pattern,
that an equal pattern is there, and that the pattern is new (`offering`). Such a catalogue is
`Named`, and the loading of a file of texts keeps it so.
-/

namespace Motif.Catalogue

variable {V : Type} {c : Catalogue V}

/-! ## All cases -/

/-- What an attempt to add a candidate can come to. -/
inductive Adding (c : Catalogue V) (id : Yaml.Value) (candidate : Candidate V)
    (description : Yaml.Value) : Change V AddFault Bool → Prop where
  /-- The id has parts. -/
  | composite {fault : Yaml.CompositeKey} (hid : id.asKey = .error fault) :
    Adding c id candidate description (c.unchanged (.error (.compositeId fault)))
  /-- The id is in use. -/
  | taken {key : Yaml.Scalar} (hid : id.asKey = .ok key) (htaken : c.contains key = true) :
    Adding c id candidate description (c.unchanged (.error (.ofDuplicate key)))
  /-- The text is not the text of a pattern. -/
  | unread {key : Yaml.Scalar} {fault : TextFault} (hid : id.asKey = .ok key)
    (hfree : c.contains key = false)
    (hread : candidate.resolve c.vocabulary description = .error fault) :
    Adding c id candidate description (c.unchanged (.error (.text fault)))
  /-- An equal content is there, and this is reported. -/
  | known {key : Yaml.Scalar} {content : Content V} {e : Entry V} {record : Record}
    (hid : id.asKey = .ok key) (hfree : c.contains key = false)
    (hread : candidate.resolve c.vocabulary description = .ok content) (he : e ∈ c.entries)
    (hsame : e.content.same content = true)
    (hrecord : duplicateRecord key e.id content = .ok record) :
    Adding c id candidate description ⟨c, [record], .ok false⟩
  /-- An equal content is there, and this cannot be reported. -/
  | unreportable {key : Yaml.Scalar} {content : Content V} {e : Entry V} {fault : Yaml.Unshowable}
    (hid : id.asKey = .ok key) (hfree : c.contains key = false)
    (hread : candidate.resolve c.vocabulary description = .ok content) (he : e ∈ c.entries)
    (hsame : e.content.same content = true)
    (hrecord : duplicateRecord key e.id content = .error fault) :
    Adding c id candidate description (c.unchanged (.error (.unshowable fault)))
  /-- The content is new. -/
  | new {key : Yaml.Scalar} {content : Content V} (hid : id.asKey = .ok key)
    (hfree : c.contains key = false)
    (hread : candidate.resolve c.vocabulary description = .ok content)
    (hnew : c.entries.find? (fun f ↦ f.content.same content) = none) :
    Adding c id candidate description
      ⟨c.append ⟨key, content⟩ hfree hnew, [], content.recorded.map fun _ ↦ true⟩

/-- **Adding comes to one of these.** -/
theorem adding (c : Catalogue V) (id : Yaml.Value) (candidate : Candidate V)
    (description : Yaml.Value) :
    Adding c id candidate description (c.add id candidate description) := by
  rw [add]
  split
  · next hid => exact .composite hid
  · next key hid =>
    by_cases hfree : c.contains key = false
    · rw [dif_pos hfree]
      split
      · next hread => exact .unread hid hfree hread
      · next content hread =>
        rw [register]
        split
        · next e hfind =>
          have he := List.mem_of_find?_eq_some hfind
          have hsame := List.find?_some hfind
          split
          · next hrecord => exact .known hid hfree hread he hsame hrecord
          · next hrecord => exact .unreportable hid hfree hread he hsame hrecord
        · next hnew => exact .new hid hfree hread hnew
    · rw [dif_neg hfree]
      exact .taken hid (eq_true_of_ne_false hfree)

/-! ## Growth -/

/-- A catalogue grows into another: entries are added at the end, and nothing else changes. -/
structure GrowsTo (c d : Catalogue V) : Prop where
  /-- The entries stay in their places. -/
  entries : c.entries <+: d.entries
  /-- The words of node expressions are the same. -/
  vocabulary : d.vocabulary = c.vocabulary
  /-- The limit is the same. -/
  limit : d.limit = c.limit

theorem GrowsTo.refl (c : Catalogue V) : c.GrowsTo c := ⟨List.prefix_refl _, rfl, rfl⟩

theorem GrowsTo.trans {d e : Catalogue V} (h : c.GrowsTo d) (h' : d.GrowsTo e) : c.GrowsTo e :=
  ⟨h.entries.trans h'.entries, h'.vocabulary.trans h.vocabulary, h'.limit.trans h.limit⟩

/-- Adding a candidate leaves what was there in its place, whatever it comes to. -/
theorem Adding.growsTo {id : Yaml.Value} {candidate : Candidate V} {description : Yaml.Value}
    {change : Change V AddFault Bool} (h : Adding c id candidate description change) :
    c.GrowsTo change.catalogue := by
  cases h with
  | composite | taken | unread | known | unreportable => exact .refl c
  | new => exact ⟨List.prefix_append _ _, rfl, rfl⟩

/-! ## Catalogues of patterns under texts -/

/-- The entry is a pattern, and its id is a text. -/
def Entry.Named (e : Entry V) : Prop := ∃ id p description, e = ⟨.text id, .pattern p description⟩

/-- All entries are patterns under ids that are texts. -/
def Named (c : Catalogue V) : Prop := ∀ e ∈ c.entries, e.Named

/-- What is registered as a pattern: a text that has to be read, or a pattern. -/
inductive Offer (V : Type) where
  /-- The text of a pattern. -/
  | text (s : String)
  /-- A pattern. -/
  | pattern (p : Pattern V)

def Offer.candidate : Offer V → Candidate V
  | text s => .text s
  | pattern p => .pattern p

def Offer.read (voc : Vocabulary V) : Offer V → Except TextFault (Pattern V)
  | text s => Pattern.read voc s
  | pattern p => .ok p

private theorem resolve_candidate (offer : Offer V) (voc : Vocabulary V)
    (description : Yaml.Value) :
    offer.candidate.resolve voc description =
      (offer.read voc).map fun p ↦ .pattern p description := by
  cases offer with
  | text s =>
    rw [Offer.candidate, Offer.read, Candidate.resolve]
    cases Pattern.read voc s <;> rfl
  | pattern p => rfl

theorem Entry.Named.duplicateRecord_ne_error {e : Entry V} (he : e.Named) (id : String)
    (p : Pattern V) (description : Yaml.Value) (fault : Yaml.Unshowable) :
    duplicateRecord (.text id) e.id (.pattern p description) ≠ .error fault := by
  obtain ⟨id', q, description', rfl⟩ := he
  exact fun h ↦ nomatch h

/-- What an attempt to add an offer under a text can come to. -/
inductive Offering (c : Catalogue V) (id : String) (offer : Offer V) (description : Yaml.Value) :
    Change V AddFault Bool → Prop where
  /-- The id is in use. -/
  | taken (htaken : c.contains (.text id) = true) :
    Offering c id offer description (c.unchanged (.error (.ofDuplicate (.text id))))
  /-- The text is not the text of a pattern. -/
  | unread {fault : TextFault} (hfree : c.contains (.text id) = false)
    (hread : offer.read c.vocabulary = .error fault) :
    Offering c id offer description (c.unchanged (.error (.text fault)))
  /-- An equal pattern is there. -/
  | known {p : Pattern V} {e : Entry V} {record : Record} (hfree : c.contains (.text id) = false)
    (hread : offer.read c.vocabulary = .ok p) (he : e ∈ c.entries)
    (hsame : e.content.same (.pattern p description) = true) :
    Offering c id offer description ⟨c, [record], .ok false⟩
  /-- The pattern is new. -/
  | new {p : Pattern V} (hfree : c.contains (.text id) = false)
    (hread : offer.read c.vocabulary = .ok p)
    (hnew : c.entries.find? (fun f ↦ f.content.same (.pattern p description)) = none) :
    Offering c id offer description
      ⟨c.append ⟨.text id, .pattern p description⟩ hfree hnew, [], .ok true⟩

/-- **Adding an offer comes to one of these**, if there are only patterns under texts so far. -/
theorem offering (hc : c.Named) (id : String) (offer : Offer V) (description : Yaml.Value) :
    Offering c id offer description (c.add (.text id) offer.candidate description) := by
  have hkey {key : Yaml.Scalar} (hid : (Yaml.Value.text id).asKey = .ok key) : .text id = key :=
    Except.ok.inj hid
  have hcontent {content : Content V}
      (hread : offer.candidate.resolve c.vocabulary description = .ok content) :
      ∃ p, offer.read c.vocabulary = .ok p ∧ .pattern p description = content := by
    rw [resolve_candidate] at hread
    cases hp : offer.read c.vocabulary with
    | error fault => exact absurd (hp ▸ hread) (by simp [Except.map])
    | ok p => exact ⟨p, rfl, Except.ok.inj (hp ▸ hread)⟩
  have hadding := adding c (.text id) offer.candidate description
  generalize c.add (.text id) offer.candidate description = change at hadding ⊢
  cases hadding with
  | composite hid => exact nomatch hid
  | taken hid htaken =>
    obtain rfl := hkey hid
    exact .taken htaken
  | unread hid hfree hread =>
    obtain rfl := hkey hid
    refine .unread hfree ?_
    rw [resolve_candidate] at hread
    cases hp : offer.read c.vocabulary with
    | error fault => exact congrArg _ (Except.error.inj (hp ▸ hread))
    | ok p => exact absurd (hp ▸ hread) (by simp [Except.map])
  | known hid hfree hread he hsame hrecord =>
    obtain rfl := hkey hid
    obtain ⟨p, hp, rfl⟩ := hcontent hread
    exact .known hfree hp he hsame
  | unreportable hid hfree hread he hsame hrecord =>
    obtain rfl := hkey hid
    obtain ⟨p, hp, rfl⟩ := hcontent hread
    exact absurd hrecord ((hc _ he).duplicateRecord_ne_error id p description _)
  | new hid hfree hread hnew =>
    obtain rfl := hkey hid
    obtain ⟨p, hp, rfl⟩ := hcontent hread
    exact .new hfree hp hnew

/-- A change grows a catalogue of patterns under texts. `gained` says how many entries its result
stands for. -/
structure Change.Grows {ε α : Type} (c : Catalogue V) (gained : α → Nat) (x : Change V ε α) :
    Prop where
  /-- There are still only patterns under texts. -/
  named : x.catalogue.Named
  /-- What was there is still in its place. -/
  growsTo : c.GrowsTo x.catalogue
  /-- The result tells how many entries were added. -/
  size_eq : ∀ a, x.outcome = .ok a → x.catalogue.size = c.size + gained a

private theorem named_append {id : String} {p : Pattern V} {description : Yaml.Value} (hc : c.Named)
    (hfree : c.contains (.text id) = false)
    (hnew : c.entries.find? (fun f ↦ f.content.same (.pattern p description)) = none) :
    (c.append ⟨.text id, .pattern p description⟩ hfree hnew).Named := by
  intro e he
  rcases List.mem_append.1 he with he | he
  · exact hc e he
  · exact ⟨id, p, description, List.mem_singleton.1 he⟩

theorem Change.Grows.unchanged {ε α : Type} {gained : α → Nat} {outcome : Except ε α}
    {records : List Record} (hc : c.Named) (h : ∀ a, outcome = .ok a → gained a = 0) :
    Change.Grows c gained ⟨c, records, outcome⟩ :=
  ⟨hc, .refl c, fun a ha ↦ by rw [h a ha, Nat.add_zero]⟩

theorem Offering.grows {id : String} {offer : Offer V} {description : Yaml.Value}
    {change : Change V AddFault Bool} (hc : c.Named) (h : Offering c id offer description change) :
    change.Grows c Bool.toNat := by
  cases h with
  | taken | unread => exact .unchanged hc fun a ha ↦ nomatch ha
  | known =>
    refine .unchanged hc fun a ha ↦ ?_
    rw [← Except.ok.inj ha, Bool.toNat_false]
  | new hfree hread hnew =>
    refine ⟨named_append hc hfree hnew, ⟨List.prefix_append _ _, rfl, rfl⟩, fun a ha ↦ ?_⟩
    rw [← Except.ok.inj ha, Bool.toNat_true]
    exact List.length_append

theorem Offering.catalogue_of_error {id : String} {offer : Offer V} {description : Yaml.Value}
    {change : Change V AddFault Bool} {fault : AddFault}
    (h : Offering c id offer description change) (herror : change.outcome = .error fault) :
    change.catalogue = c := by
  cases h with
  | taken | unread => rfl
  | known | new => exact nomatch herror

/-! ## Loading -/

def isText : Yaml.Value → Bool
  | .scalar (.text _) => true
  | _ => false

private theorem isText_iff {v : Yaml.Value} : isText v = true ↔ ∃ s, v = .text s := by
  constructor
  · intro h
    cases v with
    | scalar k =>
      cases k with
      | text s => exact ⟨s, rfl⟩
      | _ => exact nomatch h
    | _ => exact nomatch h
  · rintro ⟨s, rfl⟩
    rfl

/-- The value is no entry of a file, or one whose id and pattern are texts. -/
def IsTextual (v : Yaml.Value) : Prop :=
  ∀ l ∈ Listing.ofValue? v, isText l.id = true ∧ isText l.pattern = true

instance (v : Yaml.Value) : Decidable (IsTextual v) :=
  inferInstanceAs (Decidable
    (∀ l ∈ Listing.ofValue? v, isText l.id = true ∧ isText l.pattern = true))

private theorem loadEntry_grows {v : Yaml.Value} (hc : c.Named) (hv : IsTextual v) (source : String)
    (index : Nat) : (c.loadEntry source index v).Grows c Bool.toNat := by
  rw [loadEntry]
  split
  · refine .unchanged hc fun a ha ↦ ?_
    rw [← Except.ok.inj ha, Bool.toNat_false]
  · next l hl =>
    obtain ⟨hid, hpattern⟩ := hv l hl
    obtain ⟨id, hid⟩ := isText_iff.1 hid
    obtain ⟨pattern, hpattern⟩ := isText_iff.1 hpattern
    have hoffering := offering hc id (.text pattern) l.description
    have hcandidate : Candidate.ofValue l.pattern = Offer.candidate (V := V) (.text pattern) := by
      rw [hpattern]
      rfl
    rw [hcandidate, hid]
    dsimp only
    generalize c.add (.text id) (Offer.text pattern).candidate l.description = change at hoffering ⊢
    have hgrows := hoffering.grows hc
    cases houtcome : change.outcome with
    | ok added => exact hgrows
    | error fault =>
      -- A refused entry leaves the catalogue as it was, whether or not it is skipped.
      have hsame := hoffering.catalogue_of_error houtcome
      dsimp only
      split
      · cases refusedRecord (.text id) fault with
        | ok record =>
          rw [hsame]
          refine .unchanged hc fun a ha ↦ ?_
          rw [← Except.ok.inj ha, Bool.toNat_false]
        | error fault' =>
          rw [hsame]
          exact .unchanged hc fun a ha ↦ nomatch ha
      · exact hgrows

theorem loadEntries_grows {vs : List Yaml.Value} (hc : c.Named) (hvs : ∀ v ∈ vs, IsTextual v)
    (source : String) (index count : Nat) :
    (c.loadEntries source index count vs).catalogue.Named ∧
      c.GrowsTo (c.loadEntries source index count vs).catalogue ∧
      ∀ n, (c.loadEntries source index count vs).outcome = .ok n →
        (c.loadEntries source index count vs).catalogue.size + count = c.size + n := by
  induction vs generalizing c index count with
  | nil =>
    refine ⟨hc, .refl c, fun n hn ↦ ?_⟩
    rw [← Except.ok.inj hn]
    rfl
  | cons v vs ih =>
    obtain ⟨hv, hvs⟩ := List.forall_mem_cons.1 hvs
    have hgrows := loadEntry_grows hc hv source index
    rw [loadEntries, Change.andThen]
    generalize c.loadEntry source index v = change at hgrows ⊢
    cases houtcome : change.outcome with
    | error fault => exact ⟨hgrows.named, hgrows.growsTo, fun n hn ↦ nomatch hn⟩
    | ok added =>
      dsimp only
      have hadded : (if added then count + 1 else count) = count + added.toNat := by
        cases added <;> rfl
      rw [hadded]
      obtain ⟨hnamed, hgrowsTo, hcount⟩ := ih hgrows.named hvs (index + 1) (count + added.toNat)
      refine ⟨hnamed, hgrows.growsTo.trans hgrowsTo, fun n hn ↦ ?_⟩
      have hsize := hgrows.size_eq added houtcome
      have hrest := hcount n hn
      omega

/-- The entries that the file of a name lists, if it is read and can list any. -/
def listedIn? (files : Files) (name : String) : Option (List Yaml.Value) := do
  let text ← (files name).toOption
  let file ← (Yaml.read (Text.withUnifiedNewlines text)).toOption
  (listed file).toOption

/-- The entries that the file of a name lists are textual. -/
def IsTextualFile (files : Files) (name : String) : Prop :=
  ∀ vs ∈ listedIn? files name, ∀ v ∈ vs, IsTextual v

instance (files : Files) (name : String) : Decidable (IsTextualFile files name) :=
  inferInstanceAs (Decidable (∀ vs ∈ listedIn? files name, ∀ v ∈ vs, IsTextual v))

private theorem loadValue_grows {file : Yaml.Value} (hc : c.Named)
    (hfile : ∀ vs, listed file = .ok vs → ∀ v ∈ vs, IsTextual v) (source : String) :
    (c.loadValue source file).Grows c id := by
  rw [loadValue]
  split
  · exact .unchanged hc fun a ha ↦ nomatch ha
  · next vs hvs =>
    obtain ⟨hnamed, hgrowsTo, hcount⟩ := loadEntries_grows hc (hfile vs hvs) source 0 0
    rw [Change.andThen, Change.mapFault]
    cases houtcome : (c.loadEntries source 0 0 vs).outcome with
    | error fault => exact ⟨hnamed, hgrowsTo, fun n hn ↦ nomatch hn⟩
    | ok count =>
      refine ⟨hnamed, hgrowsTo, fun n hn ↦ ?_⟩
      rw [← Except.ok.inj hn]
      exact hcount count houtcome

/-- **Loading a file of texts** adds as many entries as it says. -/
theorem load_grows {files : Files} {name : String} (hc : c.Named)
    (hfile : IsTextualFile files name) : (c.load files name).Grows c id := by
  rw [load]
  split
  · exact .unchanged hc fun a ha ↦ nomatch ha
  · next text htext =>
    split
    · exact .unchanged hc fun a ha ↦ nomatch ha
    · next file hread =>
      refine loadValue_grows hc (fun vs hvs ↦ hfile vs ?_) name
      rw [listedIn?, htext, Except.toOption, Option.bind_eq_bind, Option.bind_some, hread,
        Except.toOption, Option.bind_eq_bind, Option.bind_some, hvs]
      rfl

end Motif.Catalogue
