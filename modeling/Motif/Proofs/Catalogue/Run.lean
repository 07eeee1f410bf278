import Mathlib
import Motif.Proofs.Catalogue.Questions

/-!
# Runs of requests to a catalogue

A catalogue that begins without entries is filled and questioned by requests, in any order, some of
which may fail. What one request does is said by `Answers`, relative to what is registered before
it: registering appends one entry or leaves everything as it is, loading appends entries, and
questions are answered from the registered patterns and change nothing. A catalogue that has come
about in this way is `WellKept`, and what was registered at some time stays in its place.

Files can hold ids and patterns that are not texts; requests to load them are not considered here
(`Request.IsTextual`).
-/

namespace Motif.Catalogue

variable {V : Type} {c : Catalogue V}

/-! ## What is kept, and what registering does -/

/-- What holds of a catalogue at all times. -/
structure WellKept (c : Catalogue V) : Prop where
  /-- No id occurs twice. -/
  ids_nodup : c.ids.Nodup
  /-- Every id has a pattern, and the patterns come in the order of the ids. -/
  ids_registered : c.registered.map Prod.fst = c.ids
  /-- No two patterns are equal. -/
  patterns_differ : c.registered.Pairwise fun x y ↦ x.2.same y.2 = false ∧ y.2.same x.2 = false

theorem Named.wellKept (hc : c.Named) : c.WellKept :=
  ⟨c.ids_nodup, hc.map_fst_registered, hc.registered_differ⟩

/-- What registering an offer in `c` does, if it leaves `d`. -/
structure Registers (c d : Catalogue V) (id : String) (offer : Offer V) (description : Yaml.Value)
    (outcome : Except AddFault Bool) : Prop where
  /-- It succeeds exactly if the one entry is added that was offered. -/
  true_iff : outcome = .ok true ↔ ∃ p, offer.read c.vocabulary = .ok p ∧
    d.entries = c.entries ++ [⟨.text id, .pattern p description⟩]
  /-- It is declined exactly if the id is free and an equal pattern is registered. -/
  false_iff : outcome = .ok false ↔ .text id ∉ c.ids ∧ ∃ p, offer.read c.vocabulary = .ok p ∧
    ∃ x ∈ c.registered, x.2.same p = true
  /-- It fails exactly if the id is in use or the text is not the text of a pattern. -/
  error_iff : (∃ fault, outcome = .error fault) ↔
    .text id ∈ c.ids ∨ ∃ fault, offer.read c.vocabulary = .error fault
  /-- Unless it succeeds, nothing changes. -/
  unchanged : outcome ≠ .ok true → d = c

theorem Offering.registers {id : String} {offer : Offer V} {description : Yaml.Value}
    {change : Change V AddFault Bool} (hc : c.Named) (h : Offering c id offer description change) :
    Registers c change.catalogue id offer description change.outcome := by
  have happend (e : Entry V) : c.entries ≠ c.entries ++ [e] := by simp
  cases h with
  | taken htaken =>
    have hid := hc.contains_iff.1 htaken
    exact {
      true_iff := ⟨nofun, fun ⟨_, _, h⟩ ↦ absurd h (happend _)⟩
      false_iff := ⟨nofun, fun h ↦ absurd hid h.1⟩
      error_iff := ⟨fun _ ↦ .inl hid, fun _ ↦ ⟨_, rfl⟩⟩
      unchanged := fun _ ↦ rfl }
  | unread hfree hread =>
    have hnone (p : Pattern V) : offer.read c.vocabulary ≠ .ok p := by
      rw [hread]
      exact nofun
    exact {
      true_iff := ⟨nofun, fun ⟨_, _, h⟩ ↦ absurd h (happend _)⟩
      false_iff := ⟨nofun, fun ⟨_, p, hp, _⟩ ↦ absurd hp (hnone p)⟩
      error_iff := ⟨fun _ ↦ .inr ⟨_, hread⟩, fun _ ↦ ⟨_, rfl⟩⟩
      unchanged := fun _ ↦ rfl }
  | @known p e record hfree hread he hsame =>
    have hid := hc.contains_eq_false_iff.1 hfree
    have hok : ¬ ∃ fault, offer.read c.vocabulary = .error fault := by
      rintro ⟨fault, h⟩
      rw [hread] at h
      exact nomatch h
    exact {
      true_iff := ⟨nofun, fun ⟨_, _, h⟩ ↦ absurd h (happend _)⟩
      false_iff := ⟨fun _ ↦ ⟨hid, p, hread, hc.exists_registered_same.2 ⟨e, he, hsame⟩⟩,
        fun _ ↦ rfl⟩
      error_iff := ⟨fun ⟨_, h⟩ ↦ (nomatch h), fun h ↦ h.elim (absurd · hid) (absurd · hok)⟩
      unchanged := fun _ ↦ rfl }
  | @new p hfree hread hnew =>
    have hid := hc.contains_eq_false_iff.1 hfree
    have hok : ¬ ∃ fault, offer.read c.vocabulary = .error fault := by
      rintro ⟨fault, h⟩
      rw [hread] at h
      exact nomatch h
    refine {
      true_iff := ⟨fun _ ↦ ⟨p, hread, rfl⟩, fun _ ↦ rfl⟩
      false_iff := ⟨nofun, fun ⟨_, q, hq, hx⟩ ↦ ?_⟩
      error_iff := ⟨fun ⟨_, h⟩ ↦ (nomatch h), fun h ↦ h.elim (absurd · hid) (absurd · hok)⟩
      unchanged := fun h ↦ absurd rfl h }
    obtain rfl := Except.ok.inj (hread.symm.trans hq)
    obtain ⟨e, he, hsame⟩ := hc.exists_registered_same.1 hx
    exact absurd hsame (List.find?_eq_none.1 hnew e he)

theorem named_of_create {vocabulary : Vocabulary V} {limit : Option Int}
    (h : create vocabulary limit = .ok c) : c.Named := by
  rw [create] at h
  cases hlimit : nonNegativeLimit limit with
  | error fault => exact nomatch hlimit ▸ h
  | ok n =>
    obtain rfl := Except.ok.inj (hlimit ▸ h)
    exact fun e he ↦ nomatch he

/-! ## Requests -/

/-- What a catalogue can be asked to do. -/
inductive Request (V : Type) where
  /-- Register a pattern or the text of one. -/
  | add (id : String) (offer : Offer V) (description : Yaml.Value)
  /-- Load a file. -/
  | load (files : Files) (name : String)
  /-- Give what is registered under an id. -/
  | get (id : Yaml.Scalar)
  /-- Find the matches in a graph. -/
  | search (g : Graph V)
  /-- Explain a match. -/
  | explain (f : Finding V)
  /-- Give the statistics. -/
  | statistics

/-- What a catalogue replies. -/
inductive Reply (V : Type) where
  /-- Whether the pattern was registered. -/
  | added (outcome : Except AddFault Bool)
  /-- How many patterns were registered. -/
  | loaded (outcome : Except LoadFault Nat)
  /-- What is registered. -/
  | got (outcome : Except UnknownId (Content V))
  /-- The matches. -/
  | found (outcome : Except (SearchError V) (List (Finding V)))
  /-- The explanation. -/
  | explained (outcome : Except Yaml.Unshowable String)
  /-- The statistics. -/
  | counted (outcome : Except FieldFault Statistics)

def Request.IsTextual : Request V → Prop
  | load files name => IsTextualFile files name
  | _ => True

instance : DecidablePred (Request.IsTextual (V := V))
  | .load files name => inferInstanceAs (Decidable (IsTextualFile files name))
  | .add .. | .get .. | .search .. | .explain .. | .statistics => .isTrue trivial

section Requests

variable [DecidableEq V]

/-- What a search with `c` finds. -/
structure Finds (c : Catalogue V) (g : Graph V)
    (outcome : Except (SearchError V) (List (Finding V))) : Prop where
  /-- The searches for the patterns are made in order, and the first that fails is the failure. -/
  outcome_eq :
    outcome = (findingsOf g (c.limit.map Int.ofNat) c.registered).mapError .search
  /-- If no search fails, their matches follow each other in the order of the patterns. -/
  concatenated : ∀ found : Pattern V → List (Match V),
    (∀ x ∈ c.registered, x.2.search g none (c.limit.map Int.ofNat) = .ok (found x.2)) →
    outcome = .ok (c.registered.flatMap fun x ↦ (found x.2).map (Finding.mk x.1))
  /-- If all tests answer, the first matches of each pattern follow each other, exactly if the limit
  can be asked for or there is no pattern to ask for. -/
  first_found_iff : (∀ x ∈ c.registered, x.2.FaultFree g) →
    (outcome = .ok (c.registered.flatMap fun x ↦
        (firstFound x.2 g c.limit).map (Finding.mk x.1)) ↔
      c.registered = [] ∨ ∀ n ∈ c.limit, n ≤ maxLimit)

theorem Named.finds (hc : c.Named) (g : Graph V) : Finds c g (c.search g).result.1 where
  outcome_eq := (hc.search_yields g).result_fst
  concatenated found hfound := by
    rw [(hc.search_yields g).result_fst]
    exact congrArg _ (findingsOf_eq_ok found hfound)
  first_found_iff hfree := by
    rw [(hc.search_yields g).result_fst, mapError_eq_ok_iff, findingsOf_eq_firstFound_iff hfree]

variable [Payload V]

/-- The catalogue after a request, and the reply. -/
def Request.perform (c : Catalogue V) : Request V → Catalogue V × Reply V
  | add id offer description =>
    let change := c.add (.text id) offer.candidate description
    (change.catalogue, .added change.outcome)
  | load files name =>
    let change := c.load files name
    (change.catalogue, .loaded change.outcome)
  | get id => (c, .got (c.get id))
  | search g => (c, .found (c.search g).result.1)
  | explain f => (c, .explained (c.explain f))
  | statistics => (c, .counted c.statistics)

def run (c : Catalogue V) (requests : List (Request V)) : Catalogue V :=
  requests.foldl (fun c r ↦ (r.perform c).1) c

/-! ## What requests do -/

/-- What a request to `c` does, if it leaves `d` and a reply. -/
def Answers (c d : Catalogue V) : Request V → Reply V → Prop
  | .add id offer description, .added outcome => Registers c d id offer description outcome
  | .load _ _, .loaded outcome => ∀ n, outcome = .ok n → d.size = c.size + n
  | .get id, .got outcome =>
    d = c ∧ ∀ content, outcome = .ok content ↔ ⟨id, content⟩ ∈ c.entries
  | .search g, .found outcome => d = c ∧ Finds c g outcome
  | .explain _, .explained _ => d = c
  | .statistics, .counted outcome =>
    d = c ∧ ∃ s, outcome = .ok s ∧ s.About (c.registered.map Prod.snd)
  | _, _ => False

/-! ## One request -/

theorem Named.perform (hc : c.Named) {r : Request V} (hr : r.IsTextual) :
    (r.perform c).1.Named ∧ c.GrowsTo (r.perform c).1 ∧
      Answers c (r.perform c).1 r (r.perform c).2 := by
  cases r with
  | add id offer description =>
    have hoffering := offering hc id offer description
    have hgrows := hoffering.grows hc
    exact ⟨hgrows.named, hgrows.growsTo, hoffering.registers hc⟩
  | load files name =>
    have hgrows := load_grows hc hr
    exact ⟨hgrows.named, hgrows.growsTo, hgrows.size_eq⟩
  | get id => exact ⟨hc, .refl c, rfl, fun content ↦ hc.get_eq_ok_iff⟩
  | search g => exact ⟨hc, .refl c, rfl, hc.finds g⟩
  | explain f => exact ⟨hc, .refl c, rfl⟩
  | statistics => exact ⟨hc, .refl c, rfl, hc.exists_statistics_about⟩

/-! ## Runs -/

theorem Named.run (hc : c.Named) {requests : List (Request V)}
    (hrequests : ∀ r ∈ requests, r.IsTextual) :
    (c.run requests).Named ∧ c.GrowsTo (c.run requests) := by
  induction requests generalizing c with
  | nil => exact ⟨hc, .refl c⟩
  | cons r requests ih =>
    obtain ⟨hr, hrequests⟩ := List.forall_mem_cons.1 hrequests
    obtain ⟨hnamed, hgrows, -⟩ := hc.perform hr
    obtain ⟨hnamed', hgrows'⟩ := ih hnamed hrequests
    exact ⟨hnamed', hgrows.trans hgrows'⟩

/-- **Whole runs.** After any requests to a new catalogue, it is well kept; what is registered stays
where it is, whatever else is requested; and every further request is answered from what is
registered by then. -/
theorem run_wellKept_and_answers {vocabulary : Vocabulary V} {limit : Option Int}
    {start : Catalogue V} (hstart : create vocabulary limit = .ok start)
    {before : List (Request V)} (hbefore : ∀ r ∈ before, r.IsTextual) :
    (start.run before).WellKept ∧
      (∀ after : List (Request V), (∀ r ∈ after, r.IsTextual) →
        (start.run before).entries <+: ((start.run before).run after).entries) ∧
      ∀ r : Request V, r.IsTextual →
        Answers (start.run before) (r.perform (start.run before)).1 r
          (r.perform (start.run before)).2 := by
  have hnamed := ((named_of_create hstart).run hbefore).1
  exact ⟨hnamed.wellKept, fun after hafter ↦ (hnamed.run hafter).2.entries,
    fun r hr ↦ (hnamed.perform hr).2.2⟩

end Requests

/-- A file with a pattern that is there already and an entry without a pattern. -/
def sampleFiles : Files := fun _ ↦
  .ok "\x7bpatterns: [\x7bid: again, pattern: .*\x7d, \x7bid: last\x7d]\x7d"

def sampleRequests : List (Request Token) :=
  [.add "any" (.text ".*") (.text ""), .add "named" (.text "\x7bx\x7d") (.text ""),
    .add "any" (.text ".*") (.text ""), .add "open" (.text "\x7b") (.text ""),
    .load sampleFiles "patterns.yaml", .get (.text "open"), .statistics]

theorem run_wellKept_and_answers_sample :
    (create (.standard : Vocabulary Token) (some 5) = .ok (.empty .standard (some 5)) ∧
      ∀ r ∈ sampleRequests, r.IsTextual) ∧
    ((empty .standard (some 5)).run sampleRequests).ids = [.text "any", .text "named"] ∧
    ((empty .standard (some 5)).run sampleRequests).WellKept ∧
    (∀ after : List (Request Token), (∀ r ∈ after, r.IsTextual) →
      ((empty .standard (some 5)).run sampleRequests).entries <+:
        (((empty .standard (some 5)).run sampleRequests).run after).entries) ∧
    ∀ r : Request Token, r.IsTextual →
      Answers ((empty .standard (some 5)).run sampleRequests)
        (r.perform ((empty .standard (some 5)).run sampleRequests)).1 r
        (r.perform ((empty .standard (some 5)).run sampleRequests)).2 := by
  have hcreate : create (.standard : Vocabulary Token) (some 5) =
      .ok (.empty .standard (some 5)) := rfl
  have htextual : ∀ r ∈ sampleRequests, r.IsTextual := by decide +kernel
  exact ⟨⟨hcreate, htextual⟩, by decide +kernel, run_wellKept_and_answers hcreate htextual⟩

/-- A catalogue takes a limit that no search can be made with. Its pattern has a match in this graph
and no test fails there, but the match is not found. -/
theorem run_search_beyond_maxLimit :
    ∃ (start : Catalogue Vertex) (g : Graph Vertex),
      create .standard (some 9223372036854775808) = .ok start ∧
      (∃ p, (start.run [.add "any" (.text ".*") (.text "")]).registered = [(.text "any", p)] ∧
        p.FaultFree g ∧ (p.allMatches g none).toList.1.length = 1) ∧
      ((start.run [.add "any" (.text ".*") (.text "")]).search g).result.1 =
        .error (.search (.limit .tooLarge)) := by
  refine ⟨.empty .standard (some 9223372036854775808),
    .ofEdges [⟨.text "a", .text "a", "r"⟩], rfl, ⟨⟨.any, []⟩, ?_, ?_, ?_⟩, ?_⟩
  · cbv
  · exact Pattern.faultFree_of_answersEverywhere (by decide)
  · decide
  · cbv

end Motif.Catalogue
