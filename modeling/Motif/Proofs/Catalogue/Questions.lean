import Mathlib.Data.List.MinMax
import Mathlib.Data.List.Sort
import Mathlib.Order.Nat
import Mathlib.Data.String.Basic
import Motif.Catalogue.Search
import Motif.Proofs.Catalogue.Registration
import Motif.Proofs.Search.Faults

/-!
# What a catalogue of patterns answers

A `Named` catalogue is a list of texts with patterns, so what it answers can be read off that list:
a search with it is the searches for its patterns one after the other, and its statistics are about
these patterns. None of this depends on how the catalogue was filled.
-/

namespace Motif.Catalogue

variable {V : Type} {c : Catalogue V}

/-! ## The registered patterns -/

/-- The patterns in the order in which they were registered, each with its id. -/
def registered (c : Catalogue V) : List (Yaml.Scalar × Pattern V) :=
  c.entries.filterMap fun e ↦ e.content.pattern?.map fun x ↦ (e.id, x.1)

/-- The entry of a pattern with a description under a text. -/
def entryOf (x : String × Pattern V × Yaml.Value) : Entry V :=
  ⟨.text x.1, .pattern x.2.1 x.2.2⟩

/-- A catalogue of patterns under texts is a list of texts, patterns and descriptions. -/
theorem Named.exists_entries_eq (hc : c.Named) : ∃ xs, c.entries = List.map entryOf xs := by
  have hlist (es : List (Entry V)) (hes : ∀ e ∈ es, e.Named) : ∃ xs, es = List.map entryOf xs := by
    induction es with
    | nil => exact ⟨[], rfl⟩
    | cons e es ih =>
      obtain ⟨⟨id, p, description, rfl⟩, hrest⟩ := List.forall_mem_cons.1 hes
      obtain ⟨xs, rfl⟩ := ih hrest
      exact ⟨(id, p, description) :: xs, rfl⟩
  exact hlist c.entries hc

theorem registered_eq {xs : List (String × Pattern V × Yaml.Value)}
    (h : c.entries = xs.map entryOf) :
    c.registered = xs.map fun x ↦ (.text x.1, x.2.1) := by
  rw [registered, h, List.filterMap_map]
  exact congrFun List.filterMap_eq_map xs

theorem Named.map_fst_registered (hc : c.Named) : c.registered.map Prod.fst = c.ids := by
  obtain ⟨xs, hxs⟩ := hc.exists_entries_eq
  rw [registered_eq hxs, ids, hxs, List.map_map, List.map_map]
  rfl

private theorem Named.patterns_eq (hc : c.Named) (wanted : String) :
    c.patterns wanted = .ok (c.registered.map Prod.snd) := by
  obtain ⟨xs, hxs⟩ := hc.exists_entries_eq
  rw [registered_eq hxs, patterns, hxs, List.map_map]
  clear hxs
  induction xs with
  | nil => rfl
  | cons x xs ih =>
    rw [List.map_cons, List.mapM_cons, ih]
    rfl

private theorem same_comm (p q : Pattern V) : p.same q = q.same p := by
  rw [Pattern.same, Pattern.same, Bool.eq_iff_iff, beq_iff_eq, beq_iff_eq, eq_comm]

theorem Named.registered_differ (hc : c.Named) :
    c.registered.Pairwise fun x y ↦ x.2.same y.2 = false ∧ y.2.same x.2 = false := by
  have hdiffer := c.contents_differ
  obtain ⟨xs, hxs⟩ := hc.exists_entries_eq
  rw [hxs, List.pairwise_map] at hdiffer
  rw [registered_eq hxs, List.pairwise_map]
  exact hdiffer.imp fun h ↦ ⟨h, same_comm _ _ ▸ h⟩

theorem ids_nodup (c : Catalogue V) : c.ids.Nodup := by
  have hkeys : (c.ids.map Yaml.Scalar.key).Nodup := by
    rw [ids, List.map_map]
    exact c.keys_nodup
  exact List.Nodup.of_map _ hkeys

theorem Named.contains_iff (hc : c.Named) {id : String} :
    c.contains (.text id) = true ↔ .text id ∈ c.ids := by
  rw [contains, List.any_eq_true, ids, List.mem_map]
  refine exists_congr fun e ↦ and_congr_right fun he ↦ ?_
  obtain ⟨id', p, description, rfl⟩ := hc e he
  simp [Entry.key]

theorem Named.contains_eq_false_iff (hc : c.Named) {id : String} :
    c.contains (.text id) = false ↔ .text id ∉ c.ids := by
  rw [← hc.contains_iff, Bool.not_eq_true]

private theorem mem_registered_iff {id : Yaml.Scalar} {p : Pattern V} :
    (id, p) ∈ c.registered ↔ ∃ description, ⟨id, .pattern p description⟩ ∈ c.entries := by
  rw [registered, List.mem_filterMap]
  constructor
  · rintro ⟨⟨id', content⟩, he, hx⟩
    cases content with
    | value v => exact nomatch hx
    | pattern q description =>
      obtain ⟨rfl, rfl⟩ := Prod.mk.injEq .. ▸ Option.some_inj.1 hx
      exact ⟨description, he⟩
  · rintro ⟨description, he⟩
    exact ⟨_, he, rfl⟩

theorem Named.exists_registered_same (hc : c.Named) {p : Pattern V} {description : Yaml.Value} :
    (∃ x ∈ c.registered, x.2.same p = true) ↔
      ∃ e ∈ c.entries, e.content.same (.pattern p description) = true := by
  constructor
  · rintro ⟨x, hx, hsame⟩
    obtain ⟨description', he⟩ := mem_registered_iff.1 hx
    exact ⟨_, he, hsame⟩
  · rintro ⟨e, he, hsame⟩
    obtain ⟨id, q, description', rfl⟩ := hc e he
    exact ⟨(.text id, q), mem_registered_iff.2 ⟨description', he⟩, hsame⟩

private theorem key_eq_text_iff {id : Yaml.Scalar} {s : String} :
    id.key = .text s ↔ id = .text s := by
  cases id with
  | text t => simp
  | float x =>
    rw [Yaml.Scalar.key]
    cases x.integer? <;> simp
  | moment m =>
    rw [Yaml.Scalar.key]
    cases m.instant? <;> simp
  | _ => simp [Yaml.Scalar.key]

theorem entry?_eq_some_iff {id : Yaml.Scalar} {e : Entry V} :
    c.entry? id = some e ↔ e ∈ c.entries ∧ e.key = id.key := by
  constructor
  · intro hfind
    exact ⟨List.mem_of_find?_eq_some hfind, by simpa using List.find?_some hfind⟩
  · rintro ⟨hmem, hkey⟩
    cases hfind : c.entry? id with
    | none => exact absurd (decide_eq_true hkey) (List.find?_eq_none.1 hfind e hmem)
    | some f =>
      have hsame : f.key = id.key := by simpa using List.find?_some hfind
      rw [List.inj_on_of_nodup_map c.keys_nodup (List.mem_of_find?_eq_some hfind) hmem
        (hsame.trans hkey.symm)]

theorem Named.get_eq_ok_iff (hc : c.Named) {id : Yaml.Scalar} {content : Content V} :
    c.get id = .ok content ↔ ⟨id, content⟩ ∈ c.entries := by
  rw [get]
  constructor
  · intro hget
    split at hget
    · next e hfind =>
      obtain rfl := Except.ok.inj hget
      obtain ⟨hmem, hkey⟩ := entry?_eq_some_iff.1 hfind
      obtain ⟨id', p, description, rfl⟩ := hc e hmem
      obtain rfl := key_eq_text_iff.1 hkey.symm
      exact hmem
    · exact nomatch hget
  · intro hmem
    rw [entry?_eq_some_iff.2 ⟨hmem, rfl⟩]

/-! ## Searching -/

section Search

variable [DecidableEq V] {g : Graph V}

/-- What the searches for some patterns give, each match with the id of its pattern: the searches
are made one after the other, up to the first that fails. -/
def findingsOf (g : Graph V) (limit : Option Int) (xs : List (Yaml.Scalar × Pattern V)) :
    Except (SearchFault V) (List (Finding V)) := do
  let findings ← xs.mapM fun x ↦ do
    let found ← x.2.search g none limit
    pure (found.map (Finding.mk x.1))
  pure findings.flatten

theorem Entry.search_yields (e : Entry V) (limit : Option Nat) (g : Graph V) :
    (e.search limit g).Yields
      ((e.content.require "search").mapError .noPattern >>= fun p ↦
        (p.firstMatches g none limit).mapError .search >>= fun found ↦
          pure (found.map (Finding.mk e.id))) :=
  (Journaled.yields_ofExcept _).bind fun _ ↦ (Journaled.yields_ofExcept _).bind fun _ ↦
    (Journaled.yields_write _).bind fun _ ↦ Journaled.yields_pure _

private theorem search_entryOf_yields (x : String × Pattern V × Yaml.Value) (limit : Option Nat)
    (g : Graph V) :
    ((entryOf x).search limit g).Yields
      ((x.2.1.search g none (limit.map Int.ofNat) >>= fun found ↦
        pure (found.map (Finding.mk (.text x.1)))).mapError .search) := by
  rw [Pattern.search_natLimit, mapError_bind]
  exact (entryOf x).search_yields limit g

/-- **A search with a catalogue** is the searches for its patterns. -/
theorem Named.search_yields (hc : c.Named) (g : Graph V) :
    (c.search g).Yields
      ((findingsOf g (c.limit.map Int.ofNat) c.registered).mapError .search) := by
  obtain ⟨xs, hxs⟩ := hc.exists_entries_eq
  rw [registered_eq hxs, findingsOf, mapError_bind, List.mapM_map, mapError_mapM, search, hxs,
    List.mapM_map]
  exact (Journaled.yields_mapM fun x _ ↦ search_entryOf_yields x c.limit g).bind fun findings ↦
    Journaled.yields_pure _

/-- The first matches of a pattern all of whose tests answer. -/
def firstFound (p : Pattern V) (g : Graph V) (limit : Option Nat) : List (Match V) :=
  let found := g.vertices.flatMap fun v ↦ (p.walksFrom g v).map (p.matchAlong v)
  limit.elim found found.take

/-- No search fails in which all tests answer, up to a limit that can be asked for. -/
theorem search_eq_firstFound {p : Pattern V} (h : p.FaultFree g) {limit : Option Nat}
    (hlimit : ∀ n ∈ limit, n ≤ maxLimit) :
    p.search g none (limit.map Int.ofNat) = .ok (firstFound p g limit) := by
  have hall : (p.allMatches g none).toList =
      (g.vertices.flatMap fun v ↦ (p.walksFrom g v).map (p.matchAlong v), none) :=
    OnDemand.toList_each fun v hv ↦ p.matchesFrom_toList hv h
  rw [Pattern.search_natLimit, Pattern.firstMatches_of_feasible hlimit, OnDemand.collect_eq hall]
  rfl

/-- A search in which all tests answer returns exactly if its limit can be asked for. -/
theorem search_returns_iff_of_faultFree {p : Pattern V} (h : p.FaultFree g) {limit : Option Nat} :
    (∃ found, p.search g none (limit.map Int.ofNat) = .ok found) ↔
      ∀ n ∈ limit, n ≤ maxLimit := by
  constructor
  · rintro ⟨found, hfound⟩ n rfl
    by_contra hn
    rw [Pattern.search_natLimit, Pattern.firstMatches_of_tooLarge (Nat.not_le.1 hn)] at hfound
    cases hfound
  · intro hlimit
    exact ⟨_, search_eq_firstFound h hlimit⟩

theorem findingsOf_eq_ok {limit : Option Int} {xs : List (Yaml.Scalar × Pattern V)}
    (found : Pattern V → List (Match V))
    (h : ∀ x ∈ xs, x.2.search g none limit = .ok (found x.2)) :
    findingsOf g limit xs = .ok (xs.flatMap fun x ↦ (found x.2).map (Finding.mk x.1)) := by
  have hmap : (xs.mapM fun x ↦ x.2.search g none limit >>= fun found ↦
      pure (found.map (Finding.mk x.1))) =
        Except.ok (xs.map fun x ↦ (found x.2).map (Finding.mk x.1)) :=
    mapM_eq_ok fun x hx ↦ by rw [h x hx]; rfl
  rw [findingsOf, hmap, List.flatMap_def]
  rfl

/-- If several searches give matches, none of them fails. -/
theorem exists_search_of_findingsOf {limit : Option Int} {xs : List (Yaml.Scalar × Pattern V)}
    {fs : List (Finding V)} (h : findingsOf g limit xs = .ok fs) :
    ∀ x ∈ xs, ∃ found, x.2.search g none limit = .ok found := by
  rw [findingsOf, bind_pure_eq_ok_iff] at h
  obtain ⟨findings, hfindings, -⟩ := h
  intro x hx
  obtain ⟨ys, hys⟩ := exists_eq_ok_of_mapM hfindings x hx
  obtain ⟨found, hfound, -⟩ := bind_pure_eq_ok_iff.1 hys
  exact ⟨found, hfound⟩

/-- Where all tests answer, the searches for some patterns give the first matches of each, exactly
up to a limit that can be asked for. Without patterns no limit is asked for. -/
theorem findingsOf_eq_firstFound_iff {limit : Option Nat} {xs : List (Yaml.Scalar × Pattern V)}
    (hfree : ∀ x ∈ xs, x.2.FaultFree g) :
    findingsOf g (limit.map Int.ofNat) xs =
        .ok (xs.flatMap fun x ↦ (firstFound x.2 g limit).map (Finding.mk x.1)) ↔
      xs = [] ∨ ∀ n ∈ limit, n ≤ maxLimit := by
  constructor
  · intro h
    refine or_iff_not_imp_left.2 fun hne ↦ ?_
    obtain ⟨x, hx⟩ := List.exists_mem_of_ne_nil xs hne
    exact (search_returns_iff_of_faultFree (hfree x hx)).1 (exists_search_of_findingsOf h x hx)
  · rintro (rfl | hlimit)
    · rfl
    · exact findingsOf_eq_ok (firstFound · g limit) fun x hx ↦
        search_eq_firstFound (hfree x hx) hlimit

end Search

/-! ## Statistics -/

/-- The statistics are about the given patterns. -/
structure Statistics.About (s : Statistics) (patterns : List (Pattern V)) : Prop where
  /-- The patterns are counted. -/
  size_eq : s.size = patterns.length
  /-- No pattern has more edges. -/
  edges_le : ∀ p ∈ patterns, p.edges.length ≤ s.mostEdges
  /-- Some pattern has as many edges, if there is any. -/
  edges_attained : patterns ≠ [] → ∃ p ∈ patterns, p.edges.length = s.mostEdges
  /-- Without patterns the number of edges is zero. -/
  edges_empty : patterns = [] → s.mostEdges = 0
  /-- The names increase strictly. -/
  captures_increasing : s.captures.Pairwise (· < ·)
  /-- They are the names that the patterns use. -/
  mem_captures_iff : ∀ a, a ∈ s.captures ↔ ∃ p ∈ patterns, a ∈ p.captures

/-- **The statistics** are about the registered patterns. -/
theorem Named.exists_statistics_about (hc : c.Named) :
    ∃ s, c.statistics = .ok s ∧ s.About (c.registered.map Prod.snd) := by
  have hsize : c.size = (c.registered.map Prod.snd).length := by
    have hids : c.registered.length = c.ids.length := by
      rw [← hc.map_fst_registered, List.length_map]
    rw [List.length_map, hids, ids, List.length_map, size]
  rw [statistics, hc.patterns_eq]
  generalize c.registered.map Prod.snd = patterns at hsize ⊢
  refine ⟨_, rfl, hsize, fun p hp ↦ ?_, fun hne ↦ ?_, fun hnil ↦ ?_, ?_, fun a ↦ ?_⟩
  · exact List.le_max_of_le' 0 (List.mem_map_of_mem hp) le_rfl
  · have hcounts : patterns.map (fun p ↦ p.edges.length) ≠ [] :=
      fun hmap ↦ hne (List.map_eq_nil_iff.1 hmap)
    exact List.mem_map.1 (List.maximum_mem (List.foldr_max_of_ne_nil hcounts).symm)
  · rw [hnil]
    rfl
  · refine (List.Pairwise.and (List.pairwise_mergeSort' (· ≤ ·) _) ?_).imp
      fun h ↦ lt_of_le_of_ne h.1 h.2
    exact (List.mergeSort_perm _ _).nodup_iff.2 (nodup_distinct _)
  · rw [(List.mergeSort_perm _ _).mem_iff, mem_distinct, List.mem_flatMap]

end Motif.Catalogue
