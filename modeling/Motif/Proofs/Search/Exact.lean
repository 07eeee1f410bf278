import Motif.Proofs.Outcome
import Motif.Proofs.Search.Fitting

/-!
# A search finds exactly the walks that fit

As long as the node tests answer at the vertices of the graph, a search without a limit lists one
match for each walk that fits the pattern, in the order of `Pattern.fitting`, and the captures of a
match are what the named matchers record along its walk, a later one of a name replacing an earlier
one. The step from the search to the list of walks is `explore_toList`: its induction is that of
`Pattern.explore`, and the trail is what the search has recorded before it came to the vertex.
-/

namespace Motif

variable {V : Type}

/-! ## What the matchers record

Node and edge matchers record in the same way, so this is said once for matchers of any kind, given
their names and the texts they report. -/

section Records

variable {M α : Type} (name : M → Option String) (text : M → α → Option String)

/-- What the named ones of some matchers record of what they are asked about, in order. -/
def records (ms : List M) (xs : List α) : List (String × Capture α) :=
  (ms.zip xs).flatMap fun x ↦
    match name x.1, text x.1 x.2 with
    | some a, some s => [(a, ⟨x.2, s⟩)]
    | _, _ => []

/-- `c` is what the last of the matchers named `a` was asked about, with the text it reported. -/
def LastNamed (a : String) (ms : List M) (xs : List α) (c : Capture α) : Prop :=
  ∃ i m, ms[i]? = some m ∧ xs[i]? = some c.value ∧ name m = some a ∧
    text m c.value = some c.text ∧ ∀ (j : Nat) (n : M), i < j → ms[j]? = some n → name n ≠ some a

variable {name text} {m : M} {ms : List M} {x : α} {xs : List α}

theorem records_cons :
    records name text (m :: ms) (x :: xs) =
      records name text [m] [x] ++ records name text ms xs := by
  simp [records]

theorem lastOf_records_singleton {a : String} {s : String} (hs : text m x = some s) :
    InsertionMap.lastOf a (records name text [m] [x]) =
      if name m = some a then some ⟨x, s⟩ else none := by
  cases hm : name m with
  | none => simp [records, hm, InsertionMap.lastOf]
  | some b => by_cases hb : b = a <;> simp [records, hm, hs, hb, InsertionMap.lastOf]

/-- When all matchers accept, a name is without a record only if no matcher has it. -/
theorem lastOf_records_eq_none_iff {a : String}
    (h : List.Forall₂ (fun m x ↦ (text m x).isSome = true) ms xs) :
    InsertionMap.lastOf a (records name text ms xs) = none ↔ ∀ m ∈ ms, name m ≠ some a := by
  induction h with
  | nil => simp [records, InsertionMap.lastOf]
  | @cons m x ms xs hx _ ih =>
    obtain ⟨s, hs⟩ := Option.isSome_iff_exists.1 hx
    rw [records_cons, InsertionMap.lastOf_append, lastOf_records_singleton hs,
      Option.or_eq_none_iff, ih, List.forall_mem_cons, and_comm]
    refine and_congr_left fun _ ↦ ?_
    by_cases hm : name m = some a <;> simp [hm]

/-- When all matchers accept, the last record of a name is that of the last matcher so named. -/
theorem lastOf_records_eq_some_iff {a : String} {c : Capture α}
    (h : List.Forall₂ (fun m x ↦ (text m x).isSome = true) ms xs) :
    InsertionMap.lastOf a (records name text ms xs) = some c ↔
      LastNamed name text a ms xs c := by
  induction h generalizing c with
  | nil => simp [records, InsertionMap.lastOf, LastNamed]
  | @cons m x ms xs hx hrest ih =>
    obtain ⟨s, hs⟩ := Option.isSome_iff_exists.1 hx
    rw [records_cons, InsertionMap.lastOf_append, lastOf_records_singleton hs,
      Option.or_eq_some_iff, ih, lastOf_records_eq_none_iff hrest]
    constructor
    · rintro (⟨i, n, hn, hc, hname, htext, hlast⟩ | ⟨hnone, hfirst⟩)
      · refine ⟨i + 1, n, hn, hc, hname, htext, fun j n' hij hn' ↦ ?_⟩
        obtain ⟨j, rfl⟩ := Nat.exists_eq_add_one_of_ne_zero (Nat.ne_of_gt (Nat.zero_lt_of_lt hij))
        exact hlast j n' (Nat.lt_of_succ_lt_succ hij) hn'
      · obtain ⟨hm, rfl⟩ : name m = some a ∧ ⟨x, s⟩ = c := by simpa using hfirst
        refine ⟨0, m, rfl, rfl, hm, hs, fun j n hj hn ↦ ?_⟩
        obtain ⟨j, rfl⟩ := Nat.exists_eq_add_one_of_ne_zero (Nat.ne_of_gt hj)
        exact hnone n (List.mem_of_getElem? hn)
    · rintro ⟨i, n, hn, hc, hname, htext, hlast⟩
      cases i with
      | zero =>
        obtain rfl : m = n := by simpa using hn
        obtain rfl : x = c.value := by simpa using hc
        refine Or.inr ⟨fun n' hn' ↦ ?_, ?_⟩
        · obtain ⟨j, hj⟩ := List.mem_iff_getElem?.1 hn'
          exact hlast (j + 1) n' (Nat.succ_pos j) hj
        · obtain rfl : s = c.text := Option.some_inj.1 (hs.symm.trans htext)
          rw [if_pos hname]
      | succ i =>
        exact Or.inl ⟨i, n, hn, hc, hname, htext, fun j n' hij hn' ↦
          hlast (j + 1) n' (Nat.succ_lt_succ hij) hn'⟩

end Records

/-- What node matchers record along the vertices they are asked about. -/
def nodeRecords (ms : List (NodeMatcher V)) (vs : List V) : List (String × Capture V) :=
  records NodeMatcher.name NodeMatcher.text? ms vs

/-- What edge matchers record along the steps they are asked about. -/
def edgeRecords (ms : List EdgeMatcher) (ds : List (Step V)) :
    List (String × Capture (Step V)) :=
  records EdgeMatcher.name EdgeMatcher.matchText ms ds

private theorem nodeRecords_cons (m : NodeMatcher V) (ms : List (NodeMatcher V)) (v : V)
    (vs : List V) :
    nodeRecords (m :: ms) (v :: vs) = nodeRecords [m] [v] ++ nodeRecords ms vs := records_cons

theorem edgeRecords_cons (m : EdgeMatcher) (ms : List EdgeMatcher) (d : Step V)
    (ds : List (Step V)) :
    edgeRecords (m :: ms) (d :: ds) = edgeRecords [m] [d] ++ edgeRecords ms ds := records_cons

namespace Trail

variable {t : Trail V}

private theorem uses_eq_true_iff [DecidableEq V] {e : Edge V} :
    t.uses e = true ↔ e ∈ t.steps.map Step.edge := by
  simp [uses]

@[simp] theorem steps_atNode (name : Option String) (v : V) (text : String) :
    (t.atNode name v text).steps = t.steps := by cases name <;> rfl

@[simp] theorem uses_atNode_eq_true_iff [DecidableEq V] {name : Option String} {v : V}
    {text : String}
    {e : Edge V} : (t.atNode name v text).uses e = true ↔ e ∈ t.steps.map Step.edge := by
  rw [uses_eq_true_iff, steps_atNode]

@[simp] theorem edges_atNode (name : Option String) (v : V) (text : String) :
    (t.atNode name v text).edges = t.edges := by cases name <;> rfl

theorem nodes_atNode {m : NodeMatcher V} {v : V} {text : String}
    (h : m.matchText v = .ok (some text)) :
    (t.atNode m.name v text).nodes = t.nodes.insertAll (nodeRecords [m] [v]) := by
  cases hm : m.name <;>
    simp [nodeRecords, records, hm, NodeMatcher.text?_of_matchText h, atNode,
      InsertionMap.insertAll_cons]

@[simp] theorem steps_takeStep (name : Option String) (d : Step V) (text : String) :
    (t.takeStep name d text).steps = d :: t.steps := rfl

@[simp] theorem nodes_takeStep (name : Option String) (d : Step V) (text : String) :
    (t.takeStep name d text).nodes = t.nodes := rfl

@[simp] private theorem edges_takeStep {m : EdgeMatcher} {d : Step V} {text : String}
    (h : m.matchText d = some text) :
    (t.takeStep m.name d text).edges = t.edges.insertAll (edgeRecords [m] [d]) := by
  cases hm : m.name <;>
    simp [edgeRecords, records, hm, h, takeStep, InsertionMap.insertAll_cons]

/-- The match that a trail becomes when the walk goes on along `ds` to the end of the pattern, past
the node matchers `ms` and the edge matchers `es`. -/
def complete (t : Trail V) (p : Pattern V) (ms : List (NodeMatcher V)) (es : List EdgeMatcher)
    (v : V) (ds : List (Step V)) : Match V :=
  ⟨p, ⟨t.steps.reverse ++ ds⟩, t.nodes.insertAll (nodeRecords ms (Walk.visits v ds)),
    t.edges.insertAll (edgeRecords es ds)⟩

theorem complete_nil {p : Pattern V} {m : NodeMatcher V} {v : V} {text : String}
    (h : m.matchText v = .ok (some text)) :
    t.complete p [m] [] v [] = (t.atNode m.name v text).toMatch p := by
  rw [toMatch, complete, nodes_atNode h, steps_atNode, edges_atNode, List.append_nil]
  rfl

theorem complete_cons {p : Pattern V} {m : NodeMatcher V} {ms : List (NodeMatcher V)}
    {e : EdgeMatcher} {es : List EdgeMatcher} {v : V} {d : Step V} {s u : String}
    (hm : m.matchText v = .ok (some s)) (he : e.matchText d = some u) (ds : List (Step V)) :
    t.complete p (m :: ms) (e :: es) v (d :: ds) =
      ((t.atNode m.name v s).takeStep e.name d u).complete p ms es d.finish ds := by
  rw [complete, complete, Walk.visits, nodeRecords_cons, edgeRecords_cons,
    InsertionMap.insertAll_append, InsertionMap.insertAll_append, ← nodes_atNode hm,
    edges_takeStep he, edges_atNode, nodes_takeStep, steps_takeStep, steps_atNode,
    List.reverse_cons, List.append_assoc]
  rfl

end Trail

namespace Pattern

/-- The node tests of the pattern answer at every vertex of the graph. -/
def FaultFree (p : Pattern V) (g : Graph V) : Prop :=
  ∀ m ∈ p.nodes, ∀ v ∈ g.vertices, ∃ r, m.matchText v = .ok r

/-- Whether the node tests answer at every vertex. -/
def answersEverywhere (p : Pattern V) (g : Graph V) : Bool :=
  p.nodes.all fun m ↦ g.vertices.all fun v ↦ (m.matchText v).toOption.isSome

theorem faultFree_of_answersEverywhere {p : Pattern V} {g : Graph V}
    (h : p.answersEverywhere g = true) : p.FaultFree g := by
  intro m hm v hv
  rw [answersEverywhere, List.all_eq_true] at h
  obtain ⟨r, hr⟩ := Option.isSome_iff_exists.1 (List.all_eq_true.1 (h m hm) v hv)
  exact ⟨r, toOption_eq_some_iff.1 hr⟩

variable [DecidableEq V]

/-- From a vertex of the graph, the search lists the walks that fit and that avoid the edges of the
trail, each completed to a match. -/
theorem explore_toList {p : Pattern V} {g : Graph V} {m : NodeMatcher V} {links : List (Link V)}
    {v : V} (hv : v ∈ g.vertices) (h : FaultFree ⟨m, links⟩ g) (t : Trail V) :
    (p.explore g m links v t).toList =
      ((fitting g m links v (t.steps.map Step.edge)).map
        (t.complete p (m :: links.map Link.node) (links.map Link.edge) v), none) := by
  -- The matcher fails or refuses, the pattern ends here, the vertex is unknown, or steps leave it.
  fun_induction explore p g m links v t with
  | case1 m links v t fault hr =>
    obtain ⟨r, hr'⟩ := h m List.mem_cons_self v hv
    cases hr.symm.trans hr'
  | case2 m links v t hr =>
    rw [fitting_of_refused (NodeMatcher.accepts_of_matchText hr)]
    rfl
  | case3 m v t text hr =>
    rw [fitting, NodeMatcher.accepts_of_matchText hr, Option.isSome_some, if_pos rfl,
      List.map_singleton]
    exact congrArg (fun x ↦ ([x], none)) (Trail.complete_nil hr).symm
  | case4 m v t text hr l links fault hunknown =>
    exact absurd hv (Graph.incident?_eq_error_iff.1 hunknown).1
  | case5 m v t text hr t' l links steps hsteps ih =>
    obtain ⟨-, rfl⟩ := Graph.incident?_eq_ok_iff.1 hsteps
    have hquiet : FaultFree ⟨l.node, links⟩ g := fun n hn ↦ h n (List.mem_cons_of_mem m hn)
    rw [fitting, NodeMatcher.accepts_of_matchText hr, Option.isSome_some, if_pos rfl,
      List.map_flatMap]
    refine OnDemand.toList_each fun d hd ↦ ?_
    by_cases hused : d.edge ∈ t.steps.map Step.edge
    · rw [if_pos (Trail.uses_atNode_eq_true_iff.2 hused), if_neg fun hfree ↦ hfree.1 hused]
      rfl
    rw [if_neg fun h ↦ hused (Trail.uses_atNode_eq_true_iff.1 h), EdgeMatcher.accepts]
    cases htext : l.edge.matchText d with
    | none =>
      rw [if_neg fun hfree ↦ Bool.false_ne_true hfree.2]
      rfl
    | some s =>
      rw [if_pos ⟨hused, rfl⟩, ih d s (Graph.finish_mem hd) hquiet, Trail.steps_takeStep,
        List.map_cons, Trail.steps_atNode, List.map_map]
      refine congrArg (·, none) (List.map_congr_left fun ds _ ↦ ?_)
      exact (Trail.complete_cons hr htext ds).symm

/-! ## Whole searches -/

/-- The match that a walk from `v` is. -/
def matchAlong (p : Pattern V) (v : V) (ds : List (Step V)) : Match V :=
  ⟨p, ⟨ds⟩, .ofList (nodeRecords p.nodes (Walk.visits v ds)), .ofList (edgeRecords p.edges ds)⟩

/-- The walks from `v` that fit the pattern, in the order of the search. -/
def walksFrom (p : Pattern V) (g : Graph V) (v : V) : List (List (Step V)) :=
  fitting g p.first p.links v []

@[simp] theorem mem_walksFrom {p : Pattern V} {g : Graph V} {v : V} {ds : List (Step V)} :
    ds ∈ p.walksFrom g v ↔ p.Fits g v ds := by
  rw [walksFrom, mem_fitting]
  exact and_iff_left fun d _ ↦ List.not_mem_nil

theorem matchesFrom_toList {p : Pattern V} {g : Graph V} {v : V} (hv : v ∈ g.vertices)
    (h : p.FaultFree g) :
    (p.matchesFrom g v).toList = ((p.walksFrom g v).map (p.matchAlong v), none) :=
  explore_toList hv h .start

theorem allMatches_of_mem (p : Pattern V) {g : Graph V} {v : V} (hv : v ∈ g.vertices) :
    p.allMatches g (some v) = p.matchesFrom g v := by
  simp only [allMatches, Graph.incident?_eq_ok_iff.2 ⟨hv, rfl⟩]

theorem allMatches_of_unknown (p : Pattern V) {g : Graph V} {v : V} (hv : v ∉ g.vertices) :
    p.allMatches g (some v) = .broken (.graph (.unknownVertex v)) := by
  simp only [allMatches, Graph.incident?_eq_error_iff.2 ⟨hv, rfl⟩]

theorem search_without_limit (p : Pattern V) (g : Graph V) (anchor : Option V) :
    p.search g anchor none = OnDemand.outcome (p.allMatches g anchor).toList := rfl

theorem search_natLimit (p : Pattern V) (g : Graph V) (anchor : Option V) (limit : Option Nat) :
    p.search g anchor (limit.map Int.ofNat) = p.firstMatches g anchor limit := by
  have hlimit : nonNegativeLimit (limit.map Int.ofNat) = .ok limit := by
    cases limit with
    | none => rfl
    | some n => simp [nonNegativeLimit]
  rw [search, hlimit]
  rfl

/-- A limit that can be asked for leaves the first of the matches that come on demand. -/
theorem firstMatches_of_feasible {limit : Option Nat} (hlimit : ∀ n ∈ limit, n ≤ maxLimit)
    (p : Pattern V) (g : Graph V) (anchor : Option V) :
    p.firstMatches g anchor limit =
      OnDemand.outcome (OnDemand.collect limit fun _ ↦ p.allMatches g anchor) := by
  have hfeasible : feasibleLimit limit = .ok limit := by
    cases limit with
    | none => rfl
    | some n => exact if_pos (hlimit n rfl)
  rw [firstMatches, hfeasible]
  rfl

/-- Anchored at a vertex of the graph, a search gives the matches along the walks that fit. -/
theorem search_anchored {p : Pattern V} {g : Graph V} {v : V} (hv : v ∈ g.vertices)
    (h : p.FaultFree g) :
    p.search g (some v) none = .ok ((p.walksFrom g v).map (p.matchAlong v)) := by
  rw [search_without_limit, allMatches_of_mem p hv, matchesFrom_toList hv h]
  rfl

/-- Without an anchor, a search gives what the searches anchored at the vertices give. -/
theorem search_unanchored {p : Pattern V} {g : Graph V} (h : p.FaultFree g) :
    p.search g none none =
      .ok (g.vertices.flatMap fun v ↦ (p.walksFrom g v).map (p.matchAlong v)) := by
  rw [search_without_limit, allMatches,
    OnDemand.toList_each fun v hv ↦ matchesFrom_toList hv h]
  rfl

/-- The list `ms` holds, once each, the matches of the pattern from `v`: one for every walk that
fits, ordered by ranks, with the captures of the last matcher of each name. -/
structure EnumeratedBy (p : Pattern V) (g : Graph V) (v : V) (ms : List (Match V)) : Prop where
  /-- Every match is one of the pattern. -/
  pattern_eq : ∀ m ∈ ms, m.pattern = p
  /-- The walks of the matches are those that fit. -/
  walk_iff : ∀ ds, (∃ m ∈ ms, m.walk.steps = ds) ↔ p.Fits g v ds
  /-- No walk belongs to two matches. -/
  nodup : (ms.map fun m ↦ m.walk.steps).Nodup
  /-- The matches come in the lexicographic order of the ranks of their walks. -/
  increasing : ms.Pairwise fun m n ↦ g.ranks v m.walk.steps < g.ranks v n.walk.steps
  /-- A name stands for the vertex that the last node matcher so named accepted. -/
  node_capture : ∀ m ∈ ms, ∀ a c, m.nodes.get? a = some c ↔
    LastNamed NodeMatcher.name NodeMatcher.text? a p.nodes (Walk.visits v m.walk.steps) c
  /-- A name stands for the step that the last edge matcher so named accepted. -/
  edge_capture : ∀ m ∈ ms, ∀ a c, m.edges.get? a = some c ↔
    LastNamed EdgeMatcher.name EdgeMatcher.matchText a p.edges m.walk.steps c

private theorem enumeratedBy_map_matchAlong (p : Pattern V) (g : Graph V) (v : V) :
    p.EnumeratedBy g v ((p.walksFrom g v).map (p.matchAlong v)) where
  pattern_eq m hm := by
    obtain ⟨ds, -, rfl⟩ := List.mem_map.1 hm
    rfl
  walk_iff ds := by
    rw [← mem_walksFrom]
    constructor
    · rintro ⟨m, hm, rfl⟩
      obtain ⟨ds, hds, rfl⟩ := List.mem_map.1 hm
      exact hds
    · exact fun hds ↦ ⟨p.matchAlong v ds, List.mem_map_of_mem hds, rfl⟩
  nodup := by
    rw [List.map_map]
    exact (List.map_id _).symm ▸ fitting_nodup
  increasing := List.pairwise_map.2 fitting_increasing
  node_capture m hm a c := by
    obtain ⟨ds, hds, rfl⟩ := List.mem_map.1 hm
    rw [matchAlong, InsertionMap.get?_ofList]
    exact lastOf_records_eq_some_iff (mem_walksFrom.1 hds).nodes_accepted
  edge_capture m hm a c := by
    obtain ⟨ds, hds, rfl⟩ := List.mem_map.1 hm
    rw [matchAlong, InsertionMap.get?_ofList]
    exact lastOf_records_eq_some_iff (mem_walksFrom.1 hds).steps_accepted

/-- **Search is exact.** Anchored at a vertex, a search without a limit gives one match for each
walk that fits, in order; without an anchor it gives these lists one after the other. -/
theorem search_exact (p : Pattern V) (g : Graph V) (h : p.FaultFree g) :
    ∃ found : V → List (Match V),
      p.search g none none = .ok (g.vertices.flatMap found) ∧
      ∀ v ∈ g.vertices, p.search g (some v) none = .ok (found v) ∧
        p.EnumeratedBy g v (found v) :=
  ⟨fun v ↦ (p.walksFrom g v).map (p.matchAlong v), search_unanchored h,
    fun v hv ↦ ⟨search_anchored hv h, p.enumeratedBy_map_matchAlong g v⟩⟩

/-- A graph with a self-loop, two parallel edges and an edge back. -/
def loopGraph : Graph String :=
  .ofEdges [⟨"a", "a", "r"⟩, ⟨"a", "b", "r"⟩, ⟨"a", "b", "s"⟩, ⟨"b", "a", "r"⟩]

/-- A pattern with a condition on its first vertex and a name that is used twice. -/
def loopPattern : Pattern String where
  first := ⟨some "x", [.holds "short" fun s ↦ .ok (s.length == 1)], by simp, by simp⟩
  links := [⟨⟨none, [], .any⟩, .any⟩,
    ⟨⟨some "e", [.down], .label "r"⟩, ⟨some "x", [.any], by simp, by simp⟩⟩]

theorem search_exact_loop :
    loopPattern.FaultFree loopGraph ∧ ∃ found : String → List (Match String),
      loopPattern.search loopGraph none none = .ok (loopGraph.vertices.flatMap found) ∧
      ∀ v ∈ loopGraph.vertices, loopPattern.search loopGraph (some v) none = .ok (found v) ∧
        loopPattern.EnumeratedBy loopGraph v (found v) := by
  have h : loopPattern.FaultFree loopGraph := faultFree_of_answersEverywhere (by decide)
  exact ⟨h, search_exact loopPattern loopGraph h⟩

end Pattern

end Motif
