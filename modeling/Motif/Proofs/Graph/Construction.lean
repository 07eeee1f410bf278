import Mathlib.Data.List.Nodup
import Motif.Graph.Basic
import Motif.InsertionMap

/-!
# What a graph is made of

A graph can be made of any vertices and of any edges that begin and end in them. What it has is said
here of the lists that were given: `FirstOccurrences` says what becomes of repetitions, and
`Graph.MadeOf` what the graph lists for its vertices.

The steps that leave a vertex are found by going through the edges. They can also be entered in a
table, once and for all vertices: a pass over the edges enters each of them under its source and
under its destination, which may be the same entry. No step is lost or doubled that way
(`Graph.stepsAt_tabulate`).
-/

namespace Motif

/-! ## First occurrences -/

section FirstOccurrences

variable {α : Type} [DecidableEq α]

/-- `ys` lists what is in `xs`, each member once, in the order in which they first occur. -/
structure FirstOccurrences (xs ys : List α) : Prop where
  /-- Nothing is listed twice. -/
  nodup : ys.Nodup
  /-- The same is listed. -/
  mem_iff : ∀ x, x ∈ ys ↔ x ∈ xs
  /-- What occurs first comes first. -/
  ordered : ys.Pairwise fun x y ↦ xs.idxOf x < xs.idxOf y

private theorem pairwise_idxOf_distinct (xs : List α) :
    (distinct xs).Pairwise fun x y ↦ xs.idxOf x < xs.idxOf y := by
  induction xs with
  | nil => exact .nil
  | cons x xs ih =>
    have hne {y : α} (hy : y ∈ (distinct xs).filter fun y ↦ id y ≠ id x) : x ≠ y := by
      intro hxy
      exact absurd hxy.symm (of_decide_eq_true (List.mem_filter.1 hy).2)
    rw [distinct, distinctBy, List.pairwise_cons]
    constructor
    · intro y hy
      rw [List.idxOf_cons_self, List.idxOf_cons_ne _ (hne hy)]
      exact Nat.succ_pos _
    · refine (ih.filter _).imp_of_mem fun {y z} hy hz hlt ↦ ?_
      rw [List.idxOf_cons_ne _ (hne hy), List.idxOf_cons_ne _ (hne hz)]
      exact Nat.succ_lt_succ hlt

theorem firstOccurrences_distinct (xs : List α) : FirstOccurrences xs (distinct xs) :=
  ⟨nodup_distinct xs, fun _ ↦ mem_distinct, pairwise_idxOf_distinct xs⟩

end FirstOccurrences

namespace Graph

variable {V : Type} [DecidableEq V]

/-! ## The table of steps -/

section Table

variable {t : InsertionMap V (List (Step V))} {v : V}

/-- The steps that a table has for a vertex. -/
def stepsAt (t : InsertionMap V (List (Step V))) (v : V) : List (Step V) := (t.get? v).getD []

/-- Enters a step behind the others that leave the same vertex. -/
def enter (t : InsertionMap V (List (Step V))) (d : Step V) : InsertionMap V (List (Step V)) :=
  t.insert d.start (stepsAt t d.start ++ [d])

def enterEdge (t : InsertionMap V (List (Step V))) (e : Edge V) : InsertionMap V (List (Step V)) :=
  enter (enter t ⟨e, .down⟩) ⟨e, .up⟩

/-- The table that a pass over the edges fills. -/
def tabulate (edges : List (Edge V)) : InsertionMap V (List (Step V)) :=
  edges.foldl enterEdge .empty

private theorem stepsAt_enter (d : Step V) :
    stepsAt (enter t d) v = stepsAt t v ++ if d.start = v then [d] else [] := by
  rw [stepsAt, enter, InsertionMap.get?_insert]
  by_cases h : d.start = v
  · rw [if_pos h.symm, if_pos h, h, Option.getD_some]
  · rw [if_neg (Ne.symm h), if_neg h, List.append_nil, stepsAt]

@[simp] private theorem stepsAt_enterEdge (e : Edge V) :
    stepsAt (enterEdge t e) v = stepsAt t v ++ stepsOver v e := by
  rw [enterEdge, stepsAt_enter, stepsAt_enter, List.append_assoc]
  rfl

@[simp] private theorem stepsAt_foldl (edges : List (Edge V)) :
    stepsAt (edges.foldl enterEdge t) v = stepsAt t v ++ edges.flatMap (stepsOver v) := by
  induction edges generalizing t with
  | nil => rw [List.foldl_nil, List.flatMap_nil, List.append_nil]
  | cons e edges ih =>
    rw [List.foldl_cons, ih, stepsAt_enterEdge, List.flatMap_cons, List.append_assoc]

/-- The table has the steps that leave a vertex, in the order of the edges. -/
@[simp] theorem stepsAt_tabulate (edges : List (Edge V)) (v : V) :
    stepsAt (tabulate edges) v = edges.flatMap (stepsOver v) := by
  rw [tabulate, stepsAt_foldl]
  rfl

end Table

/-! ## Steps over all vertices -/

section Steps

variable {g : Graph V}

private theorem mem_flatMap_incident_iff {d : Step V} :
    d ∈ g.vertices.flatMap g.incident ↔ d.edge ∈ g.edges := by
  rw [List.mem_flatMap]
  constructor
  · rintro ⟨v, -, hd⟩
    exact (mem_incident.1 hd).1
  · intro he
    have hstart : d.start ∈ g.vertices := by
      obtain ⟨hsource, hdest⟩ := g.ends_mem _ he
      rw [Step.start]
      cases d.direction
      · exact hdest
      · exact hsource
    exact ⟨d.start, hstart, mem_incident.2 ⟨he, rfl⟩⟩

private theorem nodup_flatMap_incident (g : Graph V) : (g.vertices.flatMap g.incident).Nodup := by
  refine List.nodup_flatMap.2 ⟨fun v _ ↦ g.nodup_incident v, ?_⟩
  refine g.vertices_nodup.imp fun {v w} hvw d hv hw ↦ hvw ?_
  exact (mem_incident.1 hv).2.symm.trans (mem_incident.1 hw).2

end Steps

/-! ## Making a graph -/

section Make

variable {vertices : List V} {edges : List (Edge V)}

private theorem unknownEnd?_eq_none_iff {e : Edge V} :
    unknownEnd? vertices e = none ↔ e.source ∈ vertices ∧ e.dest ∈ vertices := by
  simp [unknownEnd?]

private theorem unknownEnd?_eq_some {e : Edge V} {v : V} (h : unknownEnd? vertices e = some v) :
    (v = e.source ∨ v = e.dest) ∧ v ∉ vertices := by
  refine ⟨by simpa using List.mem_of_find?_eq_some h, ?_⟩
  simpa using List.find?_some h

/-- A graph is refused for an edge and an end of it that is not among the vertices. -/
theorem ofLists_eq_error {fault : GraphFault V} (h : ofLists vertices edges = .error fault) :
    ∃ e ∈ edges, ∃ v, fault = .unknownEnd e v ∧ (v = e.source ∨ v = e.dest) ∧ v ∉ vertices := by
  rw [ofLists] at h
  split at h
  · next fault' hfault =>
    obtain rfl := Except.error.inj h
    obtain ⟨e, he, hfault⟩ := List.exists_of_findSome?_eq_some hfault
    obtain ⟨v, hv, rfl⟩ := Option.map_eq_some_iff.1 hfault
    obtain ⟨hend, hnot⟩ := unknownEnd?_eq_some hv
    exact ⟨e, mem_distinct.1 he, v, rfl, hend, fun hmem ↦ hnot (mem_distinct.2 hmem)⟩
  · exact nomatch h

/-- A graph has the vertices and the edges that it is made of, without repetitions. -/
theorem ofLists_eq_ok {g : Graph V} (h : ofLists vertices edges = .ok g) :
    (∀ e ∈ edges, e.source ∈ vertices ∧ e.dest ∈ vertices) ∧
      g.vertices = distinct vertices ∧ g.edges = distinct edges := by
  rw [ofLists] at h
  split at h
  · exact nomatch h
  · next hnone =>
    obtain rfl := Except.ok.inj h
    refine ⟨fun e he ↦ ?_, rfl, rfl⟩
    have hend := List.findSome?_eq_none_iff.1 hnone e (mem_distinct.2 he)
    rw [Option.map_eq_none_iff, unknownEnd?_eq_none_iff, mem_distinct, mem_distinct] at hend
    exact hend

/-- A graph is refused exactly if an edge begins or ends outside of the vertices. -/
theorem exists_ofLists_eq_error_iff :
    (∃ fault, ofLists vertices edges = .error fault) ↔
      ∃ e ∈ edges, e.source ∉ vertices ∨ e.dest ∉ vertices := by
  constructor
  · rintro ⟨fault, h⟩
    obtain ⟨e, he, v, -, rfl | rfl, hv⟩ := ofLists_eq_error h
    · exact ⟨e, he, .inl hv⟩
    · exact ⟨e, he, .inr hv⟩
  · rintro ⟨e, he, hend⟩
    cases h : ofLists vertices edges with
    | error fault => exact ⟨fault, rfl⟩
    | ok g =>
      obtain ⟨hsource, hdest⟩ := (ofLists_eq_ok h).1 e he
      exact hend.elim (absurd hsource) (absurd hdest)

theorem eq_of_lists {V : Type} {g h : Graph V} (hvertices : g.vertices = h.vertices)
    (hedges : g.edges = h.edges) : g = h := by
  obtain ⟨vs, es, _, _, _⟩ := g
  obtain rfl : vs = h.vertices := hvertices
  obtain rfl : es = h.edges := hedges
  rfl

theorem ofLists_eq_within (h : ∀ e ∈ edges, e.source ∈ vertices ∧ e.dest ∈ vertices) :
    ofLists vertices edges = .ok (within vertices edges) := by
  cases hmade : ofLists vertices edges with
  | error fault =>
    obtain ⟨e, he, hend⟩ := exists_ofLists_eq_error_iff.1 ⟨fault, hmade⟩
    exact hend.elim (absurd (h e he).1) (absurd (h e he).2)
  | ok g =>
    obtain ⟨-, hvertices, hedges⟩ := ofLists_eq_ok hmade
    exact congrArg Except.ok (eq_of_lists hvertices (hedges.trans (edges_within h).symm))

theorem ofLists_endpoints (edges : List (Edge V)) :
    ofLists (endpoints edges) edges = .ok (ofEdges edges) := by
  have hends : ∀ e ∈ edges, e.source ∈ endpoints edges ∧ e.dest ∈ endpoints edges :=
    fun e he ↦ ⟨List.mem_flatMap.2 ⟨e, he, by simp⟩, List.mem_flatMap.2 ⟨e, he, by simp⟩⟩
  rw [ofLists_eq_within hends]
  exact congrArg Except.ok (eq_of_lists rfl (edges_within hends))

/-- The graph has the given vertices and edges without repetitions, and for each vertex the steps
over the edges that it is an end of. -/
structure MadeOf (g : Graph V) (vs : List V) (es : List (Edge V)) : Prop where
  /-- The vertices are those given. -/
  vertices : FirstOccurrences vs g.vertices
  /-- The edges are those given. -/
  edges : FirstOccurrences es g.edges
  /-- A vertex has, for each edge in order, the step down if the edge begins in it, and then the
  step up if the edge ends in it. -/
  incident : ∀ v ∈ vs, g.incident? v = .ok (g.edges.flatMap fun e ↦
    (if e.source = v then [⟨e, .down⟩] else []) ++ (if e.dest = v then [⟨e, .up⟩] else []))
  /-- These are the steps that a pass over the edges enters under the vertex. -/
  tabulated : ∀ v ∈ vs, g.incident? v = .ok (stepsAt (tabulate g.edges) v)
  /-- Nothing else is a vertex. -/
  unknown : ∀ v, v ∉ vs → g.incident? v = .error (.unknownVertex v)
  /-- The steps of a vertex leave it, and end in the graph. -/
  leaves : ∀ v ∈ vs, ∀ d ∈ g.incident v, d.start = v ∧ d.finish ∈ g.vertices
  /-- Over all vertices each edge is listed once in each direction. -/
  once : ∀ e ∈ es, ∀ c, (g.vertices.flatMap g.incident).count ⟨e, c⟩ = 1

theorem madeOf_of_eq {g : Graph V} (hvertices : g.vertices = distinct vertices)
    (hedges : g.edges = distinct edges) : g.MadeOf vertices edges := by
  have hmem {v : V} : v ∈ g.vertices ↔ v ∈ vertices := by rw [hvertices, mem_distinct]
  constructor
  case vertices => exact hvertices ▸ firstOccurrences_distinct vertices
  case edges => exact hedges ▸ firstOccurrences_distinct edges
  case incident =>
    intro v hv
    rw [incident?, if_pos (hmem.2 hv)]
    rfl
  case tabulated =>
    intro v hv
    rw [incident?, if_pos (hmem.2 hv), stepsAt_tabulate, incident]
  case unknown =>
    intro v hv
    rw [incident?, if_neg fun h ↦ hv (hmem.1 h)]
  case leaves => exact fun v _ d hd ↦ ⟨(mem_incident.1 hd).2, finish_mem hd⟩
  case once =>
    intro e he c
    have he' : e ∈ g.edges := by rwa [hedges, mem_distinct]
    exact List.count_eq_one_of_mem (nodup_flatMap_incident g) (mem_flatMap_incident_iff.2 he')

/-- **Making a graph.** A graph is refused exactly if an edge begins or ends outside of the
vertices, and then for such an edge and such an end. Otherwise there is a graph, and it has what was
given. A graph made of edges alone is never refused: its vertices are the ends of the edges. -/
theorem ofLists_exact (vertices : List V) (edges : List (Edge V)) :
    ((∃ fault, ofLists vertices edges = .error fault) ↔
      ∃ e ∈ edges, e.source ∉ vertices ∨ e.dest ∉ vertices) ∧
    (∀ fault, ofLists vertices edges = .error fault →
      ∃ e ∈ edges, ∃ v, fault = .unknownEnd e v ∧ (v = e.source ∨ v = e.dest) ∧ v ∉ vertices) ∧
    ((∀ e ∈ edges, e.source ∈ vertices ∧ e.dest ∈ vertices) →
      ∃ g, ofLists vertices edges = .ok g ∧ g.MadeOf vertices edges) ∧
    ofLists (endpoints edges) edges = .ok (ofEdges edges) ∧
    (ofEdges edges).MadeOf (edges.flatMap fun e ↦ [e.source, e.dest]) edges := by
  refine ⟨exists_ofLists_eq_error_iff, fun _ ↦ ofLists_eq_error, fun hends ↦ ?_,
    ofLists_endpoints edges, madeOf_of_eq rfl rfl⟩
  cases h : ofLists vertices edges with
  | ok g =>
    obtain ⟨-, hvertices, hedges⟩ := ofLists_eq_ok h
    exact ⟨g, rfl, madeOf_of_eq hvertices hedges⟩
  | error fault =>
    obtain ⟨e, he, hend⟩ := exists_ofLists_eq_error_iff.1 ⟨fault, h⟩
    exact hend.elim (absurd (hends e he).1) (absurd (hends e he).2)

/-- Two parallel edges, one of which is given twice, and a self-loop. -/
def parallelEdges : List (Edge String) :=
  [⟨"a", "b", "r"⟩, ⟨"b", "b", "r"⟩, ⟨"a", "b", "s"⟩, ⟨"a", "b", "r"⟩]

/-- The vertex `"c"` has no edge, and without `"b"` the first edge is refused. -/
theorem ofLists_exact_parallelEdges :
    ((∀ e ∈ parallelEdges, e.source ∈ ["c", "b", "a", "b"] ∧ e.dest ∈ ["c", "b", "a", "b"]) ∧
      ∃ g, ofLists ["c", "b", "a", "b"] parallelEdges = .ok g ∧
        g.MadeOf ["c", "b", "a", "b"] parallelEdges) ∧
    (ofLists ["c", "a"] parallelEdges = .error (.unknownEnd ⟨"a", "b", "r"⟩ "b") ∧
      ∃ e ∈ parallelEdges, ∃ v, GraphFault.unknownEnd ⟨"a", "b", "r"⟩ "b" = .unknownEnd e v ∧
        (v = e.source ∨ v = e.dest) ∧ v ∉ ["c", "a"]) := by
  have hends : ∀ e ∈ parallelEdges,
      e.source ∈ ["c", "b", "a", "b"] ∧ e.dest ∈ ["c", "b", "a", "b"] := by decide
  have hfault : ofLists ["c", "a"] parallelEdges = .error (.unknownEnd ⟨"a", "b", "r"⟩ "b") := rfl
  obtain ⟨-, -, hok, -, -⟩ := ofLists_exact ["c", "b", "a", "b"] parallelEdges
  obtain ⟨-, herror, -, -, -⟩ := ofLists_exact ["c", "a"] parallelEdges
  exact ⟨⟨hends, hok hends⟩, hfault, herror _ hfault⟩

end Make

end Graph

end Motif
