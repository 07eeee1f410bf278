import Motif.Distinct
import Motif.Graph.Edge

/-!
# Graphs

A graph is a finite set of vertices with labelled edges between them, both in the order in which
they were given. Parallel edges with different labels and self-loops are allowed; a repeated vertex
or edge counts once. The invariants are part of the type: nothing repeats and every edge ends in the
graph.

`Graph.incident` lists the steps that leave a vertex, which is all that a search asks of a graph.
-/

namespace Motif

/-- A directed multigraph with labelled edges. -/
structure Graph (V : Type) where
  /-- The vertices in order. -/
  vertices : List V
  /-- The edges in order. -/
  edges : List (Edge V)
  /-- No vertex is listed twice. -/
  vertices_nodup : vertices.Nodup
  /-- No edge is listed twice. -/
  edges_nodup : edges.Nodup
  /-- Every edge begins and ends in the graph. -/
  ends_mem : ∀ e ∈ edges, e.source ∈ vertices ∧ e.dest ∈ vertices

/-- What can be wrong with a graph or with a question asked of it. -/
inductive GraphFault (V : Type) where
  /-- An edge ends in a vertex that was not given. -/
  | unknownEnd (edge : Edge V) (vertex : V)
  /-- A vertex was asked for that is not in the graph. -/
  | unknownVertex (vertex : V)
deriving DecidableEq, Repr

def GraphFault.message {V : Type} [Display V] : GraphFault V → String
  | unknownEnd e v =>
    "Edge " ++ Display.text e ++ " references unknown vertex " ++ Display.quoted v
  | unknownVertex v => "Vertex " ++ Display.quoted v ++ " is not in the graph"

namespace Graph

variable {V : Type} [DecidableEq V]

/-- The first end of an edge, source before destination, that is not among the vertices. -/
def unknownEnd? (vertices : List V) (e : Edge V) : Option V :=
  [e.source, e.dest].find? fun v ↦ v ∉ vertices

/-- The graph with the given vertices and edges, repetitions dropped. -/
def ofLists (vertices : List V) (edges : List (Edge V)) : Except (GraphFault V) (Graph V) :=
  match h : (distinct edges).findSome? fun e ↦
      (unknownEnd? (distinct vertices) e).map (GraphFault.unknownEnd e) with
  | some fault => .error fault
  | none => .ok {
      vertices := distinct vertices
      edges := distinct edges
      vertices_nodup := nodup_distinct vertices
      edges_nodup := nodup_distinct edges
      ends_mem := by
        intro e he
        have hn := List.findSome?_eq_none_iff.1 h e he
        simpa [unknownEnd?] using hn }

/-- The ends of edges, the source of each before its destination. -/
def endpoints (edges : List (Edge V)) : List V := edges.flatMap fun e ↦ [e.source, e.dest]

/-- The graph whose vertices are the ends of the given edges, in the order of their first
occurrence. -/
def ofEdges (edges : List (Edge V)) : Graph V where
  vertices := distinct (endpoints edges)
  edges := distinct edges
  vertices_nodup := nodup_distinct _
  edges_nodup := nodup_distinct _
  ends_mem := by
    intro e he
    have he : e ∈ edges := mem_distinct.1 he
    constructor <;>
      exact mem_distinct.2 (List.mem_flatMap.2 ⟨e, he, by simp⟩)

/-- The graph with the given vertices and with those of the given edges that begin and end in them,
repetitions dropped. -/
def within (vertices : List V) (edges : List (Edge V)) : Graph V where
  vertices := distinct vertices
  edges := distinct (edges.filter fun e ↦ e.source ∈ vertices ∧ e.dest ∈ vertices)
  vertices_nodup := nodup_distinct _
  edges_nodup := nodup_distinct _
  ends_mem := by
    intro e he
    have he := (List.mem_filter.1 (mem_distinct.1 he)).2
    simpa using he

theorem edges_within {vertices : List V} {edges : List (Edge V)}
    (h : ∀ e ∈ edges, e.source ∈ vertices ∧ e.dest ∈ vertices) :
    (within vertices edges).edges = distinct edges := by
  have : edges.filter (fun e ↦ e.source ∈ vertices ∧ e.dest ∈ vertices) = edges :=
    List.filter_eq_self.2 fun e he ↦ by simpa using h e he
  exact congrArg distinct this

/-- The graph of the images of the vertices. -/
def map {W : Type} [DecidableEq W] (f : V → W) (g : Graph V) : Graph W :=
  within (g.vertices.map f) (g.edges.map (Edge.map f))

variable (g : Graph V)

/-- The steps over one edge that leave a vertex: down if the vertex is the source, up if it is the
destination. -/
def stepsOver (v : V) (e : Edge V) : List (Step V) :=
  (if e.source = v then [⟨e, .down⟩] else []) ++ (if e.dest = v then [⟨e, .up⟩] else [])

/-- The steps that leave a vertex, in the order of the edges. A self-loop gives two. -/
def incident (v : V) : List (Step V) := g.edges.flatMap (stepsOver v)

/-- The steps that leave a vertex of the graph. -/
def incident? (v : V) : Except (GraphFault V) (List (Step V)) :=
  if v ∈ g.vertices then .ok (g.incident v) else .error (.unknownVertex v)

variable {g}

@[simp] theorem mem_stepsOver {v : V} {e : Edge V} {d : Step V} :
    d ∈ stepsOver v e ↔ d.edge = e ∧ d.start = v := by
  obtain ⟨f, dir⟩ := d
  cases dir <;> simp [stepsOver, Step.start] <;> grind

@[simp] theorem mem_incident {v : V} {d : Step V} :
    d ∈ g.incident v ↔ d.edge ∈ g.edges ∧ d.start = v := by
  simp only [incident, List.mem_flatMap, mem_stepsOver]
  exact ⟨fun ⟨_, he, hd, hv⟩ ↦ ⟨hd ▸ he, hv⟩, fun ⟨he, hv⟩ ↦ ⟨_, he, rfl, hv⟩⟩

theorem incident?_eq_ok_iff {v : V} {ds : List (Step V)} :
    g.incident? v = .ok ds ↔ v ∈ g.vertices ∧ g.incident v = ds := by
  rw [incident?]
  split
  · next h => exact ⟨fun hds ↦ ⟨h, Except.ok.inj hds⟩, fun hds ↦ congrArg Except.ok hds.2⟩
  · next h => exact ⟨fun hds ↦ (nomatch hds), fun hds ↦ absurd hds.1 h⟩

theorem incident?_eq_error_iff {v : V} {fault : GraphFault V} :
    g.incident? v = .error fault ↔ v ∉ g.vertices ∧ .unknownVertex v = fault := by
  rw [incident?]
  split
  · next h => exact ⟨fun hds ↦ (nomatch hds), fun hds ↦ absurd h hds.1⟩
  · next h => exact ⟨fun hds ↦ ⟨h, Except.error.inj hds⟩, fun hds ↦ congrArg Except.error hds.2⟩

theorem nodup_incident (g : Graph V) (v : V) : (g.incident v).Nodup := by
  refine List.pairwise_flatMap.2 ⟨fun e _ ↦ ?_, ?_⟩
  · by_cases hs : e.source = v <;> by_cases hd : e.dest = v <;> simp [stepsOver, hs, hd]
  · refine g.edges_nodup.imp fun {e f} hef c hc d hd hcd ↦ hef ?_
    rw [← (mem_stepsOver.1 hc).1, ← (mem_stepsOver.1 hd).1, hcd]

/-- A step that leaves a vertex stays in the graph. -/
theorem finish_mem {v : V} {d : Step V} (h : d ∈ g.incident v) : d.finish ∈ g.vertices := by
  obtain ⟨e, dir⟩ := d
  have he := g.ends_mem e (mem_incident.1 h).1
  cases dir
  · exact he.1
  · exact he.2

instance : Display (Graph V) where
  text g := "Graph(vertices=" ++ g.vertices.length.repr ++ ", edges=" ++ g.edges.length.repr ++ ")"
  quoted g :=
    "Graph(vertices=" ++ g.vertices.length.repr ++ ", edges=" ++ g.edges.length.repr ++ ")"

end Graph

end Motif
