import Mathlib.Data.List.Forall2
import Motif.Pattern.Search
import Motif.Proofs.Graph.Walk

/-!
# Walks that fit a pattern

What a search looks for, said without searching: a walk *fits* a pattern from a vertex when it
begins there, uses only edges of the graph and none of them twice, and is accepted matcher by
matcher. `Pattern.fitting` lists the walks that fit. It is complete (`mem_fitting`) and its order is
that of the choices made on the way (`fitting_increasing`): the *ranks* of a walk are the places of
its steps among the steps that leave the vertex reached so far, and walks are listed by their ranks,
compared lexicographically.
-/

namespace Motif

variable {V : Type}

/-- The text that a vertex matches, if the tests answer and accept it. -/
def NodeMatcher.text? (m : NodeMatcher V) (v : V) : Option String :=
  match m.matchText v with
  | .ok text => text
  | .error _ => none

/-- Whether a node matcher accepts a vertex. -/
def NodeMatcher.accepts (m : NodeMatcher V) (v : V) : Bool := (m.text? v).isSome

theorem NodeMatcher.text?_of_matchText {m : NodeMatcher V} {v : V} {text : Option String}
    (h : m.matchText v = .ok text) : m.text? v = text := by
  rw [NodeMatcher.text?, h]

theorem NodeMatcher.accepts_of_matchText {m : NodeMatcher V} {v : V} {text : Option String}
    (h : m.matchText v = .ok text) : m.accepts v = text.isSome := by
  rw [NodeMatcher.accepts, NodeMatcher.text?_of_matchText h]

namespace Pattern

/-- The steps `ds` form a walk from `v` through the graph that fits the pattern. -/
structure Fits (p : Pattern V) (g : Graph V) (v : V) (ds : List (Step V)) : Prop where
  /-- The steps go over edges of the graph. -/
  edges_mem : ∀ d ∈ ds, d.edge ∈ g.edges
  /-- The first step leaves `v` and every other one the vertex that was reached before. -/
  connected : Walk.ConnectedFrom v ds
  /-- No edge is used twice, in whatever direction. -/
  edges_nodup : (ds.map Step.edge).Nodup
  /-- There is one step for each edge matcher, which accepts it. -/
  steps_accepted : List.Forall₂ (fun m d ↦ EdgeMatcher.accepts m d = true) p.edges ds
  /-- The node matchers accept the vertices visited. -/
  nodes_accepted :
    List.Forall₂ (fun m u ↦ NodeMatcher.accepts m u = true) p.nodes (Walk.visits v ds)

/-- The walks from `v` that fit, over edges that have not been used. -/
def fitting [DecidableEq V] (g : Graph V) (m : NodeMatcher V) :
    List (Link V) → V → List (Edge V) → List (List (Step V))
  | [], v, _ => if m.accepts v then [[]] else []
  | l :: links, v, used =>
    if m.accepts v then
      (g.incident v).flatMap fun d ↦
        if d.edge ∉ used ∧ l.edge.accepts d = true then
          (fitting g l.node links d.finish (d.edge :: used)).map (d :: ·)
        else []
    else []

variable {g : Graph V} {m : NodeMatcher V} {l : Link V} {links : List (Link V)} {v : V}
  {d : Step V} {ds : List (Step V)}

/-! ## Completeness -/

private theorem fits_nil_iff : Fits ⟨m, []⟩ g v ds ↔ m.accepts v = true ∧ ds = [] := by
  constructor
  · intro h
    have hds : ds = [] := by simpa [edges] using h.steps_accepted
    exact ⟨(List.forall₂_cons.1 h.nodes_accepted).1, hds⟩
  · rintro ⟨hv, rfl⟩
    exact ⟨by simp, Walk.connectedFrom_nil, by simp, by simp [edges],
      by simpa [nodes, Walk.visits] using hv⟩

private theorem not_fits_cons_nil : ¬ Fits ⟨m, l :: links⟩ g v [] :=
  fun h ↦ by simpa [edges] using h.steps_accepted

variable [DecidableEq V]

theorem fits_cons_iff :
    Fits ⟨m, l :: links⟩ g v (d :: ds) ↔
      m.accepts v = true ∧ d ∈ g.incident v ∧ l.edge.accepts d = true ∧
        d.edge ∉ ds.map Step.edge ∧ Fits ⟨l.node, links⟩ g d.finish ds := by
  constructor
  · intro h
    obtain ⟨hstart, hconn⟩ := Walk.connectedFrom_cons.1 h.connected
    obtain ⟨hd, hnodup⟩ := List.nodup_cons.1 h.edges_nodup
    obtain ⟨hl, hsteps⟩ := List.forall₂_cons.1 h.steps_accepted
    obtain ⟨hm, hnodes⟩ := List.forall₂_cons.1 h.nodes_accepted
    have hmem : d ∈ g.incident v :=
      Graph.mem_incident.2 ⟨h.edges_mem d List.mem_cons_self, hstart⟩
    exact ⟨hm, hmem, hl, hd, fun e he ↦ h.edges_mem e (List.mem_cons_of_mem d he), hconn, hnodup,
      hsteps, hnodes⟩
  · rintro ⟨hm, hmem, hl, hd, h⟩
    obtain ⟨hedge, hstart⟩ := Graph.mem_incident.1 hmem
    refine ⟨?_, Walk.connectedFrom_cons.2 ⟨hstart, h.connected⟩,
      List.nodup_cons.2 ⟨hd, h.edges_nodup⟩, .cons hl h.steps_accepted, .cons hm h.nodes_accepted⟩
    intro e he
    rcases List.mem_cons.1 he with rfl | he
    · exact hedge
    · exact h.edges_mem e he

theorem fitting_of_refused {used : List (Edge V)} (h : m.accepts v = false) :
    fitting g m links v used = [] := by
  cases links with
  | nil =>
    rw [fitting, h]
    rfl
  | cons l links =>
    rw [fitting, h]
    rfl

/-- Exactly the walks that fit and avoid the used edges are listed. -/
theorem mem_fitting {used : List (Edge V)} :
    ds ∈ fitting g m links v used ↔ Fits ⟨m, links⟩ g v ds ∧ ∀ d ∈ ds, d.edge ∉ used := by
  induction links generalizing m v used ds with
  | nil =>
    rw [fitting, fits_nil_iff]
    by_cases hm : m.accepts v = true
    · rw [if_pos hm, List.mem_singleton]
      exact ⟨fun h ↦ ⟨⟨hm, h⟩, by simp [h]⟩, fun h ↦ h.1.2⟩
    · rw [if_neg hm]
      exact ⟨fun h ↦ absurd h List.not_mem_nil, fun h ↦ absurd h.1.1 hm⟩
  | cons l links ih =>
    rw [fitting]
    by_cases hm : m.accepts v = true
    swap
    · rw [if_neg hm]
      refine ⟨fun h ↦ absurd h List.not_mem_nil, fun h ↦ absurd ?_ hm⟩
      exact (List.forall₂_cons.1 h.1.nodes_accepted).1
    rw [if_pos hm, List.mem_flatMap]
    constructor
    · rintro ⟨d, hd, hds⟩
      by_cases hfree : d.edge ∉ used ∧ l.edge.accepts d = true
      swap
      · rw [if_neg hfree] at hds
        exact absurd hds List.not_mem_nil
      rw [if_pos hfree, List.mem_map] at hds
      obtain ⟨es, hes, rfl⟩ := hds
      obtain ⟨hfits, havoid⟩ := ih.1 hes
      have hnew : d.edge ∉ es.map Step.edge := by
        intro hmem
        obtain ⟨e, he, hed⟩ := List.mem_map.1 hmem
        exact havoid e he (hed ▸ List.mem_cons_self)
      refine ⟨fits_cons_iff.2 ⟨hm, hd, hfree.2, hnew, hfits⟩, fun e he ↦ ?_⟩
      rcases List.mem_cons.1 he with rfl | he
      · exact hfree.1
      · exact fun hu ↦ havoid e he (List.mem_cons_of_mem _ hu)
    · rintro ⟨hfits, havoid⟩
      cases ds with
      | nil => exact absurd hfits not_fits_cons_nil
      | cons d es =>
        obtain ⟨-, hd, hl, hnew, hfits⟩ := fits_cons_iff.1 hfits
        refine ⟨d, hd, ?_⟩
        rw [if_pos ⟨havoid d List.mem_cons_self, hl⟩, List.mem_map]
        refine ⟨es, ih.2 ⟨hfits, fun e he hu ↦ ?_⟩, rfl⟩
        rcases List.mem_cons.1 hu with hed | hu
        · exact hnew (hed ▸ List.mem_map_of_mem he)
        · exact havoid e (List.mem_cons_of_mem d he) hu

end Pattern

/-! ## Order -/

section Order

variable [DecidableEq V]

/-- The places of the steps of a walk from `v` in the lists they were chosen from. -/
def Graph.ranks (g : Graph V) : V → List (Step V) → List Nat
  | _, [] => []
  | v, d :: ds => (g.incident v).idxOf d :: ranks g d.finish ds

/-- The places in a list without repetitions increase along the list. -/
private theorem pairwise_idxOf {α : Type} [DecidableEq α] {xs : List α} (h : xs.Nodup) :
    xs.Pairwise fun x y ↦ xs.idxOf x < xs.idxOf y := by
  rw [List.pairwise_iff_getElem]
  intro i j hi hj hij
  rw [h.idxOf_getElem, h.idxOf_getElem]
  exact hij

variable {g : Graph V} {m : NodeMatcher V} {links : List (Link V)} {v : V} {used : List (Edge V)}

theorem Pattern.fitting_increasing :
    (Pattern.fitting g m links v used).Pairwise fun ds es ↦ g.ranks v ds < g.ranks v es := by
  induction links generalizing m v used with
  | nil =>
    rw [Pattern.fitting]
    split
    · exact List.pairwise_singleton _ _
    · exact List.Pairwise.nil
  | cons l links ih =>
    rw [Pattern.fitting]
    split
    swap
    · exact List.Pairwise.nil
    -- Walks with the same first step are compared by what follows it, others by that step alone.
    refine List.pairwise_flatMap.2 ⟨fun d _ ↦ ?_, ?_⟩
    · split
      · refine List.pairwise_map.2 (ih.imp fun {ds es} hlt ↦ ?_)
        exact List.cons_lt_cons_iff.2 (Or.inr ⟨rfl, hlt⟩)
      · exact List.Pairwise.nil
    · refine (pairwise_idxOf (g.nodup_incident v)).imp fun {d e} hlt ds hds es hes ↦ ?_
      split at hds
      swap
      · exact absurd hds List.not_mem_nil
      split at hes
      swap
      · exact absurd hes List.not_mem_nil
      obtain ⟨ds, -, rfl⟩ := List.mem_map.1 hds
      obtain ⟨es, -, rfl⟩ := List.mem_map.1 hes
      exact List.cons_lt_cons_iff.2 (Or.inl hlt)

theorem Pattern.fitting_nodup : (Pattern.fitting g m links v used).Nodup :=
  Pattern.fitting_increasing.imp fun {ds es} (hlt : g.ranks v ds < g.ranks v es) heq ↦ by
    rw [heq] at hlt
    exact List.lt_irrefl _ hlt

end Order

end Motif
