import Motif.Proofs.Matcher.Construction

/-!
# Interleaving

A pattern can be put together from its node matchers and its edge matchers. They are taken in turn,
and nobody counts them: what is left over of the longer list stands at the end of the sequence
(`weave_eq_append`), where matchers no longer alternate. So it is up to the check of the sequence to
find out that the lists do not fit each other, and it does so at the first matcher that is out of
turn (`Misfit`).

Taking in turn loses nothing, so the two lists are found again in the pattern, and those of a
pattern give the pattern (`interleave_eq_ok_iff`).
-/

namespace Motif

variable {V : Type}

namespace Matcher

/-- The node matcher that a matcher is, if it is one. -/
def node? : Matcher V → Option (NodeMatcher V)
  | node m => some m
  | edge _ => none

/-- The edge matcher that a matcher is, if it is one. -/
def edge? : Matcher V → Option EdgeMatcher
  | node _ => none
  | edge m => some m

@[simp] private theorem filterMap_node?_map_node (ms : List (NodeMatcher V)) :
    (ms.map node).filterMap node? = ms := by
  rw [List.filterMap_map]
  exact List.filterMap_some

@[simp] private theorem filterMap_edge?_map_edge (ms : List EdgeMatcher) :
    (ms.map (edge (V := V))).filterMap edge? = ms := by
  rw [List.filterMap_map]
  exact List.filterMap_some

@[simp] private theorem filterMap_node?_map_edge (ms : List EdgeMatcher) :
    (ms.map (edge (V := V))).filterMap node? = [] := by
  rw [List.filterMap_map, List.filterMap_eq_nil_iff]
  exact fun _ _ ↦ rfl

@[simp] private theorem filterMap_edge?_map_node (ms : List (NodeMatcher V)) :
    (ms.map node).filterMap edge? = [] := by
  rw [List.filterMap_map, List.filterMap_eq_nil_iff]
  exact fun _ _ ↦ rfl

end Matcher

namespace Pattern

/-! ## Taking in turn -/

section Weave

variable {α β : Type} {f : α → Option β} {xs ys : List α}

theorem weave_cons (x : α) (xs ys : List α) : weave (x :: xs) ys = x :: weave ys xs := by
  induction ys generalizing x xs with
  | nil => rw [weave, weave]
  | cons y ys ih =>
    rw [weave]
    cases xs with
    | nil => rw [weave, weave]
    | cons z zs => rw [ih z zs, weave]

/-- The members are taken in pairs, and what is left over of the longer list follows. -/
theorem weave_eq_append (xs ys : List α) :
    weave xs ys = (xs.zip ys).flatMap (fun p ↦ [p.1, p.2]) ++
      (xs.drop ys.length ++ ys.drop xs.length) := by
  fun_induction weave xs ys with
  | case1 ys => rw [List.zip_nil_left, List.drop_nil]; rfl
  | case2 x xs => rw [List.zip_nil_right, List.drop_nil, List.append_nil]; rfl
  | case3 x xs y ys ih =>
    rw [ih, List.zip_cons_cons, List.flatMap_cons, List.length_cons, List.length_cons,
      List.drop_succ_cons, List.drop_succ_cons]
    rfl

/-- What looks only at members of the first list finds them in their order. -/
theorem filterMap_weave_left (h : ys.filterMap f = []) :
    (weave xs ys).filterMap f = xs.filterMap f := by
  fun_induction weave xs ys with
  | case1 ys => exact h
  | case2 x xs => rfl
  | case3 x xs y ys ih =>
    rw [List.filterMap_eq_nil_iff, List.forall_mem_cons, ← List.filterMap_eq_nil_iff] at h
    rw [List.filterMap_cons, List.filterMap_cons, List.filterMap_cons, h.1, ih h.2]

private theorem filterMap_weave_right (h : xs.filterMap f = []) :
    (weave xs ys).filterMap f = ys.filterMap f := by
  cases xs with
  | nil => rw [weave]
  | cons x xs =>
    rw [List.filterMap_eq_nil_iff, List.forall_mem_cons, ← List.filterMap_eq_nil_iff] at h
    rw [weave_cons, List.filterMap_cons, h.1]
    exact filterMap_weave_left h.2

end Weave

/-! ## The two lists of a pattern -/

theorem nodes_eq_filterMap (p : Pattern V) : p.nodes = p.matchers.filterMap Matcher.node? := by
  rw [matchers, List.filterMap_cons, List.filterMap_flatMap, nodes, List.map_eq_flatMap]
  rfl

theorem edges_eq_filterMap (p : Pattern V) : p.edges = p.matchers.filterMap Matcher.edge? := by
  rw [matchers, List.filterMap_cons, List.filterMap_flatMap, edges, List.map_eq_flatMap]
  rfl

@[simp] private theorem length_nodes (p : Pattern V) : p.nodes.length = p.edges.length + 1 := by
  rw [nodes, edges, List.length_cons, List.length_map, List.length_map]

@[simp] theorem weave_nodes_edges (p : Pattern V) :
    weave (p.nodes.map .node) (p.edges.map .edge) = p.matchers := by
  rw [nodes, List.map_cons, weave_cons, matchers, edges]
  congr 1
  induction p.links with
  | nil => rfl
  | cons l links ih =>
    rw [List.flatMap_cons, ← ih]
    rfl

theorem exists_nodes_edges {nodes : List (NodeMatcher V)} {edges : List EdgeMatcher}
    (h : nodes.length = edges.length + 1) : ∃ p : Pattern V, p.nodes = nodes ∧ p.edges = edges := by
  obtain ⟨first, rest, rfl⟩ := List.exists_cons_of_length_eq_add_one h
  have hlength : rest.length = edges.length := Nat.succ.inj h
  refine ⟨⟨first, (edges.zip rest).map fun x ↦ ⟨x.1, x.2⟩⟩, ?_, ?_⟩
  · rw [Pattern.nodes, List.map_map]
    exact congrArg (first :: ·) (List.map_snd_zip (Nat.le_of_eq hlength))
  · rw [Pattern.edges, List.map_map]
    exact List.map_fst_zip (Nat.le_of_eq hlength.symm)

theorem interleave_eq_ok_iff {nodes : List (NodeMatcher V)} {edges : List EdgeMatcher}
    {p : Pattern V} :
    interleave (nodes.map .node) (edges.map .edge) = .ok p ↔ p.nodes = nodes ∧ p.edges = edges := by
  constructor
  · intro h
    have hmatchers : p.matchers = weave (nodes.map .node) (edges.map .edge) :=
      matchers_of_ofMatchers h
    rw [nodes_eq_filterMap, edges_eq_filterMap, hmatchers,
      filterMap_weave_left (Matcher.filterMap_node?_map_edge edges),
      filterMap_weave_right (Matcher.filterMap_edge?_map_node nodes),
      Matcher.filterMap_node?_map_node, Matcher.filterMap_edge?_map_edge]
    exact ⟨rfl, rfl⟩
  · rintro ⟨rfl, rfl⟩
    rw [interleave, weave_nodes_edges, ofMatchers_matchers]

/-! ## Lists that do not fit -/

/-- What is said against node matchers and edge matchers that do not make a pattern. -/
inductive Misfit : List (NodeMatcher V) → List EdgeMatcher → InvalidPattern → Prop where
  /-- There is nothing. -/
  | nothing : Misfit [] [] .noMatchers
  /-- There are as many edge matchers as node matchers, so the last one leads nowhere. -/
  | lastEdge {nodes : List (NodeMatcher V)} {edges : List EdgeMatcher} (hne : nodes ≠ [])
    (h : nodes.length = edges.length) : Misfit nodes edges .endsWithEdge
  /-- It is the turn of a node matcher, but there is only one more edge matcher. -/
  | surplusEdge {nodes : List (NodeMatcher V)} {edges : List EdgeMatcher} {m : EdgeMatcher}
    (h : edges[nodes.length]? = some m) :
    Misfit nodes edges (.notAlternating (2 * nodes.length) m.kind "NodeMatcher")
  /-- It is the turn of an edge matcher, but there is only one more node matcher. -/
  | surplusNode {nodes : List (NodeMatcher V)} {edges : List EdgeMatcher} {n : NodeMatcher V}
    (h : nodes[edges.length + 1]? = some n) :
    Misfit nodes edges (.notAlternating (2 * edges.length + 1) n.kind "EdgeMatcher")

private theorem linksOf_append_of_error {position : Nat} {links : List (Link V)}
    {rest : List (Matcher V)}
    {fault : InvalidPattern} (h : linksOf (position + 2 * links.length) rest = .error fault) :
    linksOf position (links.flatMap (fun l ↦ [.edge l.edge, .node l.node]) ++ rest) =
      .error fault := by
  induction links generalizing position with
  | nil => exact h
  | cons l links ih =>
    have hposition : position + 2 * (links.length + 1) = position + 2 + 2 * links.length := by omega
    rw [List.length_cons, hposition] at h
    have hlinks := ih h
    rw [List.flatMap_cons, List.append_assoc, List.cons_append, List.singleton_append, linksOf,
      hlinks, error_bind]

private theorem interleave_cons (n : NodeMatcher V) (ns : List (NodeMatcher V))
    (edges : List EdgeMatcher) :
    interleave ((n :: ns).map .node) (edges.map .edge) = (do
      let links ← linksOf 1 (((edges.zip ns).map fun x ↦ Link.mk x.1 x.2).flatMap
          (fun l ↦ [.edge l.edge, .node l.node]) ++
        ((edges.drop ns.length).map .edge ++ (ns.drop edges.length).map .node))
      pure ⟨n, links⟩) := by
  rw [interleave, List.map_cons, weave_cons, ofMatchers, weave_eq_append, List.zip_map,
    List.flatMap_map, List.flatMap_map, List.length_map, List.length_map, List.map_drop,
    List.map_drop]
  rfl

/-- Lists of other lengths are refused at the first matcher that is out of turn. -/
theorem exists_misfit {nodes : List (NodeMatcher V)} {edges : List EdgeMatcher}
    (h : nodes.length ≠ edges.length + 1) :
    ∃ fault, interleave (nodes.map .node) (edges.map .edge) = .error fault ∧
      Misfit nodes edges fault := by
  cases nodes with
  | nil =>
    cases edges with
    | nil => exact ⟨_, rfl, .nothing⟩
    | cons m ms => exact ⟨_, rfl, .surplusEdge rfl⟩
  | cons n ns =>
    rw [List.length_cons] at h
    have hrefused {fault : InvalidPattern}
        (hrest : linksOf (1 + 2 * min edges.length ns.length)
          ((edges.drop ns.length).map .edge ++ (ns.drop edges.length).map .node) = .error fault) :
        interleave ((n :: ns).map .node) (edges.map .edge) = .error fault := by
      rw [interleave_cons, linksOf_append_of_error, error_bind]
      rwa [List.length_map, List.length_zip]
    rcases Nat.lt_or_gt_of_ne (fun heq ↦ h (congrArg (· + 1) heq)) with hlt | hlt
    · -- The edge matcher behind the last pair is in its turn, but not the next one.
      have hle := Nat.le_of_lt hlt
      rw [List.drop_eq_getElem_cons hlt, List.drop_eq_nil_of_le hle, Nat.min_eq_right hle,
        List.map_nil, List.append_nil, List.map_cons] at hrefused
      cases hnext : edges.drop (ns.length + 1) with
      | nil =>
        rw [hnext] at hrefused
        have hlength := List.drop_eq_nil_iff.1 hnext
        exact ⟨_, hrefused rfl, .lastEdge (by simp) (by rw [List.length_cons]; omega)⟩
      | cons m ms =>
        rw [hnext] at hrefused
        have hposition : 1 + 2 * ns.length + 1 = 2 * (n :: ns).length := by
          rw [List.length_cons]
          omega
        have hm : edges[(n :: ns).length]? = some m := by
          rw [List.length_cons, ← List.head?_drop, hnext, List.head?_cons]
        exact ⟨_, hrefused (by rw [List.map_cons, linksOf, hposition]), .surplusEdge hm⟩
    · have hle := Nat.le_of_lt hlt
      rw [List.drop_eq_getElem_cons hlt, List.drop_eq_nil_of_le hle, Nat.min_eq_left hle,
        List.map_nil, List.nil_append, List.map_cons] at hrefused
      have hn : (n :: ns)[edges.length + 1]? = some ns[edges.length] := by
        rw [List.getElem?_cons_succ, List.getElem?_eq_getElem hlt]
      exact ⟨_, hrefused (by rw [linksOf, Nat.add_comm]), .surplusNode hn⟩

/-- **Interleaving inverts the projections.** Lists of node matchers and of edge matchers make a
pattern exactly if there is one more of the first, and the pattern has these lists; otherwise there
is a fault, at the first matcher that is out of turn. The lists of a pattern make that pattern. -/
theorem interleave_exact :
    (∀ (nodes : List (NodeMatcher V)) (edges : List EdgeMatcher),
      ((∃ p, interleave (nodes.map .node) (edges.map .edge) = .ok p) ↔
        nodes.length = edges.length + 1) ∧
      (∀ p, interleave (nodes.map .node) (edges.map .edge) = .ok p →
        p.nodes = nodes ∧ p.edges = edges) ∧
      (nodes.length ≠ edges.length + 1 →
        ∃ fault, interleave (nodes.map .node) (edges.map .edge) = .error fault ∧
          Misfit nodes edges fault)) ∧
    ∀ p : Pattern V, interleave (p.nodes.map .node) (p.edges.map .edge) = .ok p := by
  refine ⟨fun nodes edges ↦ ⟨⟨?_, ?_⟩, fun p ↦ interleave_eq_ok_iff.1, exists_misfit⟩, fun p ↦ ?_⟩
  · rintro ⟨p, hp⟩
    obtain ⟨rfl, rfl⟩ := interleave_eq_ok_iff.1 hp
    exact length_nodes p
  · intro hlength
    obtain ⟨p, hp⟩ := exists_nodes_edges hlength
    exact ⟨p, interleave_eq_ok_iff.2 hp⟩
  · exact interleave_eq_ok_iff.2 ⟨rfl, rfl⟩

/-- Two node matchers and one edge matcher make a pattern of both, and with a second edge matcher
they make none. -/
theorem interleave_exact_pair :
    ∃ p : Pattern String,
      interleave ([.any, .any].map .node) ([EdgeMatcher.ofTest .any].map .edge) = .ok p ∧
      (p.nodes = [.any, .any] ∧ p.edges = [.ofTest .any]) ∧
      ∃ fault, interleave (([.any, .any] : List (NodeMatcher String)).map .node)
          ([.ofTest .any, EdgeMatcher.ofTest (.label "r")].map .edge) = .error fault ∧
        Misfit ([.any, .any] : List (NodeMatcher String))
          [.ofTest .any, .ofTest (.label "r")] fault := by
  obtain ⟨hlists, -⟩ := interleave_exact (V := String)
  obtain ⟨hpair, hprojections, -⟩ := hlists [.any, .any] [.ofTest .any]
  obtain ⟨p, hp⟩ := hpair.2 rfl
  obtain ⟨-, -, hmisfit⟩ := hlists [.any, .any] [.ofTest .any, .ofTest (.label "r")]
  exact ⟨p, hp, hprojections p hp, hmisfit (by decide)⟩

end Pattern

end Motif
