import Mathlib.Data.List.Nodup
import Motif.Proofs.Matcher.Flip
import Motif.Proofs.Pattern.RoundTrip
import Motif.Proofs.Search.Exact

/-!
# A pattern and its reflection find the same structures

The reflection of a pattern has its matchers in the opposite order, and its edge matchers turned
around. A walk that fits a pattern, traversed from its end, therefore fits the reflection
(`fits_reflection`), and what is recorded along the way is the same. The searches explore different
trees, but by `search_anchored` both are about the walks that fit.

Two facts about patterns that are read are used. No edge demands more than one direction: turning an
edge matcher around turns only the outermost demand. And no name is used twice: of two records of a
name the later one counts, and this is not the same one from the other end.
-/

namespace Motif

variable {V : Type}

/-! ## The matchers of a reflection -/

namespace Pattern

private theorem nodes_reversedLinks (last : NodeMatcher V) (done links : List (Link V)) :
    (reversedLinks last done links).1 :: (reversedLinks last done links).2.map Link.node =
      (links.map Link.node).reverse ++ last :: done.map Link.node := by
  induction links generalizing last done with
  | nil => rfl
  | cons l links ih =>
    rw [reversedLinks, ih, List.map_cons, List.map_cons, List.reverse_cons, List.append_assoc]
    rfl

private theorem edges_reversedLinks (last : NodeMatcher V) (done links : List (Link V)) :
    (reversedLinks last done links).2.map Link.edge =
      (links.map fun l ↦ l.edge.flip).reverse ++ done.map Link.edge := by
  induction links generalizing last done with
  | nil => rfl
  | cons l links ih =>
    rw [reversedLinks, ih, List.map_cons, List.map_cons, List.reverse_cons, List.append_assoc]
    rfl

@[simp] theorem nodes_reflection (p : Pattern V) : p.reflection.nodes = p.nodes.reverse := by
  rw [nodes, nodes, reflection, nodes_reversedLinks, List.reverse_cons, List.map_nil]

@[simp] theorem edges_reflection (p : Pattern V) :
    p.reflection.edges = (p.edges.map EdgeMatcher.flip).reverse := by
  rw [edges, edges, reflection, edges_reversedLinks, List.map_nil, List.append_nil, List.map_map]
  rfl

/-- No edge matcher demands more than one direction. -/
def SingleDirections (p : Pattern V) : Prop := ∀ m ∈ p.edges, m.directions.length ≤ 1

theorem Readable.singleDirections {voc : Vocabulary V} {p : Pattern V} (h : p.Readable voc) :
    p.SingleDirections :=
  fun m hm ↦ (h.edges m hm).length_directions_le

@[simp] private theorem length_directions_flip (m : EdgeMatcher) :
    m.flip.directions.length = m.directions.length := by
  obtain ⟨a, _ | ⟨d, ds⟩, t⟩ := m <;> rfl

theorem SingleDirections.reflection {p : Pattern V} (h : p.SingleDirections) :
    p.reflection.SingleDirections := by
  intro m hm
  rw [edges_reflection, List.mem_reverse] at hm
  obtain ⟨n, hn, rfl⟩ := List.mem_map.1 hm
  rw [length_directions_flip]
  exact h n hn

/-- **A walk that fits a pattern fits the reflection from its end.** -/
theorem fits_reflection {p : Pattern V} (hp : p.SingleDirections) {g : Graph V} {v : V}
    {ds : List (Step V)} (h : p.Fits g v ds) :
    p.reflection.Fits g (Walk.finishFrom v ds) (Walk.turn ds) where
  edges_mem d hd := by
    obtain ⟨e, he, rfl⟩ := List.mem_map.1 hd
    exact h.edges_mem e (List.mem_reverse.1 he)
  connected := Walk.connectedFrom_turn h.connected
  edges_nodup := by
    rw [Walk.map_edge_turn]
    exact (List.reverse_perm _).nodup_iff.2 h.edges_nodup
  steps_accepted := by
    rw [edges_reflection, Walk.turn, ← List.map_reverse, List.forall₂_map_left_iff,
      List.forall₂_map_right_iff, List.forall₂_reverse_iff]
    refine (List.forall₂_iff_zip.2 ⟨h.steps_accepted.length_eq, fun {m d} hmem ↦ ?_⟩)
    have haccepts := (List.forall₂_iff_zip.1 h.steps_accepted).2 hmem
    rw [EdgeMatcher.accepts, EdgeMatcher.matchText_flip (hp m (List.of_mem_zip hmem).1)]
    exact haccepts
  nodes_accepted := by
    rw [nodes_reflection, Walk.visits_turn_iff.2 h.connected, List.forall₂_reverse_iff]
    exact h.nodes_accepted

private theorem fits_congr {p q : Pattern V} (hnodes : p.nodes = q.nodes)
    (hedges : p.edges = q.edges)
    {g : Graph V} {v : V} {ds : List (Step V)} (h : p.Fits g v ds) : q.Fits g v ds :=
  ⟨h.edges_mem, h.connected, h.edges_nodup, hedges ▸ h.steps_accepted, hnodes ▸ h.nodes_accepted⟩

private theorem nodes_reflection_reflection (p : Pattern V) :
    p.reflection.reflection.nodes = p.nodes := by
  rw [nodes_reflection, nodes_reflection, List.reverse_reverse]

private theorem edges_reflection_reflection (p : Pattern V) :
    p.reflection.reflection.edges = p.edges := by
  have hflip : EdgeMatcher.flip ∘ EdgeMatcher.flip = id := funext EdgeMatcher.flip_flip
  rw [edges_reflection, edges_reflection, List.map_reverse, List.reverse_reverse, List.map_map,
    hflip, List.map_id]

theorem fits_of_reflection {p : Pattern V} (hp : p.SingleDirections) {g : Graph V} {w : V}
    {es : List (Step V)} (h : p.reflection.Fits g w es) :
    p.Fits g (Walk.finishFrom w es) (Walk.turn es) :=
  fits_congr (nodes_reflection_reflection p) (edges_reflection_reflection p)
    (fits_reflection hp.reflection h)

end Pattern

/-! ## Records from the other end -/

section Records

variable {M α : Type} {name : M → Option String} {text : M → α → Option String}

/-- What is recorded in the opposite order is the same. -/
theorem records_reverse {ms : List M} {xs : List α} (h : ms.length = xs.length) :
    records name text ms.reverse xs.reverse = (records name text ms xs).reverse := by
  have hzip : ms.reverse.zip xs.reverse = (ms.zip xs).reverse := (List.reverse_zipWith h).symm
  rw [records, records, hzip, List.reverse_flatMap]
  refine congrArg (List.flatMap · _) (funext fun x ↦ ?_)
  cases hname : name x.1 with
  | none => simp [hname]
  | some a => cases htext : text x.1 x.2 <;> simp [hname, htext]

/-- The names of records are names of matchers, each as often as it is a name. -/
theorem map_fst_records_sublist (ms : List M) (xs : List α) :
    ((records name text ms xs).map Prod.fst).Sublist (ms.filterMap name) := by
  induction ms generalizing xs with
  | nil => exact List.nil_sublist _
  | cons m ms ih =>
    cases xs with
    | nil => exact List.nil_sublist _
    | cons x xs =>
      rw [records_cons, List.map_append, List.filterMap_cons]
      cases hname : name m with
      | none => simpa [records, hname] using ih xs
      | some a =>
        cases htext : text m x with
        | none => simpa [records, hname, htext] using (ih xs).trans (List.sublist_cons_self a _)
        | some s => simpa [records, hname, htext] using (ih xs).cons_cons a

end Records

namespace Pattern

variable {p : Pattern V}

private theorem nodeNames_sublist (links : List (Link V)) :
    ((links.map Link.node).filterMap NodeMatcher.name).Sublist (linkCaptures links) := by
  induction links with
  | nil => exact .slnil
  | cons l links ih =>
    rw [List.map_cons, filterMap_cons_eq_append, linkCaptures_cons]
    exact ((List.append_sublist_append_left _).2 ih).trans (List.sublist_append_right _ _)

private theorem edgeNames_sublist (links : List (Link V)) :
    ((links.map Link.edge).filterMap EdgeMatcher.name).Sublist (linkCaptures links) := by
  induction links with
  | nil => exact .slnil
  | cons l links ih =>
    rw [List.map_cons, filterMap_cons_eq_append, linkCaptures_cons]
    exact (List.append_sublist_append_left _).2 (ih.trans (List.sublist_append_right _ _))

private theorem nodup_nodeNames (h : p.captures.Nodup) :
    (p.nodes.filterMap NodeMatcher.name).Nodup := by
  rw [captures_eq] at h
  rw [nodes, filterMap_cons_eq_append]
  exact h.sublist ((List.append_sublist_append_left _).2 (nodeNames_sublist p.links))

private theorem nodup_edgeNames (h : p.captures.Nodup) :
    (p.edges.filterMap EdgeMatcher.name).Nodup := by
  rw [captures_eq] at h
  exact h.sublist ((edgeNames_sublist p.links).trans (List.sublist_append_right _ _))

def flipCapture (c : Capture (Step V)) : Capture (Step V) := ⟨c.value.flip, c.text⟩

/-- Matchers turned around record the steps turned around. -/
private theorem edgeRecords_flip {ms : List EdgeMatcher} (h : ∀ m ∈ ms, m.directions.length ≤ 1)
    (ds : List (Step V)) :
    edgeRecords (ms.map EdgeMatcher.flip) (ds.map Step.flip) =
      (edgeRecords ms ds).map fun e ↦ (e.1, flipCapture e.2) := by
  induction ms generalizing ds with
  | nil => rfl
  | cons m ms ih =>
    cases ds with
    | nil => rfl
    | cons d ds =>
      have hrest := ih (fun n hn ↦ h n (List.mem_cons_of_mem m hn)) ds
      have hfirst : edgeRecords [m.flip] [d.flip] =
          (edgeRecords [m] [d]).map fun e ↦ (e.1, flipCapture e.2) := by
        rw [edgeRecords, edgeRecords, records, records]
        simp only [List.zip_cons_cons, List.zip_nil_right, List.flatMap_singleton,
          EdgeMatcher.name_flip, EdgeMatcher.matchText_flip (h m List.mem_cons_self)]
        cases m.name with
        | none => rfl
        | some a => cases m.matchText d <;> rfl
      rw [List.map_cons, List.map_cons, edgeRecords_cons, edgeRecords_cons m, List.map_append,
        hfirst, hrest]

variable {g : Graph V} {v : V} {ds : List (Step V)}

theorem get?_nodes_turn (hp : p.captures.Nodup) (h : p.Fits g v ds) (a : String) :
    (p.reflection.matchAlong (Walk.finishFrom v ds) (Walk.turn ds)).nodes.get? a =
      (p.matchAlong v ds).nodes.get? a := by
  have hlen : p.nodes.length = (Walk.visits v ds).length := h.nodes_accepted.length_eq
  have hkeys : ((nodeRecords p.nodes (Walk.visits v ds)).map Prod.fst).Nodup :=
    (nodup_nodeNames hp).sublist (map_fst_records_sublist _ _)
  rw [matchAlong, matchAlong, InsertionMap.get?_ofList, InsertionMap.get?_ofList,
    nodes_reflection, Walk.visits_turn_iff.2 h.connected, nodeRecords, records_reverse hlen,
    ← nodeRecords, InsertionMap.lastOf_reverse hkeys]

theorem get?_edges_turn (hp : p.captures.Nodup) (hd : p.SingleDirections) (h : p.Fits g v ds)
    (a : String) :
    (p.reflection.matchAlong (Walk.finishFrom v ds) (Walk.turn ds)).edges.get? a =
      ((p.matchAlong v ds).edges.get? a).map flipCapture := by
  have hlen : (p.edges.map EdgeMatcher.flip).length = (ds.map Step.flip).length := by
    rw [List.length_map, List.length_map]
    exact h.steps_accepted.length_eq
  have hkeys : ((edgeRecords (p.edges.map EdgeMatcher.flip) (ds.map Step.flip)).map
      Prod.fst).Nodup := by
    have hnames : (p.edges.map EdgeMatcher.flip).filterMap EdgeMatcher.name =
        p.edges.filterMap EdgeMatcher.name := by
      rw [List.filterMap_map]
      exact List.filterMap_congr fun m _ ↦ m.name_flip
    refine List.Nodup.sublist (map_fst_records_sublist _ _) ?_
    rw [hnames]
    exact nodup_edgeNames hp
  rw [matchAlong, matchAlong, InsertionMap.get?_ofList, InsertionMap.get?_ofList,
    edges_reflection, Walk.turn, List.map_reverse, edgeRecords, records_reverse hlen, ← edgeRecords,
    InsertionMap.lastOf_reverse hkeys, edgeRecords_flip hd, InsertionMap.lastOf_map]

end Pattern

/-! ## Matches from the other end -/

/-- The match `n` from `w` is of the same structure as the match `m` from `v`, seen from the other
end. -/
structure Match.Mirrors (v : V) (m : Match V) (w : V) (n : Match V) : Prop where
  /-- The one ends where the other begins. -/
  finish : Walk.finishFrom v m.walk.steps = w
  /-- The walks are the same from different ends. -/
  walk : n.walk = m.walk.reverse
  /-- The same vertices are captured with the same texts. -/
  nodes : ∀ a, n.nodes.get? a = m.nodes.get? a
  /-- The same steps are captured with the same texts, turned around. -/
  edges : ∀ a, n.edges.get? a = (m.edges.get? a).map Pattern.flipCapture

namespace Pattern

variable {p : Pattern V} {g : Graph V} {v : V} {ds : List (Step V)}

theorem mirrors_matchAlong (hp : p.captures.Nodup) (hd : p.SingleDirections) (h : p.Fits g v ds) :
    Match.Mirrors v (p.matchAlong v ds) (Walk.finishFrom v ds)
      (p.reflection.matchAlong (Walk.finishFrom v ds) (Walk.turn ds)) :=
  ⟨rfl, rfl, get?_nodes_turn hp h, get?_edges_turn hp hd h⟩

theorem FaultFree.reflection (h : p.FaultFree g) : p.reflection.FaultFree g := by
  intro m hm
  rw [nodes_reflection, List.mem_reverse] at hm
  exact h m hm

def turnWalk (x : V × List (Step V)) : V × List (Step V) := (Walk.finishFrom x.1 x.2, Walk.turn x.2)

private theorem turnWalk_turnWalk {x : V × List (Step V)} (h : p.Fits g x.1 x.2) :
    turnWalk (turnWalk x) = x :=
  Prod.ext (Walk.finishFrom_turn h.connected) (Walk.turn_turn x.2)

variable [DecidableEq V]

theorem finishFrom_mem (hv : v ∈ g.vertices) (hedges : ∀ d ∈ ds, d.edge ∈ g.edges)
    (hconn : Walk.ConnectedFrom v ds) : Walk.finishFrom v ds ∈ g.vertices := by
  induction ds generalizing v with
  | nil => exact hv
  | cons d ds ih =>
    obtain ⟨hstart, hrest⟩ := Walk.connectedFrom_cons.1 hconn
    have hd : d ∈ g.incident v := Graph.mem_incident.2 ⟨hedges d List.mem_cons_self, hstart⟩
    exact ih (Graph.finish_mem hd) (fun e he ↦ hedges e (List.mem_cons_of_mem d he)) hrest

/-! ### The number of matches -/

/-- The walks that fit the pattern, with the vertices they begin at. -/
def walks (p : Pattern V) (g : Graph V) : List (V × List (Step V)) :=
  g.vertices.flatMap fun v ↦ (p.walksFrom g v).map (v, ·)

private theorem mem_walks {x : V × List (Step V)} :
    x ∈ p.walks g ↔ x.1 ∈ g.vertices ∧ p.Fits g x.1 x.2 := by
  rw [walks, List.mem_flatMap]
  constructor
  · rintro ⟨v, hv, hx⟩
    obtain ⟨ds, hds, rfl⟩ := List.mem_map.1 hx
    exact ⟨hv, mem_walksFrom.1 hds⟩
  · rintro ⟨hv, hx⟩
    exact ⟨x.1, hv, List.mem_map.2 ⟨x.2, mem_walksFrom.2 hx, rfl⟩⟩

private theorem nodup_walks (p : Pattern V) (g : Graph V) : (p.walks g).Nodup := by
  refine List.pairwise_flatMap.2 ⟨fun v _ ↦ ?_, g.vertices_nodup.imp fun {v w} hvw x hx y hy ↦ ?_⟩
  · exact List.Nodup.map (fun ds es h ↦ (Prod.mk.inj h).2) fitting_nodup
  · obtain ⟨ds, -, rfl⟩ := List.mem_map.1 hx
    obtain ⟨es, -, rfl⟩ := List.mem_map.1 hy
    exact fun h ↦ hvw (Prod.mk.inj h).1

/-- The walks that fit the reflection are those that fit the pattern, from their ends. -/
theorem walks_reflection_perm (hd : p.SingleDirections) :
    ((p.walks g).map turnWalk).Perm (p.reflection.walks g) := by
  refine (List.perm_ext_iff_of_nodup (List.Nodup.map_on ?_ (nodup_walks p g))
    (nodup_walks _ g)).2 fun y ↦ ⟨?_, ?_⟩
  · intro x hx y hy hxy
    rw [← turnWalk_turnWalk (mem_walks.1 hx).2, hxy, turnWalk_turnWalk (mem_walks.1 hy).2]
  · intro hy
    obtain ⟨x, hx, rfl⟩ := List.mem_map.1 hy
    obtain ⟨hv, hfits⟩ := mem_walks.1 hx
    exact mem_walks.2 ⟨finishFrom_mem hv hfits.edges_mem hfits.connected, fits_reflection hd hfits⟩
  · intro hy
    obtain ⟨hw, hfits⟩ := mem_walks.1 hy
    refine List.mem_map.2 ⟨turnWalk y, mem_walks.2 ⟨?_, fits_of_reflection hd hfits⟩,
      turnWalk_turnWalk hfits⟩
    exact finishFrom_mem hw hfits.edges_mem hfits.connected

private theorem length_flatMap_walksFrom (p : Pattern V) (g : Graph V) :
    (g.vertices.flatMap fun v ↦ (p.walksFrom g v).map (p.matchAlong v)).length =
      (p.walks g).length := by
  have hmap : (p.walks g).map (fun x ↦ p.matchAlong x.1 x.2) =
      g.vertices.flatMap fun v ↦ (p.walksFrom g v).map (p.matchAlong v) := by
    rw [walks, List.map_flatMap]
    simp only [List.map_map]
    rfl
  rw [← hmap, List.length_map]

/-! ### The correspondence -/

private theorem nodup_walk_matchAlong (p : Pattern V) (g : Graph V) (v : V) :
    (((p.walksFrom g v).map (p.matchAlong v)).map Match.walk).Nodup := by
  rw [List.map_map]
  exact List.Nodup.map (fun ds es h ↦ Walk.mk.inj h) fitting_nodup

/-- A match of the pattern has one counterpart among the matches of the reflection. -/
theorem existsUnique_mirror (hp : p.captures.Nodup) (hd : p.SingleDirections) {m : Match V}
    (hv : v ∈ g.vertices) (hm : m ∈ (p.walksFrom g v).map (p.matchAlong v)) :
    ∃! x : V × Match V, x.1 ∈ g.vertices ∧
      x.2 ∈ (p.reflection.walksFrom g x.1).map (p.reflection.matchAlong x.1) ∧
        m.Mirrors v x.1 x.2 := by
  obtain ⟨ds, hds, rfl⟩ := List.mem_map.1 hm
  have hfits := mem_walksFrom.1 hds
  have hmem : Walk.turn ds ∈ p.reflection.walksFrom g (Walk.finishFrom v ds) :=
    mem_walksFrom.2 (fits_reflection hd hfits)
  refine ⟨(Walk.finishFrom v ds, p.reflection.matchAlong (Walk.finishFrom v ds) (Walk.turn ds)),
    ⟨finishFrom_mem hv hfits.edges_mem hfits.connected, List.mem_map_of_mem hmem,
      mirrors_matchAlong hp hd hfits⟩, ?_⟩
  rintro ⟨w, n⟩ ⟨-, hn, hmirrors⟩
  dsimp only at hn hmirrors
  obtain ⟨es, -, rfl⟩ := List.mem_map.1 hn
  obtain rfl : Walk.finishFrom v ds = w := hmirrors.finish
  obtain rfl : es = Walk.turn ds := Walk.mk.inj hmirrors.walk
  rfl

/-- A match of the reflection is the counterpart of one match of the pattern. -/
theorem existsUnique_mirrored (hp : p.captures.Nodup) (hd : p.SingleDirections) {w : V}
    {n : Match V} (hw : w ∈ g.vertices)
    (hn : n ∈ (p.reflection.walksFrom g w).map (p.reflection.matchAlong w)) :
    ∃! x : V × Match V, x.1 ∈ g.vertices ∧ x.2 ∈ (p.walksFrom g x.1).map (p.matchAlong x.1) ∧
      x.2.Mirrors x.1 w n := by
  obtain ⟨es, hes, rfl⟩ := List.mem_map.1 hn
  have hfits' := mem_walksFrom.1 hes
  have hfits := fits_of_reflection hd hfits'
  have hmirrors := mirrors_matchAlong hp hd hfits
  rw [Walk.finishFrom_turn hfits'.connected, Walk.turn_turn] at hmirrors
  refine ⟨(Walk.finishFrom w es, p.matchAlong (Walk.finishFrom w es) (Walk.turn es)),
    ⟨finishFrom_mem hw hfits'.edges_mem hfits'.connected,
      List.mem_map_of_mem (mem_walksFrom.2 hfits), hmirrors⟩, ?_⟩
  rintro ⟨v, m⟩ ⟨-, hm, hmirrors⟩
  dsimp only at hm hmirrors
  obtain ⟨ds, hds, rfl⟩ := List.mem_map.1 hm
  obtain rfl : Walk.finishFrom v ds = w := hmirrors.finish
  obtain rfl : es = Walk.turn ds := Walk.mk.inj hmirrors.walk
  rw [Walk.finishFrom_turn (mem_walksFrom.1 hds).connected, Walk.turn_turn]

/-- `found` and `back` list the matches of two patterns by the vertices they begin at. Every match
of one has exactly one counterpart among the matches of the other, which begins where it ends and
goes the other way. -/
structure FindsMirrored (p q : Pattern V) (g : Graph V) (found back : V → List (Match V)) :
    Prop where
  /-- The matches are those of the searches anchored at a vertex. -/
  anchored : ∀ v ∈ g.vertices,
    p.search g (some v) none = .ok (found v) ∧ q.search g (some v) none = .ok (back v)
  /-- The matches are those of the searches without an anchor. -/
  unanchored : p.search g none none = .ok (g.vertices.flatMap found) ∧
    q.search g none none = .ok (g.vertices.flatMap back)
  /-- No match is listed twice. -/
  nodup : ∀ v ∈ g.vertices,
    ((found v).map Match.walk).Nodup ∧ ((back v).map Match.walk).Nodup
  /-- There are as many matches of both patterns. -/
  length_eq : (g.vertices.flatMap found).length = (g.vertices.flatMap back).length
  /-- A match of the first pattern has one counterpart. -/
  mirror : ∀ v ∈ g.vertices, ∀ m ∈ found v, ∃! x : V × Match V,
    x.1 ∈ g.vertices ∧ x.2 ∈ back x.1 ∧ m.Mirrors v x.1 x.2
  /-- A match of the second pattern is the counterpart of one match. -/
  mirrored : ∀ w ∈ g.vertices, ∀ n ∈ back w, ∃! x : V × Match V,
    x.1 ∈ g.vertices ∧ x.2 ∈ found x.1 ∧ x.2.Mirrors x.1 w n

/-- **A pattern that has been read and its reflection find the same structures.** -/
theorem search_reflection {voc : Vocabulary V} {text : String} {p : Pattern V}
    (hread : read voc text = .ok p) (g : Graph V) (h : p.FaultFree g) :
    ∃ found back : V → List (Match V), p.FindsMirrored p.reflection g found back := by
  have hp := readable_of_read hread
  have hd := hp.singleDirections
  refine ⟨fun v ↦ (p.walksFrom g v).map (p.matchAlong v),
    fun w ↦ (p.reflection.walksFrom g w).map (p.reflection.matchAlong w), ?_⟩
  constructor
  case anchored => exact fun v hv ↦ ⟨search_anchored hv h, search_anchored hv h.reflection⟩
  case unanchored => exact ⟨search_unanchored h, search_unanchored h.reflection⟩
  case nodup =>
    exact fun v _ ↦ ⟨nodup_walk_matchAlong p g v, nodup_walk_matchAlong p.reflection g v⟩
  case length_eq =>
    rw [length_flatMap_walksFrom, length_flatMap_walksFrom,
      ← (walks_reflection_perm hd).length_eq, List.length_map]
  case mirror => exact fun v hv m hm ↦ existsUnique_mirror hp.captures_nodup hd hv hm
  case mirrored => exact fun w hw n hn ↦ existsUnique_mirrored hp.captures_nodup hd hw hn

theorem search_reflection_echo :
    ∃ p, read Expression.echo "\x7bx:self='a'\x7d >\x7be\x7d> .* -r- \x7by\x7d" = .ok p ∧
      p.FaultFree loopGraph ∧ ∃ found back, p.FindsMirrored p.reflection loopGraph found back := by
  have hread : (read Expression.echo
      "\x7bx:self='a'\x7d >\x7be\x7d> .* -r- \x7by\x7d").toOption.map
        (fun p ↦ p.answersEverywhere loopGraph) = some true := by
    cbv
  obtain ⟨p, hp, hanswers⟩ := Option.map_eq_some_iff.1 hread
  rw [toOption_eq_some_iff] at hp
  have hfree := faultFree_of_answersEverywhere hanswers
  exact ⟨p, hp, hfree, search_reflection hp loopGraph hfree⟩

end Pattern

end Motif
