import Motif.Proofs.Search.Exact

/-!
# No capture is lost

The search records what a matcher accepts only where the capture is the outermost layer of the
matcher. That nothing is lost by this is the work of the constructors, which refuse a capture
anywhere else. A *plan* says how a matcher is put together, with captures at any depth, and is built
by calling the constructors from the inside out. A plan that can be built has no capture but the one
that its matcher is named for (`EdgeMatcher.Plan.names_eq`, `NodeMatcher.Plan.names_eq`), and so the
names in the plans are the names under which the search records.

The node tests may fail to answer here. The matches that come before such a fault are matches along
walks that fit (`Pattern.mem_explore`), as they are in a search that comes to its end.
-/

namespace Motif

variable {V : Type}

/-! ## Plans of edge matchers -/

namespace EdgeMatcher

/-- How an edge matcher is put together. -/
inductive Plan where
  /-- A test of the label. -/
  | test (t : LabelTest)
  /-- A demand on the direction around a matcher. -/
  | directed (d : Direction) (inner : Plan)
  /-- A capture around a matcher. -/
  | captured (name : String) (inner : Plan)

namespace Plan

/-- The matcher that the constructors make of a plan. -/
def build : Plan → Except InvalidPattern EdgeMatcher
  | test t => .ok (ofTest t)
  | directed d inner => do
    let m ← inner.build
    m.directed d
  | captured name inner => do
    let m ← inner.build
    m.captured name

/-- The names of the captures in a plan, the outermost first. -/
def names : Plan → List String
  | test _ => []
  | directed _ inner => inner.names
  | captured name inner => name :: inner.names

end Plan

@[simp] theorem directed_eq_ok_iff {d : Direction} {m n : EdgeMatcher} :
    m.directed d = .ok n ↔ m.name = none ∧ n = { m with directions := d :: m.directions } := by
  rw [directed]
  cases hm : m.name with
  | some a => exact ⟨fun h ↦ (nomatch h), fun h ↦ (nomatch h.1)⟩
  | none => exact ⟨fun h ↦ ⟨rfl, (Except.ok.inj h).symm⟩, fun h ↦ congrArg Except.ok h.2.symm⟩

theorem captured_eq_ok_iff {name : String} {m n : EdgeMatcher} :
    m.captured name = .ok n ↔ m.name = none ∧ n = { m with name := some name } := by
  rw [captured]
  cases hm : m.name with
  | some a => exact ⟨fun h ↦ (nomatch h), fun h ↦ (nomatch h.1)⟩
  | none => exact ⟨fun h ↦ ⟨rfl, (Except.ok.inj h).symm⟩, fun h ↦ congrArg Except.ok h.2.symm⟩

/-- A plan that can be built has no capture but the one that its matcher is named for. -/
theorem Plan.names_eq {c : Plan} {m : EdgeMatcher} (h : c.build = .ok m) :
    c.names = m.name.toList := by
  induction c generalizing m with
  | test t =>
    obtain rfl : ofTest t = m := Except.ok.inj h
    rfl
  | directed d inner ih =>
    obtain ⟨n, hn, hm⟩ := bind_eq_ok_iff.1 h
    obtain ⟨hname, rfl⟩ := directed_eq_ok_iff.1 hm
    rw [names, ih hn]
  | captured name inner ih =>
    obtain ⟨n, hn, hm⟩ := bind_eq_ok_iff.1 h
    obtain ⟨hname, rfl⟩ := captured_eq_ok_iff.1 hm
    rw [names, ih hn, hname]
    rfl

end EdgeMatcher

/-! ## Plans of node matchers -/

namespace NodeMatcher

/-- How a node matcher is put together. -/
inductive Plan (V : Type) where
  /-- A test of the vertex. -/
  | test (t : NodeTest V)
  /-- A capture around a matcher. -/
  | captured (name : String) (inner : Plan V)
  /-- A conjunction of matchers. -/
  | conjunction (members : List (Plan V))

namespace Plan

mutual

/-- The matcher that the constructors make of a plan. -/
def build : Plan V → Except InvalidPattern (NodeMatcher V)
  | test t => .ok (ofTest t)
  | captured name inner => do
    let m ← inner.build
    m.captured name
  | conjunction members => do
    let ms ← buildAll members
    NodeMatcher.conjunction ms

/-- The matchers that the constructors make of several plans. -/
def buildAll : List (Plan V) → Except InvalidPattern (List (NodeMatcher V))
  | [] => .ok []
  | c :: cs => do
    let m ← c.build
    let ms ← buildAll cs
    pure (m :: ms)

end

mutual

/-- The names of the captures in a plan, in the order in which they are written. -/
def names : Plan V → List String
  | test _ => []
  | captured name inner => name :: inner.names
  | conjunction members => namesAll members

/-- The names of the captures in several plans. -/
def namesAll : List (Plan V) → List String
  | [] => []
  | c :: cs => c.names ++ namesAll cs

end

end Plan

theorem captured_eq_ok_iff {name : String} {m n : NodeMatcher V} :
    m.captured name = .ok n ↔ m.name = none ∧ n = { m with name := some name } := by
  rw [captured]
  cases hm : m.name with
  | some a => exact ⟨fun h ↦ (nomatch h), fun h ↦ (nomatch h.1)⟩
  | none => exact ⟨fun h ↦ ⟨rfl, (Except.ok.inj h).symm⟩, fun h ↦ congrArg Except.ok h.2.symm⟩

private theorem names_of_conjunction {ms : List (NodeMatcher V)} {m : NodeMatcher V}
    (h : conjunction ms = .ok m) : m.name = none ∧ ∀ n ∈ ms, n.name = none := by
  simp only [conjunction] at h
  split at h
  · cases h
  split at h
  · cases h
  split at h
  · cases h
  · rename_i hnames
    refine ⟨Except.ok.inj h ▸ rfl, fun n hn ↦ ?_⟩
    -- A repeated member is dropped, but the one that is kept has the same name.
    obtain ⟨k, hk, hkn⟩ := exists_mem_distinctBy signature hn
    have hname : k.name = n.name := congrArg Prod.fst hkn
    rw [← hname]
    exact List.findSome?_eq_none_iff.1 hnames k hk

/-- If the plans of the members have no captures but those that their matchers are named for,
neither has the list of them. -/
private theorem Plan.namesAll_eq {cs : List (Plan V)} {ms : List (NodeMatcher V)}
    (hmembers : ∀ c ∈ cs, ∀ m, c.build = .ok m → c.names = m.name.toList)
    (h : Plan.buildAll cs = .ok ms) : Plan.namesAll cs = ms.filterMap NodeMatcher.name := by
  induction cs generalizing ms with
  | nil =>
    obtain rfl : [] = ms := Except.ok.inj h
    rfl
  | cons c cs ih =>
    obtain ⟨hfirst, hrest⟩ := List.forall_mem_cons.1 hmembers
    obtain ⟨m, hm, h⟩ := bind_eq_ok_iff.1 h
    obtain ⟨ns, hns, rfl⟩ := bind_pure_eq_ok_iff.1 h
    rw [Plan.namesAll, hfirst m hm, ih hrest hns, List.filterMap_cons]
    cases m.name <;> rfl

/-- A plan that can be built has no capture but the one that its matcher is named for. -/
theorem Plan.names_eq : ∀ {c : Plan V} {m : NodeMatcher V}, c.build = .ok m →
    c.names = m.name.toList
  | .test t, m, h => by
    obtain rfl : ofTest t = m := Except.ok.inj h
    rfl
  | .captured name inner, m, h => by
    obtain ⟨n, hn, hm⟩ := bind_eq_ok_iff.1 h
    obtain ⟨hname, rfl⟩ := captured_eq_ok_iff.1 hm
    rw [Plan.names, Plan.names_eq hn, hname]
    rfl
  | .conjunction members, m, h => by
    obtain ⟨ms, hms, hm⟩ := bind_eq_ok_iff.1 h
    obtain ⟨hname, hnone⟩ := names_of_conjunction hm
    rw [Plan.names, Plan.namesAll_eq (fun _ _ _ ↦ Plan.names_eq) hms,
      List.filterMap_eq_nil_iff.2 hnone, hname]
    rfl

end NodeMatcher

/-! ## Plans of patterns -/

namespace Matcher

/-- How a matcher of either kind is put together. -/
inductive Plan (V : Type) where
  | node (c : NodeMatcher.Plan V)
  | edge (c : EdgeMatcher.Plan)

namespace Plan

/-- The matcher that the constructors make of a plan. -/
def build : Plan V → Except InvalidPattern (Matcher V)
  | node c => do
    let m ← c.build
    pure (.node m)
  | edge c => do
    let m ← c.build
    pure (.edge m)

/-- The names of the captures in a plan of a node matcher. -/
def nodeNames : Plan V → List String
  | node c => c.names
  | edge _ => []

/-- The names of the captures in a plan of an edge matcher. -/
def edgeNames : Plan V → List String
  | node _ => []
  | edge c => c.names

end Plan

/-- The name under which a matcher records vertices. -/
def nodeName? : Matcher V → Option String
  | node m => m.name
  | edge _ => none

/-- The name under which a matcher records steps. -/
def edgeName? : Matcher V → Option String
  | node _ => none
  | edge m => m.name

namespace Plan

theorem names_eq {c : Plan V} {m : Matcher V} (h : c.build = .ok m) :
    c.nodeNames = m.nodeName?.toList ∧ c.edgeNames = m.edgeName?.toList := by
  cases c with
  | node c =>
    obtain ⟨n, hn, rfl⟩ := bind_pure_eq_ok_iff.1 h
    exact ⟨NodeMatcher.Plan.names_eq hn, rfl⟩
  | edge c =>
    obtain ⟨n, hn, rfl⟩ := bind_pure_eq_ok_iff.1 h
    exact ⟨rfl, EdgeMatcher.Plan.names_eq hn⟩

private theorem flatMap_names_eq {cs : List (Plan V)} {ms : List (Matcher V)}
    (h : cs.mapM build = .ok ms) :
    cs.flatMap nodeNames = ms.filterMap nodeName? ∧
      cs.flatMap edgeNames = ms.filterMap edgeName? := by
  induction cs generalizing ms with
  | nil =>
    obtain rfl : [] = ms := Except.ok.inj h
    exact ⟨rfl, rfl⟩
  | cons c cs ih =>
    rw [List.mapM_cons] at h
    obtain ⟨m, hm, h⟩ := bind_eq_ok_iff.1 h
    obtain ⟨ns, hns, rfl⟩ := bind_pure_eq_ok_iff.1 h
    obtain ⟨hnode, hedge⟩ := names_eq hm
    obtain ⟨hnodes, hedges⟩ := ih hns
    constructor
    · rw [List.flatMap_cons, hnode, hnodes, List.filterMap_cons]
      cases m.nodeName? <;> rfl
    · rw [List.flatMap_cons, hedge, hedges, List.filterMap_cons]
      cases m.edgeName? <;> rfl

end Plan

end Matcher

namespace Pattern

/-- The pattern whose matchers are built by plans. -/
def construct (cs : List (Matcher.Plan V)) : Except InvalidPattern (Pattern V) := do
  let ms ← cs.mapM Matcher.Plan.build
  ofMatchers ms

private theorem linksOf_matchers {position : Nat} {ms : List (Matcher V)} {links : List (Link V)}
    (h : linksOf position ms = .ok links) :
    ms = links.flatMap fun l ↦ [.edge l.edge, .node l.node] := by
  fun_induction linksOf position ms generalizing links with
  | case1 =>
    obtain rfl : [] = links := Except.ok.inj h
    rfl
  | case2 | case3 | case4 => cases h
  | case5 position m n rest ih =>
    obtain ⟨ls, hls, rfl⟩ := bind_pure_eq_ok_iff.1 h
    rw [List.flatMap_cons, ← ih hls]
    rfl

theorem matchers_of_ofMatchers {ms : List (Matcher V)} {p : Pattern V}
    (h : ofMatchers ms = .ok p) : p.matchers = ms := by
  cases ms with
  | nil => cases h
  | cons m rest =>
    cases m with
    | edge m => cases h
    | node m =>
      obtain ⟨links, hlinks, rfl⟩ := bind_pure_eq_ok_iff.1 h
      rw [matchers, ← linksOf_matchers hlinks]

private theorem filterMap_nodeName? (p : Pattern V) :
    p.matchers.filterMap Matcher.nodeName? = p.nodes.filterMap NodeMatcher.name := by
  rw [matchers, nodes, List.filterMap_cons, List.filterMap_cons, List.filterMap_flatMap,
    List.filterMap_map, List.filterMap_eq_flatMap_toList]
  rfl

private theorem filterMap_edgeName? (p : Pattern V) :
    p.matchers.filterMap Matcher.edgeName? = p.edges.filterMap EdgeMatcher.name := by
  rw [matchers, edges, List.filterMap_cons, List.filterMap_flatMap, List.filterMap_map,
    List.filterMap_eq_flatMap_toList]
  rfl

theorem names_of_construct {cs : List (Matcher.Plan V)} {p : Pattern V}
    (h : construct cs = .ok p) :
    cs.flatMap Matcher.Plan.nodeNames = p.nodes.filterMap NodeMatcher.name ∧
      cs.flatMap Matcher.Plan.edgeNames = p.edges.filterMap EdgeMatcher.name := by
  obtain ⟨ms, hms, hp⟩ := bind_eq_ok_iff.1 h
  obtain rfl := matchers_of_ofMatchers hp
  rw [← filterMap_nodeName?, ← filterMap_edgeName?]
  exact Matcher.Plan.flatMap_names_eq hms

end Pattern

/-! ## What comes on demand -/

namespace OnDemand

variable {ε α β : Type} {x : α}

private theorem mem_toList_append {s : OnDemand ε α} {t : Unit → OnDemand ε α}
    (h : x ∈ (s.append t).toList.1) : x ∈ s.toList.1 ∨ x ∈ (t ()).toList.1 := by
  induction s with
  | done => exact Or.inr h
  | broken e => exact Or.inl h
  | next a rest ih =>
    rcases List.mem_cons.1 h with rfl | h
    · exact Or.inl List.mem_cons_self
    · exact (ih () h).imp_left (List.mem_cons_of_mem a)

theorem mem_toList_each {bs : List β} {f : β → OnDemand ε α} (h : x ∈ (each bs f).toList.1) :
    ∃ b ∈ bs, x ∈ (f b).toList.1 := by
  induction bs with
  | nil => exact absurd h List.not_mem_nil
  | cons b bs ih =>
    rcases mem_toList_append h with h | h
    · exact ⟨b, List.mem_cons_self, h⟩
    · obtain ⟨c, hc, hx⟩ := ih h
      exact ⟨c, List.mem_cons_of_mem b hc, hx⟩

private theorem mem_collect {limit : Option Nat} {s : Unit → OnDemand ε α}
    (h : x ∈ (collect limit s).1) : x ∈ (s ()).toList.1 := by
  cases limit with
  | none => exact h
  | some n =>
    rw [collect, take_eq] at h
    exact List.mem_of_mem_take h

end OnDemand

namespace Pattern

variable [DecidableEq V]

/-- Every match that comes on demand completes the trail along a walk that fits. -/
theorem mem_explore {p : Pattern V} {g : Graph V} {m : NodeMatcher V} {links : List (Link V)}
    {v : V} {t : Trail V} {x : Match V} (h : x ∈ (p.explore g m links v t).toList.1) :
    ∃ ds ∈ fitting g m links v (t.steps.map Step.edge),
      t.complete p (m :: links.map Link.node) (links.map Link.edge) v ds = x := by
  fun_induction explore p g m links v t with
  | case1 => exact absurd h List.not_mem_nil
  | case2 => exact absurd h List.not_mem_nil
  | case3 m v t text hr =>
    obtain rfl := List.mem_singleton.1 h
    refine ⟨[], ?_, Trail.complete_nil hr⟩
    rw [fitting, NodeMatcher.accepts_of_matchText hr]
    exact List.mem_singleton_self []
  | case4 => exact absurd h List.not_mem_nil
  | case5 m v t text hr t' l links steps hsteps ih =>
    obtain ⟨-, rfl⟩ := Graph.incident?_eq_ok_iff.1 hsteps
    obtain ⟨d, hd, h⟩ := OnDemand.mem_toList_each h
    split at h
    · exact absurd h List.not_mem_nil
    next hunused =>
    split at h
    · exact absurd h List.not_mem_nil
    next s hs =>
    obtain ⟨ds, hds, rfl⟩ := ih d s h
    rw [Trail.steps_takeStep, List.map_cons, Trail.steps_atNode] at hds
    refine ⟨d :: ds, ?_, Trail.complete_cons hr hs ds⟩
    have hfree : d.edge ∉ t.steps.map Step.edge :=
      fun hused ↦ hunused (Trail.uses_atNode_eq_true_iff.2 hused)
    have haccepts : l.edge.accepts d = true := by rw [EdgeMatcher.accepts, hs]; rfl
    rw [fitting, NodeMatcher.accepts_of_matchText hr, Option.isSome_some, if_pos rfl,
      List.mem_flatMap]
    refine ⟨d, hd, ?_⟩
    rw [if_pos ⟨hfree, haccepts⟩]
    exact List.mem_map_of_mem hds

theorem mem_allMatches {p : Pattern V} {g : Graph V} {anchor : Option V} {x : Match V}
    (h : x ∈ (p.allMatches g anchor).toList.1) : ∃ v ds, p.Fits g v ds ∧ p.matchAlong v ds = x := by
  have hfrom (v : V) (h : x ∈ (p.matchesFrom g v).toList.1) :
      ∃ v ds, p.Fits g v ds ∧ p.matchAlong v ds = x := by
    obtain ⟨ds, hds, hx⟩ := mem_explore h
    exact ⟨v, ds, mem_walksFrom.1 hds, hx⟩
  cases anchor with
  | none =>
    obtain ⟨v, -, hv⟩ := OnDemand.mem_toList_each h
    exact hfrom v hv
  | some v =>
    by_cases hv : v ∈ g.vertices
    · rw [allMatches_of_mem p hv] at h
      exact hfrom v h
    · rw [allMatches_of_unknown p hv] at h
      exact absurd h List.not_mem_nil

/-- The matches that a search gives are among those that come on demand, whatever the limit. -/
theorem mem_allMatches_of_search {p : Pattern V} {g : Graph V} {anchor : Option V}
    {limit : Option Int} {found : List (Match V)} (h : p.search g anchor limit = .ok found)
    {x : Match V} (hx : x ∈ found) : x ∈ (p.allMatches g anchor).toList.1 := by
  obtain ⟨n, -, h⟩ := bind_eq_ok_iff.1 h
  obtain ⟨n, -, h⟩ := bind_eq_ok_iff.1 h
  rw [OnDemand.outcome] at h
  split at h
  · obtain rfl := Except.ok.inj h
    exact OnDemand.mem_collect hx
  · cases h

end Pattern

/-! ## The names of a match -/

theorem map_fst_records {M α : Type} {name : M → Option String} {text : M → α → Option String}
    {ms : List M} {xs : List α} (h : List.Forall₂ (fun m x ↦ (text m x).isSome = true) ms xs) :
    (records name text ms xs).map Prod.fst = ms.filterMap name := by
  induction h with
  | nil => rfl
  | @cons m x ms xs hx _ ih =>
    obtain ⟨s, hs⟩ := Option.isSome_iff_exists.1 hx
    rw [records_cons, List.map_append, ih, List.filterMap_cons]
    cases hm : name m <;> simp [records, hm, hs]

/-- A match along a walk from `v` of a pattern built by the plans `cs` has lost no capture. -/
structure Match.Keeps (cs : List (Matcher.Plan V)) (v : V) (m : Match V) : Prop where
  /-- Vertices are recorded under all the names in the plans of node matchers, by first
  occurrence. -/
  node_names : m.nodes.keys = distinct (cs.flatMap Matcher.Plan.nodeNames)
  /-- Steps are recorded under all the names in the plans of edge matchers, by first occurrence. -/
  edge_names : m.edges.keys = distinct (cs.flatMap Matcher.Plan.edgeNames)
  /-- Under a name is the vertex that the last node matcher so named was asked about, with the text
  that it reports. -/
  node_captures : ∀ a c, m.nodes.get? a = some c ↔
    LastNamed NodeMatcher.name NodeMatcher.text? a m.pattern.nodes (Walk.visits v m.walk.steps) c
  /-- Under a name is the step that the last edge matcher so named was asked about, with the text
  that it reports. -/
  edge_captures : ∀ a c, m.edges.get? a = some c ↔
    LastNamed EdgeMatcher.name EdgeMatcher.matchText a m.pattern.edges m.walk.steps c

namespace Pattern

theorem keeps_matchAlong {cs : List (Matcher.Plan V)} {p : Pattern V} (hp : construct cs = .ok p)
    {g : Graph V} {v : V} {ds : List (Step V)} (h : p.Fits g v ds) :
    (p.matchAlong v ds).Keeps cs v := by
  obtain ⟨hnodes, hedges⟩ := names_of_construct hp
  constructor
  case node_names =>
    rw [matchAlong, InsertionMap.keys_ofList, hnodes, nodeRecords,
      map_fst_records h.nodes_accepted]
  case edge_names =>
    rw [matchAlong, InsertionMap.keys_ofList, hedges, edgeRecords,
      map_fst_records h.steps_accepted]
  case node_captures =>
    intro a c
    rw [matchAlong, InsertionMap.get?_ofList]
    exact lastOf_records_eq_some_iff h.nodes_accepted
  case edge_captures =>
    intro a c
    rw [matchAlong, InsertionMap.get?_ofList]
    exact lastOf_records_eq_some_iff h.steps_accepted

variable [DecidableEq V]

/-- **No capture is lost.** A pattern is built by any plans that the constructors accept. Every
match that its search yields, before a fault too and whatever the limit, has recorded all the
captures in the plans. -/
theorem search_keeps_captures {cs : List (Matcher.Plan V)} {p : Pattern V}
    (hp : construct cs = .ok p) (g : Graph V) (anchor : Option V) :
    (∀ m ∈ (p.allMatches g anchor).toList.1, m.pattern = p ∧ ∃ v, m.Keeps cs v) ∧
      ∀ limit found, p.search g anchor limit = .ok found →
        ∀ m ∈ found, m.pattern = p ∧ ∃ v, m.Keeps cs v := by
  have hall : ∀ m ∈ (p.allMatches g anchor).toList.1, m.pattern = p ∧ ∃ v, m.Keeps cs v := by
    intro m hm
    obtain ⟨v, ds, hfits, rfl⟩ := mem_allMatches hm
    exact ⟨rfl, v, keeps_matchAlong hp hfits⟩
  exact ⟨hall, fun limit found h m hm ↦ hall m (mem_allMatches_of_search h hm)⟩

/-- Plans with a capture around a conjunction, one around a demand on the direction, and a name that
is used twice. -/
def loopPlans : List (Matcher.Plan String) :=
  [.node (.captured "x" (.conjunction
      [.test (.holds "short" fun s ↦ .ok (s.length == 1)), .test .any])),
    .edge (.captured "e" (.directed .down (.test (.label "r")))),
    .node (.captured "x" (.test .any))]

theorem search_keeps_captures_loop :
    ∃ p, construct loopPlans = .ok p ∧ (p.allMatches loopGraph none).toList.1.length = 3 ∧
      (∀ m ∈ (p.allMatches loopGraph none).toList.1, m.pattern = p ∧ ∃ v, m.Keeps loopPlans v) ∧
        ∀ limit found, p.search loopGraph none limit = .ok found →
          ∀ m ∈ found, m.pattern = p ∧ ∃ v, m.Keeps loopPlans v :=
  ⟨_, rfl, by decide, search_keeps_captures rfl loopGraph none⟩

end Pattern

end Motif
