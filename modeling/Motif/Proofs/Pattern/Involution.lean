import Motif.Proofs.Matcher.Construction
import Motif.Proofs.Search.Reflection

/-!
# Reflecting twice

A reflection has the matchers of the pattern from its end, with the edge matchers flipped. Flipping
calls the constructors again: it goes through a capture and puts the capture around what it gets,
and where it finds a demand on the direction it puts the opposite demand around the same matcher.
So the plan of a matcher gives a plan of the flipped one (`EdgeMatcher.Plan.turned`), which can be
built if the first can, and the plans of a pattern, turned and in the opposite order, build the
reflection. No constructor objects to that (`Pattern.construct_turned`).

All of a pattern is in its sequence of matchers, and to turn that around twice changes nothing
(`Pattern.reflection_reflection`).
-/

namespace Motif

variable {V : Type}

/-! ## Plans of flipped matchers -/

namespace EdgeMatcher

/-- The plan of the flipped matcher. Only the outermost demand on the direction is turned. -/
def Plan.turned : Plan → Plan
  | test t => test t
  | directed d inner => directed d.flip inner
  | captured name inner => captured name inner.turned

theorem Plan.build_turned {c : Plan} {m : EdgeMatcher} (h : c.build = .ok m) :
    c.turned.build = .ok m.flip := by
  induction c generalizing m with
  | test t =>
    obtain rfl : ofTest t = m := Except.ok.inj h
    rfl
  | directed d inner _ =>
    obtain ⟨n, hn, hm⟩ := bind_eq_ok_iff.1 h
    obtain ⟨hname, rfl⟩ := directed_eq_ok_iff.1 hm
    exact bind_eq_ok_iff.2 ⟨n, hn, directed_eq_ok_iff.2 ⟨hname, rfl⟩⟩
  | captured name inner ih =>
    obtain ⟨n, hn, hm⟩ := bind_eq_ok_iff.1 h
    obtain ⟨hname, rfl⟩ := captured_eq_ok_iff.1 hm
    refine bind_eq_ok_iff.2 ⟨n.flip, ih hn, captured_eq_ok_iff.2 ⟨?_, ?_⟩⟩
    · rw [name_flip, hname]
    · obtain ⟨name', directions, t⟩ := n
      cases directions <;> rfl

@[simp] theorem base_flip (m : EdgeMatcher) : m.flip.base = m.base := by
  rw [base, base, test_flip]

end EdgeMatcher

namespace Matcher

/-- The matcher seen from the other side. Node matchers look alike from both. -/
def turned : Matcher V → Matcher V
  | node m => .node m
  | edge m => .edge m.flip

@[simp] private theorem turned_turned (m : Matcher V) : m.turned.turned = m := by
  cases m with
  | node m => rfl
  | edge m => rw [turned, turned, EdgeMatcher.flip_flip]

@[simp] private theorem capture?_turned (m : Matcher V) : m.turned.capture? = m.capture? := by
  cases m with
  | node m => rfl
  | edge m => exact m.name_flip

/-- The plan of the matcher seen from the other side. -/
def Plan.turned : Plan V → Plan V
  | node c => .node c
  | edge c => .edge c.turned

theorem Plan.build_turned {c : Plan V} {m : Matcher V} (h : c.build = .ok m) :
    c.turned.build = .ok m.turned := by
  cases c with
  | node c =>
    obtain ⟨n, -, rfl⟩ := bind_pure_eq_ok_iff.1 h
    exact h
  | edge c =>
    obtain ⟨n, hn, rfl⟩ := bind_pure_eq_ok_iff.1 h
    exact bind_pure_eq_ok_iff.2 ⟨n.flip, EdgeMatcher.Plan.build_turned hn, rfl⟩

end Matcher

/-! ## Sequences of matchers -/

namespace Pattern

variable {p q : Pattern V}

theorem eq_of_matchers (h : p.matchers = q.matchers) : p = q := by
  have hp := ofMatchers_matchers p
  rw [h, ofMatchers_matchers] at hp
  exact (Except.ok.inj hp).symm

private theorem matchers_reversedLinks (last : NodeMatcher V) (done links : List (Link V)) :
    matchers ⟨(reversedLinks last done links).1, (reversedLinks last done links).2⟩ =
      ((links.flatMap fun l ↦ [.edge l.edge, .node l.node]).map Matcher.turned).reverse ++
        matchers ⟨last, done⟩ := by
  induction links generalizing last done with
  | nil => rfl
  | cons l links ih =>
    rw [reversedLinks, ih, List.flatMap_cons, List.map_append, List.reverse_append,
      List.append_assoc]
    rfl

@[simp] theorem matchers_reflection (p : Pattern V) :
    p.reflection.matchers = (p.matchers.map Matcher.turned).reverse := by
  obtain ⟨first, links⟩ := p
  rw [reflection, matchers_reversedLinks, matchers, matchers, List.map_cons, List.reverse_cons]
  rfl

@[simp] theorem captures_reflection (p : Pattern V) :
    p.reflection.captures = p.captures.reverse := by
  have hcapture : Matcher.capture? ∘ Matcher.turned (V := V) = Matcher.capture? :=
    funext Matcher.capture?_turned
  rw [captures, captures, matchers_reflection, List.filterMap_reverse, List.filterMap_map, hcapture]

@[simp] theorem baseEdges_reflection (p : Pattern V) :
    p.reflection.baseEdges = p.baseEdges.reverse := by
  have hbase : EdgeMatcher.base ∘ EdgeMatcher.flip = EdgeMatcher.base :=
    funext EdgeMatcher.base_flip
  rw [baseEdges, baseEdges, edges_reflection, List.map_reverse, List.map_map, hbase]

@[simp] theorem reflection_reflection (p : Pattern V) : p.reflection.reflection = p := by
  have hturned : Matcher.turned ∘ Matcher.turned (V := V) = id := funext Matcher.turned_turned
  apply eq_of_matchers
  rw [matchers_reflection, matchers_reflection, List.map_reverse, List.reverse_reverse,
    List.map_map, hturned, List.map_id]

/-! ## Equal patterns have equal reflections -/

/-- Patterns are equal if they have the same edge matchers and the same signatures of nodes. -/
theorem signature_eq_iff : p.signature = q.signature ↔
    p.edges = q.edges ∧ p.nodes.map NodeMatcher.signature = q.nodes.map NodeMatcher.signature := by
  have hlinks (p : Pattern V) : p.signature.links =
      p.edges.zip (p.links.map fun l ↦ l.node.signature) := List.zip_map'.symm
  have hnodes (p : Pattern V) : p.nodes.map NodeMatcher.signature =
      p.first.signature :: p.links.map fun l ↦ l.node.signature := by
    rw [nodes, List.map_cons, List.map_map]
    rfl
  constructor
  · intro h
    have hedges := congrArg (fun s ↦ s.links.map Prod.fst) h
    have hrest := congrArg (fun s ↦ s.links.map Prod.snd) h
    rw [signature, signature, List.map_map, List.map_map] at hedges hrest
    rw [hnodes, hnodes]
    exact ⟨hedges, congrArg₂ List.cons (congrArg Signature.first h) hrest⟩
  · rintro ⟨hedges, hsignatures⟩
    rw [hnodes, hnodes] at hsignatures
    obtain ⟨hfirst, hrest⟩ := List.cons_eq_cons.1 hsignatures
    have hlinked : p.signature.links = q.signature.links := by
      rw [hlinks, hlinks, hedges, hrest]
    exact congrArg₂ Signature.mk hfirst hlinked

@[simp] theorem same_reflection (p q : Pattern V) : p.reflection.same q.reflection = p.same q := by
  have hflip : Function.Injective EdgeMatcher.flip :=
    Function.LeftInverse.injective EdgeMatcher.flip_flip
  rw [Bool.eq_iff_iff, same, same, beq_iff_eq, beq_iff_eq, signature_eq_iff, signature_eq_iff,
    edges_reflection, edges_reflection, nodes_reflection, nodes_reflection, List.reverse_inj,
    List.map_reverse, List.map_reverse, List.reverse_inj, hflip.list_map.eq_iff]

/-! ## Plans of reflections -/

theorem construct_turned {cs : List (Matcher.Plan V)} (h : construct cs = .ok p) :
    construct (cs.map Matcher.Plan.turned).reverse = .ok p.reflection := by
  obtain ⟨ms, hms, hp⟩ := bind_eq_ok_iff.1 h
  obtain rfl := matchers_of_ofMatchers hp
  have hbuild : (cs.map Matcher.Plan.turned).reverse.mapM Matcher.Plan.build =
      .ok p.reflection.matchers := by
    rw [matchers_reflection, mapM_eq_ok_iff, List.forall₂_reverse_iff, List.forall₂_map_left_iff,
      List.forall₂_map_right_iff]
    exact (mapM_eq_ok_iff.1 hms).imp fun c m ↦ Matcher.Plan.build_turned
  rw [construct, hbuild, ok_bind, ofMatchers_matchers]

/-- **Reflecting is a total involution.** Whatever the constructors make of plans, they make its
reflection of the turned plans without an objection. The reflection has the node matchers from the
end, the edge matchers from the end and flipped, with the same tests, and the same captures. The
reflection of it is the pattern again, so that it is searched for alike. -/
theorem reflection_exact [DecidableEq V] {cs : List (Matcher.Plan V)} (h : construct cs = .ok p) :
    construct (cs.map Matcher.Plan.turned).reverse = .ok p.reflection ∧
      p.reflection.nodes = p.nodes.reverse ∧
      p.reflection.edges = (p.edges.map EdgeMatcher.flip).reverse ∧
      p.reflection.baseEdges = p.baseEdges.reverse ∧
      p.reflection.captures = p.captures.reverse ∧
      p.reflection.reflection = p ∧
      ∀ g anchor limit, p.reflection.reflection.search g anchor limit = p.search g anchor limit :=
  ⟨construct_turned h, nodes_reflection p, edges_reflection p, baseEdges_reflection p,
    captures_reflection p, reflection_reflection p,
    fun g anchor limit ↦ by rw [reflection_reflection]⟩

/-- Plans with two demands inside a capture, one demand, and none. -/
def nestedPlans : List (Matcher.Plan String) :=
  [.node (.captured "a" (.test .any)),
    .edge (.captured "e" (.directed .up (.directed .down (.test (.label "r"))))),
    .node (.test .any), .edge (.directed .down (.test .any)),
    .node (.captured "b" (.conjunction [.test .any, .test (.holds "p" fun s ↦ .ok (s == "p"))])),
    .edge (.test (.label "s")), .node (.test .any)]

theorem reflection_exact_nested :
    ∃ p, construct nestedPlans = .ok p ∧
      construct (nestedPlans.map Matcher.Plan.turned).reverse = .ok p.reflection ∧
      p.reflection.captures = ["b", "e", "a"] ∧ p.reflection.reflection = p := by
  obtain ⟨p, hp, hcaptures⟩ : ∃ p, construct nestedPlans = .ok p ∧ p.captures = ["a", "e", "b"] :=
    ⟨_, rfl, rfl⟩
  obtain ⟨hconstruct, -, -, -, hreversed, htwice, -⟩ := reflection_exact hp
  rw [hcaptures] at hreversed
  exact ⟨p, hp, hconstruct, hreversed, htwice⟩

end Pattern

end Motif
