import Motif.Proofs.Search.Captures

/-!
# Matchers are what constructors make

Matchers are kept in a form that leaves no room for what the constructors refuse: one capture at
most, around everything else, and a conjunction of pairwise distinct tests. Read from the inside out
this form is a plan, and the constructors make the matcher of it without an objection. So whatever
is written down in this form, such as what is read from a text, has been built in the sense that the
constructors give to it (`Pattern.construct_plans`).
-/

namespace Motif

variable {V : Type}

/-! ## Matchers -/

namespace EdgeMatcher

/-- The test of the label, the demands on the direction around it, and the capture around these. -/
def plan (m : EdgeMatcher) : Plan :=
  let demands := m.directions.foldr Plan.directed (.test m.test)
  match m.name with
  | none => demands
  | some a => .captured a demands

@[simp] private theorem build_demands (directions : List Direction) (t : LabelTest) :
    (directions.foldr Plan.directed (.test t)).build = .ok ⟨none, directions, t⟩ := by
  induction directions with
  | nil => rfl
  | cons d directions ih =>
    rw [List.foldr_cons, Plan.build, ih, ok_bind]
    rfl

theorem build_plan (m : EdgeMatcher) : m.plan.build = .ok m := by
  obtain ⟨name, directions, t⟩ := m
  cases name with
  | none => exact build_demands directions t
  | some a =>
    rw [plan, Plan.build, build_demands, ok_bind]
    rfl

end EdgeMatcher

namespace NodeMatcher

/-- The test, or the conjunction of the tests if there are several, and the capture around it. -/
def plan (m : NodeMatcher V) : Plan V :=
  let tests :=
    match m.tests with
    | [t] => .test t
    | ts => .conjunction (ts.map .test)
  match m.name with
  | none => tests
  | some a => .captured a tests

@[simp] private theorem buildAll_tests (ts : List (NodeTest V)) :
    Plan.buildAll (ts.map .test) = .ok (ts.map ofTest) := by
  induction ts with
  | nil => rfl
  | cons t ts ih =>
    rw [List.map_cons, Plan.buildAll, ih]
    rfl

theorem conjunction_of_distinct {ts : List (NodeTest V)} (hlength : 2 ≤ ts.length)
    (hdistinct : (ts.map NodeTest.expression?).Nodup) (hne : ts ≠ []) :
    conjunction (ts.map ofTest) = .ok ⟨none, ts, hne, hdistinct⟩ := by
  have hsignatures : ((ts.map ofTest).map signature).Nodup := by
    have hsignature : signature ∘ ofTest (V := V) =
        (fun e ↦ (none, [e])) ∘ NodeTest.expression? := rfl
    rw [List.map_map, hsignature, ← List.map_map]
    exact List.Pairwise.map _
      (fun e e' hdiffer h ↦ hdiffer (List.head_eq_of_cons_eq (Prod.mk.inj h).2)) hdistinct
  have hcount : ¬ (ts.map ofTest).length < 2 := by
    rw [List.length_map]
    omega
  -- A single test is no conjunction and has no name.
  have hmembers : ¬ ((ts.map ofTest).any fun m ↦ m.name.isNone && m.isConjunction) = true := by
    simp [ofTest, isConjunction]
  have hnames : (ts.map ofTest).findSome? NodeMatcher.name = none := by
    simp [ofTest]
  have htests : (ts.map ofTest).flatMap NodeMatcher.tests = ts := by
    rw [List.flatMap_map]
    exact List.flatMap_singleton' ts
  simp only [conjunction, distinctBy_eq_self signature hsignatures]
  rw [dif_neg hcount, if_neg hmembers]
  split
  · next hname => exact absurd (hname.symm.trans hnames) (by simp)
  · simp only [ofTests, htests, distinctBy_eq_self _ hdistinct]

theorem build_plan (m : NodeMatcher V) : m.plan.build = .ok m := by
  obtain ⟨name, tests, hne, hdistinct⟩ := m
  have htests : (plan ⟨none, tests, hne, hdistinct⟩).build = .ok ⟨none, tests, hne, hdistinct⟩ := by
    match tests with
    | [t] => rfl
    | t :: t' :: ts =>
      have hlength : 2 ≤ (t :: t' :: ts).length := by simp
      rw [plan]
      dsimp only
      rw [Plan.build, buildAll_tests, ok_bind, conjunction_of_distinct hlength hdistinct hne]
  cases name with
  | none => exact htests
  | some a =>
    rw [plan] at htests ⊢
    dsimp only at htests ⊢
    rw [Plan.build, htests, ok_bind]
    rfl

end NodeMatcher

namespace Matcher

def plan : Matcher V → Plan V
  | node m => .node m.plan
  | edge m => .edge m.plan

theorem build_plan (m : Matcher V) : m.plan.build = .ok m := by
  cases m with
  | node m =>
    rw [plan, Plan.build, m.build_plan]
    rfl
  | edge m =>
    rw [plan, Plan.build, m.build_plan]
    rfl

end Matcher

/-! ## Patterns -/

namespace Pattern

def plans (p : Pattern V) : List (Matcher.Plan V) := p.matchers.map Matcher.plan

@[simp] private theorem linksOf_flatMap (position : Nat) (links : List (Link V)) :
    linksOf position (links.flatMap fun l ↦ [.edge l.edge, .node l.node]) = .ok links := by
  induction links generalizing position with
  | nil => rfl
  | cons l links ih =>
    rw [List.flatMap_cons, List.cons_append, List.singleton_append, linksOf, ih]
    rfl

@[simp] theorem ofMatchers_matchers (p : Pattern V) : ofMatchers p.matchers = .ok p := by
  rw [matchers, ofMatchers, linksOf_flatMap]
  rfl

/-- **The constructors make every pattern**, without an objection. -/
theorem construct_plans (p : Pattern V) : construct p.plans = .ok p := by
  have hbuild : p.plans.mapM Matcher.Plan.build = .ok p.matchers := by
    rw [plans, List.mapM_map]
    have h := @mapM_eq_ok _ _ _ (Matcher.Plan.build ∘ Matcher.plan) id p.matchers
      fun m _ ↦ m.build_plan
    rwa [List.map_id] at h
  rw [construct, hbuild, ok_bind, ofMatchers_matchers]

end Pattern

end Motif
