import Motif.Graph.Walk

/-!
# Walks from the other end

To take a walk apart step by step one has to know where it begins, also when no step is left.
`Walk.ConnectedFrom`, `Walk.visits` and `Walk.finishFrom` are therefore about steps from a given
vertex: whether they meet, which vertices they visit and where they end. If that vertex is the start
of a first step, they agree with `Walk.Connected`, `Walk.nodes` and `Walk.finish?`.

The vertices of a walk are listed unevenly: where the first step starts, then where each step ends.
From the other end the steps end where they started, and what is listed is the end of the walk and
then all the starts, last to first. So the one list is the other in the opposite order if each step
starts where the one before it ended, and not otherwise (`Walk.visits_turn_iff`). All that
`Walk.reverse` does to a sequence of steps is in `Walk.reverse_exact`.
-/

namespace Motif

namespace Walk

variable {V : Type}

/-- The steps of a walk meet, and the first of them leaves the vertex `v`. -/
def ConnectedFrom (v : V) (ds : List (Step V)) : Prop :=
  (∀ d ∈ ds.head?, d.start = v) ∧ ConsecutiveMeet ds

/-- The vertices that a walk from `v` visits, also if it has no steps. -/
def visits (v : V) (ds : List (Step V)) : List V := v :: ds.map Step.finish

/-- The vertex at which the steps from `v` end. -/
def finishFrom : V → List (Step V) → V
  | v, [] => v
  | _, d :: ds => finishFrom d.finish ds

/-- The steps from the other end. -/
def turn (ds : List (Step V)) : List (Step V) := ds.reverse.map Step.flip

variable {v : V} {d : Step V} {ds es : List (Step V)}

/-! ## Steps from a vertex -/

@[simp] theorem connectedFrom_nil : ConnectedFrom v [] := ⟨by simp, trivial⟩

@[simp] theorem connectedFrom_cons :
    ConnectedFrom v (d :: ds) ↔ d.start = v ∧ ConnectedFrom d.finish ds := by
  cases ds with
  | nil => simp [ConnectedFrom, ConsecutiveMeet]
  | cons e ds => simp [ConnectedFrom, ConsecutiveMeet, eq_comm]

private theorem finishFrom_append : finishFrom v (ds ++ es) = finishFrom (finishFrom v ds) es := by
  induction ds generalizing v with
  | nil => rfl
  | cons d ds ih => exact ih

private theorem connectedFrom_append :
    ConnectedFrom v (ds ++ es) ↔ ConnectedFrom v ds ∧ ConnectedFrom (finishFrom v ds) es := by
  induction ds generalizing v with
  | nil => exact (and_iff_right connectedFrom_nil).symm
  | cons d ds ih =>
    rw [List.cons_append, connectedFrom_cons, connectedFrom_cons, ih, and_assoc]
    rfl

@[simp] private theorem visits_cons : visits v (d :: ds) = v :: visits d.finish ds := rfl

private theorem visits_append : visits v (ds ++ es) = visits v ds ++ es.map Step.finish := by
  rw [visits, visits, List.map_append, List.cons_append]

/-! ## Steps from the other end -/

@[simp] theorem turn_cons : turn (d :: ds) = turn ds ++ [d.flip] := by
  rw [turn, List.reverse_cons, List.map_append, ← turn]
  rfl

@[simp] theorem turn_turn (ds : List (Step V)) : turn (turn ds) = ds := by
  simp [turn, Function.comp_def]

@[simp] theorem map_edge_turn (ds : List (Step V)) :
    (turn ds).map Step.edge = (ds.map Step.edge).reverse := by
  rw [turn, List.map_map, ← List.map_reverse]
  rfl

theorem finishFrom_turn (h : ConnectedFrom v ds) : finishFrom (finishFrom v ds) (turn ds) = v := by
  induction ds generalizing v with
  | nil => rfl
  | cons d ds ih =>
    obtain ⟨hstart, hrest⟩ := connectedFrom_cons.1 h
    rw [finishFrom, turn_cons, finishFrom_append, ih hrest, ← hstart]
    exact d.finish_flip

theorem connectedFrom_turn (h : ConnectedFrom v ds) :
    ConnectedFrom (finishFrom v ds) (turn ds) := by
  induction ds generalizing v with
  | nil => exact connectedFrom_nil
  | cons d ds ih =>
    obtain ⟨-, hrest⟩ := connectedFrom_cons.1 h
    rw [finishFrom, turn_cons, connectedFrom_append, finishFrom_turn hrest, connectedFrom_cons]
    exact ⟨ih hrest, d.start_flip, connectedFrom_nil⟩

/-- From the end the same vertices are visited in the opposite order exactly if the steps meet. -/
theorem visits_turn_iff :
    visits (finishFrom v ds) (turn ds) = (visits v ds).reverse ↔ ConnectedFrom v ds := by
  induction ds generalizing v with
  | nil => exact iff_of_true rfl connectedFrom_nil
  | cons d ds ih =>
    -- The first step is the last from the other end: where it started has to be the start `v`.
    have hturned : visits (finishFrom v (d :: ds)) (turn (d :: ds)) =
        visits (finishFrom d.finish ds) (turn ds) ++ [d.start] := by
      rw [finishFrom, turn_cons, visits_append, List.map_singleton, d.finish_flip]
    have hreversed : (visits v (d :: ds)).reverse = (visits d.finish ds).reverse ++ [v] := by
      rw [visits_cons, List.reverse_cons]
    rw [hturned, hreversed, connectedFrom_cons, and_comm, ← ih]
    constructor
    · intro h
      obtain ⟨hrest, hstart⟩ := List.append_inj' h rfl
      exact ⟨hrest, List.singleton_inj.1 hstart⟩
    · rintro ⟨hrest, hstart⟩
      rw [hrest, hstart]

/-! ## Reversing a walk -/

variable {w : Walk V}

theorem eq_empty_or_exists_start? (w : Walk V) : w = ⟨[]⟩ ∨ ∃ v, w.start? = some v := by
  obtain ⟨_ | ⟨d, ds⟩⟩ := w
  · exact Or.inl rfl
  · exact Or.inr ⟨d.start, rfl⟩

theorem connected_iff_of_start? (h : w.start? = some v) :
    w.Connected ↔ ConnectedFrom v w.steps := by
  obtain ⟨d, hd, rfl⟩ := Option.map_eq_some_iff.1 h
  have hhead : ∀ e ∈ w.steps.head?, e.start = d.start := by
    intro e he
    rw [hd, Option.mem_some_iff] at he
    rw [he]
  exact (and_iff_right hhead).symm

private theorem nodes_of_start? (h : w.start? = some v) : w.nodes = visits v w.steps := by
  obtain ⟨_ | ⟨d, ds⟩⟩ := w
  · cases h
  · obtain rfl : d.start = v := Option.some.inj h
    rfl

private theorem finish?_cons : finish? ⟨d :: ds⟩ = some (finishFrom v (d :: ds)) := by
  induction ds generalizing d with
  | nil => rfl
  | cons e ds ih =>
    have hlast : finish? ⟨d :: e :: ds⟩ = finish? ⟨e :: ds⟩ := by
      rw [finish?, finish?, List.getLast?_cons_cons]
    rw [hlast, ih]
    rfl

theorem finish?_of_start? (h : w.start? = some v) : w.finish? = some (finishFrom v w.steps) := by
  obtain ⟨_ | ⟨d, ds⟩⟩ := w
  · cases h
  · exact finish?_cons

@[simp] theorem start?_reverse (w : Walk V) : w.reverse.start? = w.finish? := by
  rw [start?, finish?, reverse, List.head?_map, List.head?_reverse, Option.map_map]
  exact congrArg (Option.map · _) (funext Step.start_flip)

@[simp] theorem finish?_reverse (w : Walk V) : w.reverse.finish? = w.start? := by
  rw [← start?_reverse, reverse_reverse]

theorem start?_reverse_of_start? (h : w.start? = some v) :
    w.reverse.start? = some (finishFrom v w.steps) := by
  rw [start?_reverse, finish?_of_start? h]

@[simp] theorem edges_reverse (w : Walk V) :
    w.reverse.edges = w.edges.reverse := map_edge_turn w.steps

theorem connected_reverse (h : w.Connected) : w.reverse.Connected := by
  rcases eq_empty_or_exists_start? w with rfl | ⟨v, hstart⟩
  · exact h
  · have hsteps := (connected_iff_of_start? hstart).1 h
    exact (connected_iff_of_start? (start?_reverse_of_start? hstart)).2 (connectedFrom_turn hsteps)

@[simp] theorem connected_reverse_iff : w.reverse.Connected ↔ w.Connected := by
  constructor
  · intro h
    have hback := connected_reverse h
    rwa [reverse_reverse] at hback
  · exact connected_reverse

/-- The vertices are those of the walk in the opposite order exactly if the steps meet. -/
theorem nodes_reverse_iff : w.reverse.nodes = w.nodes.reverse ↔ w.Connected := by
  rcases eq_empty_or_exists_start? w with rfl | ⟨v, hstart⟩
  · exact iff_of_true rfl trivial
  · rw [nodes_of_start? (start?_reverse_of_start? hstart), nodes_of_start? hstart,
      connected_iff_of_start? hstart]
    exact visits_turn_iff

/-- **Reversing a walk.** A sequence of steps is a walk, each step beginning where the one before it
ended, exactly if it is one from the other end, and exactly then the vertices are visited in the
opposite order. The two ends are exchanged if there are any. Whether it is a walk or not, reversing
twice gives it back, and the edges below it are passed in the opposite order. -/
theorem reverse_exact (w : Walk V) :
    (w.reverse.Connected ↔ w.Connected) ∧
      (w.reverse.nodes = w.nodes.reverse ↔ w.Connected) ∧
      (w.steps ≠ [] → ∃ u v, w.start? = some u ∧ w.finish? = some v ∧
        w.reverse.start? = some v ∧ w.reverse.finish? = some u) ∧
      w.reverse.reverse = w ∧ w.reverse.edges = w.edges.reverse := by
  refine ⟨connected_reverse_iff, nodes_reverse_iff, fun hsteps ↦ ?_, reverse_reverse w,
    edges_reverse w⟩
  rcases eq_empty_or_exists_start? w with rfl | ⟨u, hstart⟩
  · exact absurd rfl hsteps
  · refine ⟨u, finishFrom u w.steps, hstart, finish?_of_start? hstart,
      start?_reverse_of_start? hstart, ?_⟩
    rw [finish?_reverse, hstart]

/-- A walk that takes a self-loop against its direction and passes its start again. -/
def loopWalk : Walk String :=
  ⟨[⟨⟨"a", "b", "r"⟩, .down⟩, ⟨⟨"b", "b", "s"⟩, .up⟩, ⟨⟨"a", "b", "t"⟩, .up⟩,
    ⟨⟨"c", "a", "r"⟩, .up⟩]⟩

theorem reverse_exact_loop :
    loopWalk.Connected ∧ loopWalk.nodes = ["a", "b", "b", "a", "c"] ∧ loopWalk.steps ≠ [] ∧
      loopWalk.reverse.Connected ∧ loopWalk.reverse.nodes = ["c", "a", "b", "b", "a"] ∧
      loopWalk.reverse.start? = some "c" ∧ loopWalk.reverse.finish? = some "a" := by
  have hconnected : loopWalk.Connected := ⟨rfl, rfl, rfl, trivial⟩
  have hsteps : loopWalk.steps ≠ [] := List.cons_ne_nil _ _
  obtain ⟨hreverse, hnodes, hends, -, -⟩ := reverse_exact loopWalk
  obtain ⟨u, v, hstart, hfinish, hstart', hfinish'⟩ := hends hsteps
  obtain rfl : "a" = u := Option.some.inj hstart
  obtain rfl : "c" = v := Option.some.inj hfinish
  exact ⟨hconnected, rfl, hsteps, hreverse.2 hconnected, hnodes.2 hconnected, hstart', hfinish'⟩

end Walk

end Motif
