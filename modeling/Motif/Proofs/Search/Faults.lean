import Motif.Proofs.Search.Exact

/-!
# How a search breaks off

A search begins at a vertex of the graph, and every step it takes stays in the graph, so asking for
the steps of a vertex never fails on the way. What breaks off a search from such a vertex is a node
test that gives no answer there, and its fault is reported as it leaves a sequence
(`Pattern.fault_allMatches`).

Under a limit the search goes no further than the last match that is asked for, and faults behind
that are not met. Two things set bounds to this. A limit above `maxLimit` cannot be asked for, and a
search for no matches at all does not even look at its anchor.
-/

namespace Motif

variable {V : Type}

namespace OnDemand

variable {ε α β : Type} {e : ε}

private theorem fault_append {s : OnDemand ε α} {t : Unit → OnDemand ε α}
    (h : (s.append t).toList.2 = some e) : s.toList.2 = some e ∨ (t ()).toList.2 = some e := by
  induction s with
  | done => exact Or.inr h
  | broken e' => exact Or.inl h
  | next a rest ih => exact ih () h

/-- A fault of several sequences one after the other is a fault of one of them. -/
theorem fault_each {bs : List β} {f : β → OnDemand ε α} (h : (each bs f).toList.2 = some e) :
    ∃ b ∈ bs, (f b).toList.2 = some e := by
  induction bs with
  | nil => cases h
  | cons b bs ih =>
    rcases fault_append h with h | h
    · exact ⟨b, List.mem_cons_self, h⟩
    · obtain ⟨c, hc, hfault⟩ := ih h
      exact ⟨c, List.mem_cons_of_mem b hc, hfault⟩

/-- What asking for at most `n` items should come to, given the items that there are and the fault
that comes behind them, if any. -/
structure Capped (n : Nat) (all : List α × Option ε) (r : Except ε (List α)) : Prop where
  /-- If there are enough items, the first of them are given, whatever comes behind. -/
  enough : n ≤ all.1.length → r = .ok (all.1.take n)
  /-- If there are fewer and then an end, all of them are given. -/
  ended : all.1.length < n → all.2 = none → r = .ok all.1
  /-- If there are fewer and then a fault, this fault is given. -/
  broken : ∀ fault, all.1.length < n → all.2 = some fault → r = .error fault

private theorem capped_outcome_take (n : Nat) (s : Unit → OnDemand ε α) :
    Capped n (s ()).toList (outcome (take n s)) := by
  rw [take_eq]
  constructor
  case enough =>
    intro hn
    rw [if_pos hn]
    rfl
  case ended =>
    intro hn hend
    rw [if_neg (Nat.not_le.2 hn), hend, List.take_of_length_le (Nat.le_of_lt hn)]
    rfl
  case broken =>
    intro fault hn hfault
    rw [if_neg (Nat.not_le.2 hn), hfault]
    rfl

private theorem Capped.eq_of_error {n : Nat} {all : List α × Option ε} {fault : ε}
    (h : Capped n all (.error fault)) : all.2 = some fault := by
  rcases Nat.lt_or_ge all.1.length n with hn | hn
  · cases hend : all.2 with
    | none => exact nomatch h.ended hn hend
    | some fault' => rw [Except.error.inj (h.broken fault' hn hend)]
  · exact nomatch h.enough hn

end OnDemand

namespace Pattern

/-- A node test of the pattern gives no answer at a vertex of the graph, with this fault. -/
def FailsWith (p : Pattern V) (g : Graph V) (f : FieldFault) : Prop :=
  ∃ m ∈ p.nodes, ∃ v ∈ g.vertices, m.matchText v = .error f

private theorem FaultFree.not_failsWith {p : Pattern V} {g : Graph V} (h : p.FaultFree g)
    (f : FieldFault) : ¬ p.FailsWith g f := by
  rintro ⟨m, hm, v, hv, hfault⟩
  obtain ⟨r, hr⟩ := h m hm v hv
  exact nomatch hr.symm.trans hfault

variable [DecidableEq V]

/-- From a vertex of the graph, nothing breaks off a search but a test that fails. -/
theorem fault_explore {p : Pattern V} {g : Graph V} {m : NodeMatcher V} {links : List (Link V)}
    {v : V} {t : Trail V} {fault : SearchFault V} (hv : v ∈ g.vertices)
    (h : (p.explore g m links v t).toList.2 = some fault) :
    ∃ f, fault = .test f.inSequence ∧ FailsWith ⟨m, links⟩ g f := by
  fun_induction explore p g m links v t with
  | case1 m links v t f hr =>
    exact ⟨f, (Option.some_inj.1 h).symm, m, List.mem_cons_self, v, hv, hr⟩
  | case2 => cases h
  | case3 => cases h
  | case4 m v t text hr l links unknown hunknown =>
    exact absurd hv (Graph.incident?_eq_error_iff.1 hunknown).1
  | case5 m v t text hr t' l links steps hsteps ih =>
    -- The steps of a vertex of the graph are there, and the fault is behind one of them.
    obtain ⟨-, rfl⟩ := Graph.incident?_eq_ok_iff.1 hsteps
    obtain ⟨d, hd, h⟩ := OnDemand.fault_each h
    split at h
    · cases h
    split at h
    · cases h
    obtain ⟨f, hf, n, hn, hfails⟩ := ih d _ (Graph.finish_mem hd) h
    exact ⟨f, hf, n, List.mem_cons_of_mem m hn, hfails⟩

/-- **Nothing breaks off a search but a test that fails**, unless its anchor is unknown. -/
theorem fault_allMatches {p : Pattern V} {g : Graph V} {anchor : Option V}
    {fault : SearchFault V} (hanchor : ∀ v ∈ anchor, v ∈ g.vertices)
    (h : (p.allMatches g anchor).toList.2 = some fault) :
    ∃ f, fault = .test f.inSequence ∧ p.FailsWith g f := by
  cases anchor with
  | none =>
    obtain ⟨v, hv, h⟩ := OnDemand.fault_each h
    exact fault_explore hv h
  | some v =>
    have hv := hanchor v rfl
    rw [allMatches_of_mem p hv] at h
    exact fault_explore hv h

/-- No search breaks off in which all tests answer, unless its anchor is unknown. -/
theorem FaultFree.fault_allMatches_eq_none {p : Pattern V} {g : Graph V} (h : p.FaultFree g)
    {anchor : Option V} (hanchor : ∀ v ∈ anchor, v ∈ g.vertices) :
    (p.allMatches g anchor).toList.2 = none := by
  cases hfault : (p.allMatches g anchor).toList.2 with
  | none => rfl
  | some fault =>
    obtain ⟨f, -, hfails⟩ := fault_allMatches hanchor hfault
    exact absurd hfails (h.not_failsWith f)

/-! ## Searches with a limit -/

theorem firstMatches_of_tooLarge {n : Nat} (hn : maxLimit < n) (p : Pattern V) (g : Graph V)
    (anchor : Option V) : p.firstMatches g anchor (some n) = .error (.limit .tooLarge) := by
  have hfeasible : feasibleLimit (some n) = .error .tooLarge := if_neg (Nat.not_le.2 hn)
  rw [firstMatches, hfeasible]
  rfl

/-- **A limit leaves the first matches and the faults before them**, exactly if it can be asked for.
The faults are those of node tests that fail at a vertex of the graph, as they leave a sequence. -/
theorem search_capped_iff (p : Pattern V) (g : Graph V) {anchor : Option V}
    (hanchor : ∀ v ∈ anchor, v ∈ g.vertices) (n : Nat) :
    (∀ fault, (p.allMatches g anchor).toList.2 = some fault →
        ∃ f, fault = .test f.inSequence ∧ p.FailsWith g f) ∧
      (OnDemand.Capped n (p.allMatches g anchor).toList (p.search g anchor (some n)) ↔
        n ≤ maxLimit) := by
  have hsearch : p.search g anchor (some n) = p.firstMatches g anchor (some n) :=
    search_natLimit p g anchor (some n)
  refine ⟨fun fault ↦ fault_allMatches hanchor, fun hcapped ↦ ?_, fun hn ↦ ?_⟩
  · -- That the limit is too large is a fault of the search, but not one that a test has.
    by_contra hn
    rw [hsearch, firstMatches_of_tooLarge (Nat.not_le.1 hn)] at hcapped
    obtain ⟨f, hf, -⟩ := fault_allMatches hanchor hcapped.eq_of_error
    cases hf
  · have hfeasible : ∀ k ∈ some n, k ≤ maxLimit := by simpa using hn
    rw [hsearch, firstMatches_of_feasible hfeasible]
    exact OnDemand.capped_outcome_take n fun _ ↦ p.allMatches g anchor

/-- A pattern whose test fails at the vertex `b`. -/
def fragilePattern : Pattern String where
  first := .ofTest (.holds "fragile" fun s ↦
    if s = "b" then .error (.noField "str" "lemma") else .ok true)
  links := []

/-- The match at the vertex `a` comes before the fault at the vertex `b`. -/
theorem search_capped_iff_fragile :
    (∀ v ∈ (none : Option String), v ∈ loopGraph.vertices) ∧
      (fragilePattern.allMatches loopGraph none).toList.1.length = 1 ∧
      (fragilePattern.allMatches loopGraph none).toList.2 =
        some (.test (.noField "str" "lemma")) ∧
      (∀ fault, (fragilePattern.allMatches loopGraph none).toList.2 = some fault →
        ∃ f, fault = .test f.inSequence ∧ fragilePattern.FailsWith loopGraph f) ∧
      (OnDemand.Capped 1 (fragilePattern.allMatches loopGraph none).toList
          (fragilePattern.search loopGraph none (some (1 : Nat))) ↔ 1 ≤ maxLimit) :=
  ⟨by simp, by decide, by decide, search_capped_iff fragilePattern loopGraph (by simp) 1⟩

/-- The wildcard has one match in this graph. Asked for more matches than a limit can say, the
search does not give it. -/
theorem search_beyond_maxLimit :
    ∃ (p : Pattern String) (g : Graph String),
      (p.allMatches g none).toList.1.length = 1 ∧ (p.allMatches g none).toList.2 = none ∧
      p.search g none (some 9223372036854775808) = .error (.limit .tooLarge) ∧
      ¬ OnDemand.Capped 9223372036854775808 (p.allMatches g none).toList
        (p.search g none (some 9223372036854775808)) :=
  ⟨⟨.any, []⟩, .ofEdges [⟨"a", "a", "r"⟩], by decide, by decide, rfl,
    fun h ↦ nomatch h.ended (by decide) rfl⟩

/-! ## Unknown anchors -/

/-- An unknown anchor is a fault of every search that asks for a match and for no more than can be
asked for. -/
private theorem search_of_unknown (p : Pattern V) {g : Graph V} {v : V} (hv : v ∉ g.vertices)
    (limit : Option Nat) :
    (∃ fault, p.search g (some v) (limit.map Int.ofNat) = .error (.graph fault)) ↔
      ∀ n ∈ limit, 0 < n ∧ n ≤ maxLimit := by
  rw [search_natLimit]
  by_cases hlimit : ∀ n ∈ limit, n ≤ maxLimit
  · rw [firstMatches_of_feasible hlimit, allMatches_of_unknown p hv]
    match limit with
    | none => exact iff_of_true ⟨.unknownVertex v, rfl⟩ (by simp)
    -- The sequence of matches is not looked at, and its fault with it.
    | some 0 => exact iff_of_false (fun ⟨_, h⟩ ↦ nomatch h) (by simp)
    | some (n + 1) =>
      exact iff_of_true ⟨.unknownVertex v, rfl⟩ (by simpa using hlimit)
  · refine iff_of_false ?_ fun h ↦ hlimit fun n hn ↦ (h n hn).2
    rintro ⟨fault, h⟩
    obtain ⟨n, rfl, hn⟩ : ∃ n, limit = some n ∧ maxLimit < n := by simpa using hlimit
    rw [firstMatches_of_tooLarge hn] at h
    cases h

/-- A search in which all tests answer never comes upon an unknown vertex, unless it begins at
one. -/
theorem FaultFree.search_ne_graphFault {p : Pattern V} {g : Graph V} (h : p.FaultFree g)
    {anchor : Option V} (hanchor : ∀ v ∈ anchor, v ∈ g.vertices) (limit : Option Nat)
    (fault : GraphFault V) :
    p.search g anchor (limit.map Int.ofNat) ≠ .error (.graph fault) := by
  rw [search_natLimit]
  by_cases hlimit : ∀ n ∈ limit, n ≤ maxLimit
  · have hall : (p.allMatches g anchor).toList = ((p.allMatches g anchor).toList.1, none) :=
      Prod.ext rfl (h.fault_allMatches_eq_none hanchor)
    rw [firstMatches_of_feasible hlimit, OnDemand.collect_eq hall]
    exact fun h ↦ nomatch h
  · obtain ⟨n, rfl, hn⟩ : ∃ n, limit = some n ∧ maxLimit < n := by simpa using hlimit
    rw [firstMatches_of_tooLarge hn]
    exact fun h ↦ nomatch h

/-- **A search reports an unknown vertex exactly if its anchor is unknown**, as long as it asks for
a match and for no more than can be asked for, or the anchor is known. From a known anchor, or
without one, asking for the steps of a vertex never fails. -/
theorem search_unknownVertex_iff {p : Pattern V} {g : Graph V} (h : p.FaultFree g)
    (anchor : Option V) (limit : Option Nat) :
    ((∀ v ∈ anchor, v ∈ g.vertices) → (p.allMatches g anchor).toList.2 = none) ∧
      (((∃ fault, p.search g anchor (limit.map Int.ofNat) = .error (.graph fault)) ↔
          ∃ v ∈ anchor, v ∉ g.vertices) ↔
        (∀ v ∈ anchor, v ∈ g.vertices) ∨ ∀ n ∈ limit, 0 < n ∧ n ≤ maxLimit) := by
  refine ⟨h.fault_allMatches_eq_none, ?_⟩
  by_cases hanchor : ∀ v ∈ anchor, v ∈ g.vertices
  · refine iff_of_true (iff_of_false ?_ ?_) (Or.inl hanchor)
    · exact fun ⟨fault, hsearch⟩ ↦ h.search_ne_graphFault hanchor limit fault hsearch
    · exact fun ⟨v, hv, hunknown⟩ ↦ hunknown (hanchor v hv)
  · obtain ⟨v, rfl, hv⟩ : ∃ v, anchor = some v ∧ v ∉ g.vertices := by simpa using hanchor
    rw [search_of_unknown p hv, or_iff_right hanchor]
    exact iff_true_right ⟨v, rfl, hv⟩

theorem search_unknownVertex_iff_loop :
    loopPattern.FaultFree loopGraph ∧
      ((∀ v ∈ some "c", v ∈ loopGraph.vertices) →
        (loopPattern.allMatches loopGraph (some "c")).toList.2 = none) ∧
      (((∃ fault, loopPattern.search loopGraph (some "c") ((some 1).map Int.ofNat) =
          .error (.graph fault)) ↔ ∃ v ∈ some "c", v ∉ loopGraph.vertices) ↔
        (∀ v ∈ some "c", v ∈ loopGraph.vertices) ∨ ∀ n ∈ some 1, 0 < n ∧ n ≤ maxLimit) := by
  have h : loopPattern.FaultFree loopGraph := faultFree_of_answersEverywhere (by decide)
  exact ⟨h, search_unknownVertex_iff h (some "c") (some 1)⟩

/-- A search for no matches does not notice that its anchor is unknown. -/
theorem search_for_none_of_unknown :
    loopPattern.FaultFree loopGraph ∧ "c" ∉ loopGraph.vertices ∧
      loopPattern.search loopGraph (some "c") (some 0) = .ok [] :=
  ⟨faultFree_of_answersEverywhere (by decide), by decide, rfl⟩

end Pattern

end Motif
