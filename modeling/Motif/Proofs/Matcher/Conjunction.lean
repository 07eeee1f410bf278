import Motif.Proofs.Distinct
import Motif.Proofs.Pattern.RoundTrip
import Motif.Proofs.Search.Captures

/-!
# Conjunctions

A conjunction makes the tests of its members one after the other, up to the first that fails or has
a fault (`NodeTest.answers`), and shows the text of the first of them. Of members that count as
equal only the first is asked. Tests count as equal when they are shown alike, whatever they ask,
so a member can be dropped that would not have accepted the vertex (`contradictory`). What a
conjunction means is that every member is accepting which equals no member before it
(`NodeMatcher.conjunction_exact`). Where equal members answer alike, this is to say that all members
are; and members that are read with one vocabulary do.
-/

namespace Motif

variable {V : Type}

/-! ## Tests one after the other -/

namespace NodeTest

def answer : NodeTest V → V → Except FieldFault Bool
  | any, _ => .ok true
  | holds _ condition, v => condition v

/-- What tests say that are made in order, up to the first that fails or has a fault. -/
def answers : List (NodeTest V) → V → Except FieldFault Bool
  | [], _ => .ok true
  | t :: ts, v => do
    if ← t.answer v then answers ts v else pure false

variable {t : NodeTest V} {ts : List (NodeTest V)} {v : V}

theorem matchText_eq (t : NodeTest V) (v : V) :
    t.matchText v = (t.answer v).map fun b ↦ if b then some t.text else none := by
  cases t with
  | any => rfl
  | holds e condition =>
    rw [matchText, answer]
    rcases condition v with fault | b
    · rfl
    · cases b <;> rfl

theorem answers_cons_of_error {fault : FieldFault} (h : t.answer v = .error fault) :
    answers (t :: ts) v = .error fault := by
  rw [answers, h, error_bind]

theorem answers_cons_of_false (h : t.answer v = .ok false) : answers (t :: ts) v = .ok false := by
  rw [answers, h]
  rfl

theorem answers_cons_of_true (h : t.answer v = .ok true) :
    answers (t :: ts) v = answers ts v := by
  rw [answers, h]
  rfl

@[simp] theorem answers_singleton (t : NodeTest V) (v : V) : answers [t] v = t.answer v := by
  rcases h : t.answer v with fault | b
  · exact answers_cons_of_error h
  · cases b with
    | false => exact answers_cons_of_false h
    | true => exact answers_cons_of_true h

theorem answers_eq_true_iff : answers ts v = .ok true ↔ ∀ t ∈ ts, t.answer v = .ok true := by
  induction ts with
  | nil => exact ⟨fun _ ↦ by simp, fun _ ↦ rfl⟩
  | cons t ts ih =>
    rw [List.forall_mem_cons, ← ih]
    rcases h : t.answer v with fault | b
    · rw [answers_cons_of_error h]
      simp
    · cases b with
      | false =>
        rw [answers_cons_of_false h]
        simp
      | true =>
        rw [answers_cons_of_true h]
        simp

private theorem exists_answers_eq_ok (h : ∀ t ∈ ts, ∃ b, t.answer v = .ok b) :
    ∃ b, answers ts v = .ok b := by
  induction ts with
  | nil => exact ⟨true, rfl⟩
  | cons t ts ih =>
    obtain ⟨⟨b, hb⟩, hts⟩ := List.forall_mem_cons.1 h
    cases b with
    | false => exact ⟨false, answers_cons_of_false hb⟩
    | true =>
      rw [answers_cons_of_true hb]
      exact ih hts

private theorem answers_filter {p : NodeTest V → Bool}
    (h : ∀ t ∈ ts, p t = false → t.answer v = .ok true) :
    answers (ts.filter p) v = answers ts v := by
  induction ts with
  | nil => rfl
  | cons t ts ih =>
    obtain ⟨ht, hts⟩ := List.forall_mem_cons.1 h
    cases hp : p t with
    | false => rw [List.filter_cons_of_neg (by simp [hp]), ih hts, answers_cons_of_true (ht hp)]
    | true => rw [List.filter_cons_of_pos hp, answers, answers, ih hts]

/-- Repeating a test makes no difference, where tests that are shown alike answer alike. -/
theorem answers_distinctBy
    (h : ∀ t ∈ ts, ∀ u ∈ ts, t.expression? = u.expression? → t.answer v = u.answer v) :
    answers (distinctBy expression? ts) v = answers ts v := by
  induction ts with
  | nil => rfl
  | cons t ts ih =>
    have hts : ∀ u ∈ ts, ∀ w ∈ ts, u.expression? = w.expression? → u.answer v = w.answer v :=
      fun u hu w hw ↦ h u (List.mem_cons_of_mem t hu) w (List.mem_cons_of_mem t hw)
    rw [distinctBy]
    rcases ht : t.answer v with fault | b
    · rw [answers_cons_of_error ht, answers_cons_of_error ht]
    · cases b with
      | false => rw [answers_cons_of_false ht, answers_cons_of_false ht]
      | true =>
        -- The repetitions of a test that holds hold as well.
        rw [answers_cons_of_true ht, answers_cons_of_true ht, answers_filter, ih hts]
        intro u hu hp
        have hu : u ∈ t :: ts := List.mem_cons_of_mem t ((distinctBy_sublist _ _).mem hu)
        rw [h u hu t List.mem_cons_self (by simpa using hp), ht]

end NodeTest

/-! ## Conjunctions -/

namespace NodeMatcher

variable {m n : NodeMatcher V} {ms : List (NodeMatcher V)} {v : V}

private theorem matchTests_cons (t : NodeTest V) (ts : List (NodeTest V)) (v : V) :
    matchTests (t :: ts) v =
      (NodeTest.answers (t :: ts) v).map fun b ↦ if b then some t.text else none := by
  induction ts generalizing t with
  | nil =>
    rw [matchTests, NodeTest.matchText_eq, NodeTest.answers]
    rcases t.answer v with fault | b
    · rfl
    · cases b <;> rfl
  | cons u us ih =>
    rw [matchTests, ih, NodeTest.matchText_eq]
    swap
    · exact List.cons_ne_nil u us
    rcases h : t.answer v with fault | b
    · rw [NodeTest.answers_cons_of_error h]
      rfl
    cases b with
    | false =>
      rw [NodeTest.answers_cons_of_false h]
      rfl
    | true =>
      rw [NodeTest.answers_cons_of_true h]
      rcases NodeTest.answers (u :: us) v with fault | b
      · rfl
      · cases b <;> rfl

theorem matchText_eq (m : NodeMatcher V) (v : V) :
    m.matchText v = (NodeTest.answers m.tests v).map fun b ↦
      if b then some (m.tests.head m.tests_ne_nil).text else none := by
  obtain ⟨name, tests, hne, _⟩ := m
  cases tests with
  | nil => exact absurd rfl hne
  | cons t ts => exact matchTests_cons t ts v

theorem matchText_eq_error_iff {fault : FieldFault} :
    m.matchText v = .error fault ↔ NodeTest.answers m.tests v = .error fault := by
  rw [matchText_eq]
  cases NodeTest.answers m.tests v with
  | error fault' => simp [Except.map]
  | ok b => simp [Except.map]

theorem accepts_eq_true_iff : m.accepts v = true ↔ NodeTest.answers m.tests v = .ok true := by
  rw [accepts, text?, matchText_eq]
  cases NodeTest.answers m.tests v with
  | error fault => simp [Except.map]
  | ok b => cases b <;> simp [Except.map]

/-- A matcher of a single test without a capture is the matcher that makes this test. -/
theorem base_eq_singleton (hname : m.name = none) (hlength : m.tests.length = 1) :
    m.base = [m] := by
  obtain ⟨name, tests, _, _⟩ := m
  obtain ⟨t, rfl⟩ := List.length_eq_one_iff.1 hlength
  obtain rfl : name = none := hname
  rfl

/-- The members that are kept in a conjunction make one test each, and the conjunction makes them
all. -/
theorem tests_of_conjunction (h : conjunction ms = .ok m) :
    (∀ n ∈ distinctBy signature ms, n.base = [n]) ∧
      m.tests = distinctBy NodeTest.expression? ((distinctBy signature ms).flatMap tests) := by
  simp only [conjunction] at h
  split at h
  · cases h
  split at h
  · cases h
  split at h
  · cases h
  next hsingle _ hnames =>
  obtain rfl := Except.ok.inj h
  refine ⟨fun n hn ↦ ?_, rfl⟩
  have hname : n.name = none := List.findSome?_eq_none_iff.1 hnames n hn
  have hsmall : ¬ 1 < n.tests.length := by
    have hn := fun hc ↦ hsingle (List.any_eq_true.2 ⟨n, hn, hc⟩)
    simpa [isConjunction, hname] using hn
  have hpos : 0 < n.tests.length := List.length_pos_iff.2 n.tests_ne_nil
  exact base_eq_singleton hname (by omega)

private theorem base_of_signature (h : m.signature = n.signature) (hm : m.base = [m]) :
    n.base = [n] := by
  obtain ⟨t, -, rfl⟩ : ∃ t ∈ m.tests, ofTest t = m :=
    List.mem_map.1 (hm ▸ List.mem_singleton_self m : m ∈ m.base)
  obtain ⟨hname, htests⟩ := Prod.mk.inj h
  refine base_eq_singleton hname.symm ?_
  simpa [ofTest] using (congrArg List.length htests).symm

@[simp] private theorem signature_ofTest_eq_iff {t u : NodeTest V} :
    (ofTest t).signature = (ofTest u).signature ↔ t.expression? = u.expression? := by
  simp [signature, ofTest]

theorem distinctBy_signature (ts : List (NodeTest V)) :
    distinctBy signature (ts.map ofTest) = (distinctBy NodeTest.expression? ts).map ofTest := by
  rw [distinctBy_map]
  exact congrArg _ (distinctBy_congr (fun _ _ ↦ signature_ofTest_eq_iff) ts)

/-- A conjunction is made of single tests, and makes them without repetitions. -/
theorem exists_tests_of_conjunction (h : conjunction ms = .ok m) :
    ∃ ts, ms = ts.map ofTest ∧ m.tests = distinctBy NodeTest.expression? ts := by
  obtain ⟨hkept, htests⟩ := tests_of_conjunction h
  have hbase : ∀ n ∈ ms, n.base = [n] := by
    intro n hn
    obtain ⟨k, hk, hkn⟩ := exists_mem_distinctBy signature hn
    exact base_of_signature hkn (hkept k hk)
  have hms : (ms.flatMap tests).map ofTest = ms := by
    rw [List.map_flatMap]
    exact (List.flatMap_congr hbase).trans (List.flatMap_singleton' ms)
  refine ⟨ms.flatMap tests, hms.symm, ?_⟩
  have hflat : (distinctBy signature ms).flatMap tests =
      distinctBy NodeTest.expression? (ms.flatMap tests) := by
    rw [← hms, distinctBy_signature, List.flatMap_map, hms]
    exact List.flatMap_singleton' _
  rw [htests, hflat]
  exact distinctBy_eq_self _ (nodup_map_distinctBy _ _)

@[simp] private theorem accepts_ofTest_iff {t : NodeTest V} :
    (ofTest t).accepts v = true ↔ t.answer v = .ok true := by
  rw [accepts_eq_true_iff, ofTest, NodeTest.answers_singleton]

private theorem exists_answer_of_matchText {t : NodeTest V} {text : Option String}
    (h : (ofTest t).matchText v = .ok text) : ∃ b, t.answer v = .ok b := by
  have h : t.matchText v = .ok text := h
  rw [NodeTest.matchText_eq] at h
  cases hb : t.answer v with
  | error fault => exact nomatch hb ▸ h
  | ok b => exact ⟨b, rfl⟩

theorem accepts_conjunction_iff (h : conjunction ms = .ok m) :
    m.accepts v = true ↔ ∀ n ∈ distinctBy signature ms, n.accepts v = true := by
  obtain ⟨ts, rfl, htests⟩ := exists_tests_of_conjunction h
  rw [accepts_eq_true_iff, htests, NodeTest.answers_eq_true_iff, distinctBy_signature,
    List.forall_mem_map]
  exact forall₂_congr fun t _ ↦ accepts_ofTest_iff.symm

theorem exists_matchText_conjunction (h : conjunction ms = .ok m)
    (hanswer : ∀ n ∈ ms, ∃ text, n.matchText v = .ok text) : ∃ text, m.matchText v = .ok text := by
  obtain ⟨ts, rfl, htests⟩ := exists_tests_of_conjunction h
  have htest : ∀ t ∈ m.tests, ∃ b, t.answer v = .ok b := by
    intro t ht
    rw [htests] at ht
    obtain ⟨text, htext⟩ := hanswer _ (List.mem_map_of_mem ((distinctBy_sublist _ ts).mem ht))
    exact exists_answer_of_matchText htext
  obtain ⟨b, hb⟩ := NodeTest.exists_answers_eq_ok htest
  exact ⟨_, (m.matchText_eq v).trans (congrArg _ hb)⟩

private theorem exists_head?_of_conjunction (h : conjunction ms = .ok m) {s : String}
    (hs : m.matchText v = .ok (some s)) :
    ∃ first ∈ ms.head?, first.matchText v = .ok (some s) := by
  obtain ⟨ts, rfl, htests⟩ := exists_tests_of_conjunction h
  obtain ⟨name, tests, hne, _⟩ := m
  obtain rfl : tests = distinctBy NodeTest.expression? ts := htests
  cases ts with
  | nil => exact absurd rfl hne
  | cons t ts =>
    refine ⟨ofTest t, rfl, ?_⟩
    change t.matchText v = .ok (some s)
    have hall := accepts_eq_true_iff.1 (accepts_of_matchText hs)
    have ht : t.answer v = .ok true :=
      NodeTest.answers_eq_true_iff.1 hall t List.mem_cons_self
    rw [matchText_eq, hall] at hs
    rw [NodeTest.matchText_eq, ht]
    exact hs

/-- Where equal members answer alike, a conjunction accepts what all members accept. -/
theorem accepts_conjunction_iff_forall (h : conjunction ms = .ok m)
    (halike : ∀ n ∈ ms, ∀ k ∈ ms, n.signature = k.signature → n.accepts v = k.accepts v) :
    m.accepts v = true ↔ ∀ n ∈ ms, n.accepts v = true := by
  rw [accepts_conjunction_iff h]
  constructor
  · intro hkept n hn
    obtain ⟨k, hk, hkn⟩ := exists_mem_distinctBy signature hn
    rw [← halike k ((distinctBy_sublist signature ms).mem hk) n hn hkn]
    exact hkept k hk
  · exact fun hall n hn ↦ hall n ((distinctBy_sublist signature ms).mem hn)

/-- **What a conjunction means.** Where none of its members has a fault, a conjunction accepts a
vertex exactly if every member does that equals no member before it, and then shows the text of the
first member. Where equal members answer alike, it accepts exactly if all members do. So it is where
the members are read with one vocabulary. -/
theorem conjunction_exact (h : conjunction ms = .ok m)
    (hanswer : ∀ n ∈ ms, ∃ text, n.matchText v = .ok text) :
    ∃ text, m.matchText v = .ok text ∧
      (text.isSome = true ↔ ∀ before n after, ms = before ++ n :: after →
        (∀ k ∈ before, k.signature ≠ n.signature) → n.accepts v = true) ∧
      (∀ s, text = some s → ∃ first ∈ ms.head?, first.matchText v = .ok (some s)) ∧
      ((∀ n ∈ ms, ∀ k ∈ ms, n.signature = k.signature → n.accepts v = k.accepts v) →
        (text.isSome = true ↔ ∀ n ∈ ms, n.accepts v = true)) ∧
      ∀ voc : Vocabulary V, (∀ n ∈ ms, ∃ s p, Pattern.read voc s = .ok p ∧ n ∈ p.nodes) →
        (text.isSome = true ↔ ∀ n ∈ ms, n.accepts v = true) := by
  obtain ⟨text, htext⟩ := exists_matchText_conjunction h hanswer
  have haccepts : text.isSome = m.accepts v :=
    congrArg Option.isSome (text?_of_matchText htext).symm
  refine ⟨text, htext, ?_, ?_, ?_, ?_⟩
  · rw [haccepts, accepts_conjunction_iff h]
    constructor
    · exact fun hkept before n after hms hbefore ↦
        hkept n (mem_distinctBy_iff.2 ⟨before, after, hms, hbefore⟩)
    · intro hfirst n hn
      obtain ⟨before, after, hms, hbefore⟩ := mem_distinctBy_iff.1 hn
      exact hfirst before n after hms hbefore
  · rintro s rfl
    exact exists_head?_of_conjunction h htext
  · intro halike
    rw [haccepts]
    exact accepts_conjunction_iff_forall h halike
  · intro voc hread
    have hreadable : ∀ n ∈ ms, n.Readable voc := by
      intro n hn
      obtain ⟨s, p, hp, hnp⟩ := hread n hn
      exact (Pattern.readable_of_read hp).nodes n hnp
    rw [haccepts]
    refine accepts_conjunction_iff_forall h fun n hn k hk heq ↦ ?_
    rw [(hreadable n hn).eq_of_signature (hreadable k hk) heq]

/-- The same test twice, and in between the test that any vertex passes. -/
def repeated : List (NodeMatcher String) :=
  [ofTest ((Expression.test "self" "a").toTest Expression.echo), ofTest .any,
    ofTest ((Expression.test "self" "a").toTest Expression.echo)]

theorem conjunction_exact_repeated :
    ∃ m text, conjunction repeated = .ok m ∧ m.matchText "a" = .ok text ∧
      (∀ s, text = some s → ∃ first ∈ repeated.head?, first.matchText "a" = .ok (some s)) ∧
      (text.isSome = true ↔ ∀ n ∈ repeated, n.accepts "a" = true) := by
  obtain ⟨m, hm⟩ : ∃ m, conjunction repeated = .ok m := ⟨_, rfl⟩
  have hanswer : ∀ n ∈ repeated, ∃ text, n.matchText "a" = .ok text := by
    simp only [repeated, List.forall_mem_cons]
    exact ⟨⟨_, rfl⟩, ⟨_, rfl⟩, ⟨_, rfl⟩, by simp⟩
  have hread : ∀ n ∈ repeated, ∃ s p, Pattern.read Expression.echo s = .ok p ∧ n ∈ p.nodes := by
    have hself : Pattern.read Expression.echo "self='a'" =
        .ok ⟨ofTest ((Expression.test "self" "a").toTest Expression.echo), []⟩ := by
      set_option maxRecDepth 2048 in cbv
    have hany : Pattern.read Expression.echo ".*" = .ok ⟨ofTest .any, []⟩ := by
      set_option maxRecDepth 2048 in cbv
    simp only [repeated, List.forall_mem_cons]
    exact ⟨⟨_, _, hself, List.mem_cons_self⟩, ⟨_, _, hany, List.mem_cons_self⟩,
      ⟨_, _, hself, List.mem_cons_self⟩, by simp⟩
  obtain ⟨text, htext, -, hfirst, -, hvocabulary⟩ := conjunction_exact hm hanswer
  exact ⟨m, text, hm, htext, hfirst, hvocabulary Expression.echo hread⟩

/-- Two tests that are shown alike, of which one holds of every vertex and the other of none, and
the test that any vertex passes. -/
def contradictory : List (NodeMatcher String) :=
  [ofTest (.holds "p" fun _ ↦ .ok true), ofTest (.holds "p" fun _ ↦ .ok false), any]

/-- The second of these members is not asked, although it accepts no vertex. -/
theorem conjunction_contradictory :
    ∃ m, conjunction contradictory = .ok m ∧
      (∀ n ∈ contradictory, ∃ text, n.matchText "a" = .ok text) ∧
      m.accepts "a" = true ∧ ¬ ∀ n ∈ contradictory, n.accepts "a" = true := by
  refine ⟨_, rfl, ?_, rfl, ?_⟩
  · simp only [contradictory, List.forall_mem_cons]
    exact ⟨⟨_, rfl⟩, ⟨_, rfl⟩, ⟨_, rfl⟩, by simp⟩
  · intro hall
    exact absurd (hall _ (List.mem_cons_of_mem _ List.mem_cons_self)) (by decide)

end NodeMatcher

end Motif
