import Motif.Proofs.Matcher.Construction
import Motif.Proofs.Pattern.RoundTrip

/-!
# The normal form of a pattern that is read

A matcher can be put together in many ways: demands on the direction around each other, conjunctions
of one test, tests that spell out the wildcard. A pattern text leaves no room for these. What is
read from one is built by plans of very few shapes, a node and an edge in turn
(`Alternating`), its labels are plain words, and its captures have different names, each an
identifier (`NormalForm`).

Most of this is known of every pattern that can be read back. What is left to show is that a label
is made of the characters that reading checks, which follows from reading the label once more, and
that the canonical text of an expression never looks like a wildcard.
-/

namespace Motif

variable {V : Type}

/-! ## Plans in normal form -/

/-- A test of the label, at most one demand on the direction around it, and at most one capture
around these. -/
inductive EdgeMatcher.Plan.Normal : Plan → Prop where
  /-- A test alone. -/
  | test (t : LabelTest) : Normal (.test t)
  /-- A demand on the direction around a test. -/
  | directed (d : Direction) (t : LabelTest) : Normal (.directed d (.test t))
  /-- A capture around a test. -/
  | captured (a : String) (t : LabelTest) : Normal (.captured a (.test t))
  /-- A capture around a demand on the direction. -/
  | capturedDirected (a : String) (d : Direction) (t : LabelTest) :
    Normal (.captured a (.directed d (.test t)))

/-- A test, or a conjunction of two tests at least, no two of which are the same. -/
inductive NodeMatcher.Plan.Plain : Plan V → Prop where
  /-- A test alone. -/
  | test (t : NodeTest V) : Plain (.test t)
  /-- A conjunction of tests. -/
  | conjunction {ts : List (NodeTest V)} (hlength : 2 ≤ ts.length)
      (hdistinct : (ts.map NodeTest.expression?).Nodup) : Plain (.conjunction (ts.map .test))

/-- A test or a conjunction, and at most one capture around it. -/
inductive NodeMatcher.Plan.Normal : Plan V → Prop where
  /-- No capture. -/
  | plain {c : Plan V} (hc : c.Plain) : Normal c
  /-- A capture around a test or a conjunction. -/
  | captured (a : String) {c : Plan V} (hc : c.Plain) : Normal (.captured a c)

/-- A node and an edge in turn, beginning and ending with a node, each in normal form. -/
inductive Matcher.Plan.Alternating : List (Plan V) → Prop where
  /-- The last node. -/
  | last {c : NodeMatcher.Plan V} (hc : c.Normal) : Alternating [.node c]
  /-- A node, an edge, and what begins with the next node. -/
  | more {c : NodeMatcher.Plan V} {d : EdgeMatcher.Plan} {cs : List (Plan V)} (hc : c.Normal)
      (hd : d.Normal) (hcs : Alternating cs) : Alternating (.node c :: .edge d :: cs)

theorem NodeMatcher.normal_plan (m : NodeMatcher V) : m.plan.Normal := by
  obtain ⟨name, tests, hne, hdistinct⟩ := m
  have hplain : (plan ⟨none, tests, hne, hdistinct⟩).Plain := by
    match tests with
    | [] => exact absurd rfl hne
    | [t] => exact .test t
    | t :: t' :: ts => exact .conjunction (by simp) hdistinct
  cases name with
  | none => exact .plain hplain
  | some a => exact .captured a hplain

theorem EdgeMatcher.normal_plan {m : EdgeMatcher} (h : m.directions.length ≤ 1) :
    m.plan.Normal := by
  obtain ⟨name, directions, t⟩ := m
  match name, directions with
  | none, [] => exact .test t
  | none, [d] => exact .directed d t
  | some a, [] => exact .captured a t
  | some a, [d] => exact .capturedDirected a d t
  | _, _ :: _ :: _ => exact absurd h (by simp)

namespace Pattern

private theorem plans_cons (first : NodeMatcher V) (l : Link V) (links : List (Link V)) :
    plans ⟨first, l :: links⟩ =
      .node first.plan :: .edge l.edge.plan :: plans ⟨l.node, links⟩ := rfl

theorem alternating_plans {links : List (Link V)} (h : ∀ l ∈ links, l.edge.directions.length ≤ 1)
    (first : NodeMatcher V) : Matcher.Plan.Alternating (plans ⟨first, links⟩) := by
  induction links generalizing first with
  | nil => exact .last first.normal_plan
  | cons l links ih =>
    obtain ⟨hl, hlinks⟩ := List.forall_mem_cons.1 h
    rw [plans_cons]
    exact .more first.normal_plan (EdgeMatcher.normal_plan hl) (ih hlinks l.node)

end Pattern

/-! ## Labels, expressions and names -/

/-- The characters that a label must not contain, besides the blanks. -/
def LabelTest.reserved : List Char := ['\x7b', '\x7d', '<', '>', '/', '"', '\'']

/-- A label is a word without blanks and without the characters that pattern text is made of, and is
not the wildcard. -/
theorem LabelTest.Readable.of_label {s : String} (h : (LabelTest.label s).Readable) :
    s ≠ "" ∧ s ≠ wildcard ∧ ∀ c ∈ s.toList, Text.isBlank c = false ∧ c ∉ reserved := by
  -- Reading the label once more passes every check of the reader.
  have htrim : Text.trim s.toList = s.toList := Text.trim_of_trimmed h.trimmed
  have hread := h.reads 0 s.toList htrim
  have hwild : s ≠ wildcard := by
    intro hs
    exact absurd (h.eq_any hs) (by simp)
  rw [Pattern.readLabel, htrim] at hread
  split at hread
  · exact absurd (Except.ok.inj hread) (by simp)
  split at hread
  · split at hread
    · exact absurd (Except.ok.inj hread) (by simp)
    · exact absurd hread (by simp [Pattern.refuse])
    · exact absurd hread (by simp)
  split at hread
  case isFalse => exact absurd hread (by simp [Pattern.refuse])
  rename_i hchars
  rw [Bool.and_eq_true, List.all_eq_true] at hchars
  refine ⟨?_, hwild, fun c hc ↦ ?_⟩
  · rintro rfl
    exact absurd hchars.1 (by simp)
  · have hlabel := hchars.2 c hc
    simp only [Pattern.isLabelChar, Bool.not_eq_true', Bool.or_eq_false_iff, beq_eq_false_iff_ne]
      at hlabel
    simp only [reserved, List.mem_cons, List.not_mem_nil, or_false, not_or]
    tauto

private theorem NodeTest.Readable.expression?_ne {voc : Vocabulary V} {t : NodeTest V}
    (h : t.Readable voc) : t.expression? ≠ some wildcard := by
  obtain rfl | ⟨e, he, rfl⟩ := h
  · exact (nomatch ·)
  · intro hwild
    have htext := congrArg String.toList (Option.some_inj.1 hwild)
    rw [Expression.text, String.toList_ofList] at htext
    exact Expression.render_ne_wildcard he.lexemes_writable htext

/-- A text is an identifier of ASCII characters. -/
def IsIdentifier (cs : List Char) : Prop :=
  ∃ c rest, cs = c :: rest ∧ (c.isAlpha = true ∨ c = '_') ∧
    ∀ d ∈ rest, d.isAlphanum = true ∨ d = '_'

private theorem Pattern.isIdentifier_of_isName {cs : List Char} (h : isName cs = true) :
    IsIdentifier cs := by
  have hstart {c : Char} (hc : isNameStart c = true) : c.isAlpha = true ∨ c = '_' := by
    simp only [isNameStart, Bool.or_eq_true, Bool.and_eq_true, decide_eq_true_eq, beq_iff_eq] at hc
    simp only [Char.isAlpha, Char.isUpper, Char.isLower, Bool.or_eq_true, Bool.and_eq_true,
      decide_eq_true_eq]
    exact hc.imp_left Or.symm
  cases cs with
  | nil => exact absurd h (by simp [isName])
  | cons c rest =>
    rw [isName, Bool.and_eq_true, List.all_eq_true] at h
    refine ⟨c, rest, rfl, hstart h.1, fun d hd ↦ ?_⟩
    rcases Bool.or_eq_true_iff.1 (h.2 d hd) with hd | hd
    · exact (hstart hd).imp_left fun halpha ↦ by rw [Char.isAlphanum, halpha, Bool.true_or]
    · left
      rw [Bool.and_eq_true, decide_eq_true_eq, decide_eq_true_eq] at hd
      rw [Char.isAlphanum, Char.isDigit, Bool.or_eq_true, Bool.and_eq_true, decide_eq_true_eq,
        decide_eq_true_eq]
      exact .inr hd

/-! ## Patterns -/

namespace Pattern

/-- The form of the patterns that are read from texts. -/
structure NormalForm (p : Pattern V) : Prop where
  /-- Plans in normal form build the matchers, of nodes and edges in turn. -/
  built : ∃ cs, Matcher.Plan.Alternating cs ∧ cs.mapM Matcher.Plan.build = .ok p.matchers
  /-- No test of a vertex is an expression that looks like the wildcard. -/
  expressions : ∀ m ∈ p.nodes, ∀ t ∈ m.tests, t.expression? ≠ some NodeTest.wildcard
  /-- A label is a word that says something. -/
  labels : ∀ m ∈ p.edges, ∀ s, m.test = .label s →
    s ≠ "" ∧ s ≠ LabelTest.wildcard ∧
      ∀ c ∈ s.toList, Text.isBlank c = false ∧ c ∉ LabelTest.reserved
  /-- No name is used for two captures. -/
  captures_nodup : p.captures.Nodup
  /-- Names are identifiers. -/
  captures_identifiers : ∀ a ∈ p.captures, IsIdentifier a.toList

variable {voc : Vocabulary V}

theorem Readable.isIdentifier {p : Pattern V} (h : p.Readable voc) {a : String}
    (ha : a ∈ p.captures) : IsIdentifier a.toList := by
  rw [captures_eq, List.mem_append, Option.mem_toList, linkCaptures, List.mem_flatMap] at ha
  rcases ha with ha | ⟨l, hl, ha⟩
  · exact isIdentifier_of_isName (h.first.name a ha)
  · rw [List.mem_append, Option.mem_toList, Option.mem_toList] at ha
    rcases ha with ha | ha
    · exact isIdentifier_of_isName ((h.links l hl).1.name a ha)
    · exact isIdentifier_of_isName ((h.links l hl).2.name a ha)

/-- **Patterns that are read are in normal form.** -/
theorem normalForm_of_read {text : String} {p : Pattern V} (h : read voc text = .ok p) :
    p.NormalForm := by
  have hp := readable_of_read h
  constructor
  case built =>
    obtain ⟨ms, hms, hbuilt⟩ := bind_eq_ok_iff.1 p.construct_plans
    obtain rfl := matchers_of_ofMatchers hbuilt
    exact ⟨p.plans, alternating_plans (fun l hl ↦ (hp.links l hl).1.length_directions_le) p.first,
      hms⟩
  case expressions => exact fun m hm t ht ↦ ((hp.nodes m hm).tests t ht).expression?_ne
  case labels =>
    intro m hm s hs
    have htest := (hp.edges m hm).test
    rw [hs] at htest
    exact htest.of_label
  case captures_nodup => exact hp.captures_nodup
  case captures_identifiers => exact fun a ha ↦ hp.isIdentifier ha

theorem normalForm_of_read_echo :
    ∃ p, read Expression.echo "\x7bx:self='a':.*\x7d <\x7be_1:r\x7d< .*:.*" = .ok p ∧
      p.captures = ["x", "e_1"] ∧ p.NormalForm := by
  have hread : (read Expression.echo
      "\x7bx:self='a':.*\x7d <\x7be_1:r\x7d< .*:.*").toOption.map captures =
        some ["x", "e_1"] := by
    cbv
  obtain ⟨p, hp, hcaptures⟩ := Option.map_eq_some_iff.1 hread
  rw [toOption_eq_some_iff] at hp
  exact ⟨p, hp, hcaptures, normalForm_of_read hp⟩

end Pattern

end Motif
