import Motif.Proofs.Pattern.Edge

/-!
# Nodes in pattern text

A node matcher is *readable* when its tests are the wildcard or stand for expressions that can be
written. Nothing else has to be asked of it, as the canonical text of an expression never looks like
the end of a node or of a test. Reading only makes readable matchers (`readable_of_readNode`), and
what is read from the text of a readable matcher has the same text (`exists_readNode`): the tests
themselves are only known by their expressions.
-/

namespace Motif

open Pattern

variable {V : Type} {voc : Vocabulary V}

/-! ## Tests -/

/-- The test is the wildcard or stands for an expression that can be written. -/
def NodeTest.Readable (voc : Vocabulary V) (t : NodeTest V) : Prop :=
  t = .any ∨ ∃ e : Expression, e.Writable voc ∧ t = e.toTest voc

theorem NodeTest.readable_of_readTest {position : Nat} {cs : List Char} {t : NodeTest V}
    (h : readTest voc position cs = .ok t) : t.Readable voc := by
  unfold readTest at h
  dsimp only at h
  split at h
  · exact absurd h (by simp [refuse])
  split at h
  · exact .inl (Except.ok.inj h).symm
  · obtain ⟨e, hread, ht⟩ := Expression.compile_eq_ok_iff.1 (mapError_eq_ok_iff.1 h)
    exact .inr ⟨e, Expression.writable_of_read hread, ht.symm⟩

private theorem NodeTest.text_eq (t : NodeTest V) : t.text = t.expression?.getD wildcard := by
  cases t <;> rfl

theorem Expression.render_ne_wildcard {e : Expression} (h : ∀ l ∈ e.lexemes, l.Writable) :
    e.render ≠ Pattern.wildcard := by
  obtain ⟨c, cs, heq, hc⟩ := exists_render_eq_cons h
  rw [heq]
  intro hwild
  obtain rfl : c = '.' := (List.cons_eq_cons.1 hwild).1
  exact absurd hc (by decide)

@[simp] theorem NodeTest.toList_text_any : (any : NodeTest V).text.toList = Pattern.wildcard := by
  rw [text]
  decide

@[simp] theorem NodeTest.toList_text_toTest (e : Expression) :
    (e.toTest voc).text.toList = e.render :=
  String.toList_ofList

namespace NodeTest.Readable

variable {t : NodeTest V}

theorem transparent (h : t.Readable voc) {isDelimiter : Char → Bool}
    (hd : ∀ c, isDelimiter c = true → c ∈ Expression.nodeDelimiters) (depth : Int) :
    Transparent isDelimiter depth t.text.toList := by
  obtain rfl | ⟨e, he, rfl⟩ := h
  · exact transparent_wildcard (Expression.isDelimiter_eq_false hd (by decide))
      (Expression.isDelimiter_eq_false hd (by decide)) depth
  · rw [toList_text_toTest]
    exact Expression.transparent_render hd he.lexemes_writable depth

theorem trimmed (h : t.Readable voc) : Text.Trimmed t.text.toList ∧ t.text.toList ≠ [] := by
  obtain rfl | ⟨e, he, rfl⟩ := h
  · rw [toList_text_any]
    refine ⟨⟨fun c hc ↦ ?_, fun c hc ↦ ?_⟩, List.cons_ne_nil '.' ['*']⟩
    · obtain rfl : '.' = c := Option.some_inj.1 hc
      decide
    · obtain rfl : '*' = c := Option.some_inj.1 hc
      decide
  · rw [toList_text_toTest]
    obtain ⟨c, cs, heq, -⟩ := Expression.exists_render_eq_cons he.lexemes_writable
    exact ⟨Expression.trimmed_render he.lexemes_writable, by simp [heq]⟩

theorem exists_readTest (h : t.Readable voc) (position : Nat) {cs : List Char}
    (hcs : Text.trim cs = t.text.toList) :
    ∃ u, readTest voc position cs = .ok u ∧ u.expression? = t.expression? := by
  obtain ⟨-, hne⟩ := h.trimmed
  rw [readTest, hcs]
  dsimp only
  rw [if_neg (by simpa using hne)]
  obtain rfl | ⟨e, he, rfl⟩ := h
  · exact ⟨.any, if_pos toList_text_any, rfl⟩
  · obtain ⟨f, hread, hrender⟩ := Expression.exists_read_render he
    rw [toList_text_toTest, if_neg (Expression.render_ne_wildcard he.lexemes_writable)]
    refine ⟨f.toTest voc, mapError_eq_ok_iff.2 (Expression.compile_eq_ok_iff.2 ⟨f, hread, rfl⟩), ?_⟩
    rw [Expression.toTest, Expression.toTest, expression?, expression?, Expression.text,
      Expression.text, hrender]

end NodeTest.Readable

/-! ## Conjunctions -/

theorem NodeMatcher.toList_body (m : NodeMatcher V) :
    m.body.toList = [':'].intercalate (m.tests.map fun t ↦ t.text.toList) := by
  rw [body, String.toList_intercalate, List.map_map]
  rfl

theorem NodeTest.readable_of_readTests {position : Nat} {cs : List Char} {t : NodeTest V}
    {ts : List (NodeTest V)} (h : readTests voc position cs = .ok (t, ts)) :
    ∀ u ∈ t :: ts, u.Readable voc := by
  fun_induction readTests voc position cs generalizing t ts with
  | case1 position cs hscan =>
    obtain ⟨u, hu, h⟩ := bind_eq_ok_iff.1 h
    obtain ⟨rfl, rfl⟩ : u = t ∧ [] = ts := by simpa using Except.ok.inj h
    simpa using readable_of_readTest hu
  | case2 position cs before d after hscan ih =>
    obtain ⟨u, hu, h⟩ := bind_eq_ok_iff.1 h
    obtain ⟨⟨w, ws⟩, hrest, h⟩ := bind_eq_ok_iff.1 h
    obtain ⟨rfl, rfl⟩ : u = t ∧ w :: ws = ts := by simpa using Except.ok.inj h
    exact List.forall_mem_cons.2 ⟨readable_of_readTest hu, ih hrest⟩

theorem readTests_last {position : Nat} {cs : List Char} {t : NodeTest V}
    (hscan : scanTo (· == ':') cs = none) (ht : readTest voc position cs = .ok t) :
    readTests voc position cs = .ok (t, []) := by
  rw [readTests]
  split
  · rw [ht]
    rfl
  · next h => exact absurd (hscan.symm.trans h) (by simp)

theorem readTests_more {position : Nat} {cs before after : List Char} {d : Char} {t u : NodeTest V}
    {us : List (NodeTest V)} (hscan : scanTo (· == ':') cs = some (before, d, after))
    (ht : readTest voc position before = .ok t)
    (hus : readTests voc (position + before.length + 1) after = .ok (u, us)) :
    readTests voc position cs = .ok (t, u :: us) := by
  rw [readTests]
  split
  · next h => exact absurd (hscan.symm.trans h) (by simp)
  · next before' d' after' h =>
    obtain ⟨rfl, rfl, rfl⟩ : before = before' ∧ d = d' ∧ after = after' := by
      simpa using hscan.symm.trans h
    rw [ht, ok_bind, hus]
    rfl

/-- The texts of tests with colons between them are read as tests with the same expressions, also
with blanks behind them. -/
theorem exists_readTests {t : NodeTest V} {ts : List (NodeTest V)}
    (h : ∀ u ∈ t :: ts, u.Readable voc) {bs : List Char} (hbs : ∀ b ∈ bs, Text.isBlank b = true)
    (position : Nat) :
    ∃ u us, readTests voc position
        ([':'].intercalate ((t :: ts).map fun t ↦ t.text.toList) ++ bs) = .ok (u, us) ∧
      (u :: us).map NodeTest.expression? = (t :: ts).map NodeTest.expression? := by
  have hcolon : ∀ c : Char, (c == ':') = true → c ∈ Expression.nodeDelimiters := by
    intro c hc
    obtain rfl : c = ':' := by simpa using hc
    decide
  induction ts generalizing t position with
  | nil =>
    have ht := h t List.mem_cons_self
    have hblank : Transparent (· == ':') 0 bs := .of_forall fun b hb ↦
      ⟨ScanState.not_mem_signs_of_isBlank (hbs b hb),
        beq_false_of_ne (Text.ne_of_class (hbs b hb) (by decide))⟩
    have hscan := scanTo_eq_none ((ht.transparent hcolon 0).append hblank).passes
    obtain ⟨u, hu, heq⟩ := ht.exists_readTest position
      (@Text.trim_append [] _ bs (by simp) ht.trimmed.1 hbs)
    refine ⟨u, [], ?_, by simp [heq]⟩
    rw [List.map_singleton, List.intercalate_singleton]
    exact readTests_last hscan hu
  | cons t' ts ih =>
    have ht := h t List.mem_cons_self
    have hscan := (ht.transparent hcolon 0).scanTo_append (beq_self_eq_true ':')
    obtain ⟨u, hu, heq⟩ := ht.exists_readTest position (Text.trim_of_trimmed ht.trimmed.1)
    obtain ⟨w, ws, hrest, hmap⟩ := ih (fun x hx ↦ h x (List.mem_cons_of_mem t hx))
      (position + t.text.toList.length + 1)
    refine ⟨u, w :: ws, ?_, by rw [List.map_cons, hmap, heq, ← List.map_cons]⟩
    rw [List.map_cons] at hrest
    rw [List.map_cons, List.map_cons, List.intercalate_cons_cons, List.append_assoc,
      List.append_assoc, List.singleton_append]
    exact readTests_more (hscan _) hu hrest

/-! ## Nodes -/

/-- The matcher of a node is read from its text. -/
structure NodeMatcher.Readable (voc : Vocabulary V) (m : NodeMatcher V) : Prop where
  /-- The capture, if any, has a name. -/
  name : ∀ a ∈ m.name, isName a.toList = true
  /-- The tests can be read. -/
  tests : ∀ t ∈ m.tests, t.Readable voc

theorem NodeMatcher.readable_of_readConjunction {position : Nat} {cs : List Char}
    {m : NodeMatcher V} (h : readConjunction voc position cs = .ok m) :
    m.name = none ∧ m.Readable voc := by
  obtain ⟨⟨t, ts⟩, hread, h⟩ := bind_eq_ok_iff.1 h
  obtain rfl := Except.ok.inj h
  refine ⟨rfl, fun a ha ↦ absurd ha (by simp [ofTests]), fun u hu ↦ ?_⟩
  exact NodeTest.readable_of_readTests hread u ((distinctBy_sublist _ _).mem hu)

/-- The inside of the braces of a node that is read, and what it is read as: a name, or a name and
tests. -/
inductive CapturedNode (voc : Vocabulary V) (used : List String) (position : Nat) :
    List Char → String → NodeMatcher V → Prop where
  /-- A name. -/
  | name {inner : List Char} {a : String} (ha : readName used position inner = .ok a) :
      CapturedNode voc used position inner a { NodeMatcher.any with name := some a }
  /-- A name, a colon and tests. -/
  | tests {name tests : List Char} {a : String} {m : NodeMatcher V} {position' : Nat}
      (ha : readName used position name = .ok a)
      (hread : readConjunction voc position' tests = .ok m) :
      CapturedNode voc used position (name ++ ':' :: tests) a { m with name := some a }

theorem capturedNode_of_readCapturedNode {used : List String} {position : Nat}
    {inner : List Char} {a : String} {m : NodeMatcher V}
    (h : readCapturedNode voc used position inner = .ok (a, m)) :
    CapturedNode voc used position inner a m := by
  unfold readCapturedNode at h
  split at h
  · next hcut =>
    obtain ⟨b, hb, h⟩ := bind_eq_ok_iff.1 h
    obtain ⟨rfl, rfl⟩ := Prod.mk.inj (Except.ok.inj h)
    obtain rfl := Text.cut_eq_none hcut
    exact .name hb
  · next hcut =>
    obtain ⟨b, hb, h⟩ := bind_eq_ok_iff.1 h
    split at h
    · exact absurd h (by simp [refuse])
    obtain ⟨n, hread, h⟩ := bind_eq_ok_iff.1 h
    obtain ⟨rfl, rfl⟩ := Prod.mk.inj (Except.ok.inj h)
    obtain ⟨rfl, -⟩ := Text.cut_eq_some hcut
    exact .tests hb hread

theorem readable_of_readCapturedNode {used : List String} {position : Nat} {inner : List Char}
    {a : String} {m : NodeMatcher V}
    (h : readCapturedNode voc used position inner = .ok (a, m)) :
    m.name = some a ∧ a ∉ used ∧ m.Readable voc := by
  cases capturedNode_of_readCapturedNode h with
  | name hname =>
    obtain ⟨ha, hisName, hnew⟩ := readName_eq_ok_iff.1 hname
    refine ⟨rfl, hnew, by simpa [ha] using hisName, fun t ht ↦ .inl ?_⟩
    exact List.mem_singleton.1 ht
  | tests hname hread =>
    obtain ⟨ha, hisName, hnew⟩ := readName_eq_ok_iff.1 hname
    exact ⟨rfl, hnew, by simpa [ha] using hisName,
      (NodeMatcher.readable_of_readConjunction hread).2.tests⟩

/-- **Nodes that are read are readable**, and use a new name. -/
theorem readable_of_readNode {used : List String} {position : Nat} {c : Char} {cs : List Char}
    {part : Part (NodeMatcher V) (cs.length + 1)} (h : readNode voc used position c cs = .ok part) :
    part.value.Readable voc ∧ (∀ a ∈ part.value.name, a ∉ used) ∧
      part.used = part.value.name.toList ++ used := by
  have hplain {m : NodeMatcher V} {position : Nat} {cs : List Char}
      (hread : readConjunction voc position cs = .ok m) :
      m.Readable voc ∧ (∀ a ∈ m.name, a ∉ used) ∧ used = m.name.toList ++ used := by
    obtain ⟨hname, hm⟩ := NodeMatcher.readable_of_readConjunction hread
    rw [hname]
    exact ⟨hm, by simp, rfl⟩
  unfold readNode at h
  split at h
  · split at h
    · exact absurd h (by simp [refuse])
    obtain ⟨⟨a, m⟩, hread, h⟩ := bind_eq_ok_iff.1 h
    obtain rfl := Except.ok.inj h
    obtain ⟨hname, hnew, hm⟩ := readable_of_readCapturedNode hread
    refine ⟨hm, ?_, ?_⟩
    · rw [hname]
      simpa using hnew
    · rw [hname]
      rfl
  · split at h
    · obtain ⟨m, hread, h⟩ := bind_eq_ok_iff.1 h
      obtain rfl := Except.ok.inj h
      exact hplain hread
    · exact absurd h (by simp [refuse])
    · obtain ⟨m, hread, h⟩ := bind_eq_ok_iff.1 h
      obtain rfl := Except.ok.inj h
      exact hplain hread

/-! ## Reading back -/

namespace NodeMatcher

theorem text_toList (m : NodeMatcher V) :
    m.text.toList =
      match m.name with
      | none => m.body.toList
      | some a =>
        if m.tests.map NodeTest.expression? = [none] then '\x7b' :: a.toList ++ ['\x7d']
        else '\x7b' :: (a.toList ++ ':' :: m.body.toList) ++ ['\x7d'] := by
  obtain ⟨name, tests, hne, hdistinct⟩ := m
  cases name with
  | none => rfl
  | some a =>
    match tests with
    | [.any] => simp [text, NodeTest.expression?, String.toList_append]
    | [.holds e f] => simp [text, NodeTest.expression?, String.toList_append]
    | t :: t' :: ts => simp [text, String.toList_append]

theorem text_eq_of_signature {m n : NodeMatcher V} (h : m.signature = n.signature) :
    m.text = n.text := by
  obtain ⟨hname, htests⟩ : m.name = n.name ∧
      m.tests.map NodeTest.expression? = n.tests.map NodeTest.expression? := Prod.mk.inj h
  have hbody (k : NodeMatcher V) : k.body = ":".intercalate
      ((k.tests.map NodeTest.expression?).map fun e ↦ e.getD NodeTest.wildcard) := by
    rw [body, List.map_map]
    exact congrArg _ (List.map_congr_left fun t _ ↦ t.text_eq)
  rw [← String.toList_inj, text_toList, text_toList, hbody m, hbody n, hname, htests]

/-- A scan for the end of a node passes over the tests, unless it looks for colons. -/
theorem Readable.transparent_body {m : NodeMatcher V} (hm : m.Readable voc)
    {isDelimiter : Char → Bool} (hd : ∀ c, isDelimiter c = true → c ∈ Expression.nodeDelimiters)
    (hcolon : isDelimiter ':' = false) (depth : Int) :
    Transparent isDelimiter depth m.body.toList := by
  have htests := hm.tests
  rw [toList_body]
  generalize m.tests = tests at htests
  induction tests with
  | nil => exact .nil
  | cons t ts ih =>
    have ht := (htests t List.mem_cons_self).transparent hd depth
    cases ts with
    | nil => simpa using ht
    | cons t' ts =>
      have hrest := ih fun u hu ↦ htests u (List.mem_cons_of_mem t hu)
      rw [List.map_cons] at hrest
      rw [List.map_cons, List.map_cons, List.intercalate_cons_cons, List.append_assoc]
      exact ht.append (.cons (by decide) hcolon hrest)

theorem Readable.exists_body_eq_cons {m : NodeMatcher V} (hm : m.Readable voc) :
    ∃ c cs, m.body.toList = c :: cs ∧ Text.isBlank c = false := by
  have hne := m.tests_ne_nil
  have htests := hm.tests
  rw [toList_body]
  generalize m.tests = tests at hne htests
  match tests with
  | [] => exact absurd rfl hne
  | t :: ts =>
    obtain ⟨htrimmed, hnil⟩ := (htests t List.mem_cons_self).trimmed
    obtain ⟨c, cs, heq⟩ := List.exists_cons_of_ne_nil hnil
    have hc := htrimmed.1 c (by rw [heq]; rfl)
    cases ts with
    | nil => exact ⟨c, cs, by simpa using heq, hc⟩
    | cons t' ts => exact ⟨c, _, by rw [List.map_cons, List.map_cons, List.intercalate_cons_cons,
        heq, List.append_assoc, List.cons_append], hc⟩

theorem Readable.exists_readConjunction {m : NodeMatcher V} (hm : m.Readable voc)
    {bs : List Char} (hbs : ∀ b ∈ bs, Text.isBlank b = true) (position : Nat) :
    ∃ n, readConjunction voc position (m.body.toList ++ bs) = .ok n ∧ n.name = none ∧
      n.tests.map NodeTest.expression? = m.tests.map NodeTest.expression? := by
  have hne := m.tests_ne_nil
  have htests := hm.tests
  have hdistinct := m.tests_distinct
  rw [toList_body]
  generalize m.tests = tests at hne htests hdistinct
  match tests with
  | [] => exact absurd rfl hne
  | t :: ts =>
    obtain ⟨u, us, hread, hmap⟩ := exists_readTests htests hbs position
    refine ⟨ofTests (u :: us) (by simp), ?_, rfl, ?_⟩
    · rw [readConjunction, hread]
      rfl
    · show (distinctBy NodeTest.expression? (u :: us)).map NodeTest.expression? = _
      rw [distinctBy_eq_self _ (by rwa [hmap]), hmap]

end NodeMatcher

private theorem readNode_braces {used : List String} {position : Nat} {inner : List Char}
    {a : String} {m : NodeMatcher V} (h : Transparent (· == '\x7d') 0 inner)
    (hm : readCapturedNode voc used (position + 1) inner = .ok (a, m)) (after : List Char) :
    ∃ h, readNode voc used position '\x7b' (inner ++ '\x7d' :: after) =
      .ok ⟨m, a :: used, after, h⟩ := by
  have hscan := h.scanTo_append (beq_self_eq_true '\x7d') after
  refine ⟨by simp; omega, ?_⟩
  rw [readNode, if_pos rfl]
  split
  · next h => exact absurd (hscan.symm.trans h) (by simp)
  · next inner' d after' h =>
    obtain ⟨rfl, rfl, rfl⟩ : inner = inner' ∧ '\x7d' = d ∧ after = after' := by
      simpa using hscan.symm.trans h
    rw [hm]
    rfl

theorem readNode_last {used : List String} {position : Nat} {c : Char} {cs : List Char}
    {m : NodeMatcher V} (hc : c ≠ '\x7b') (hscan : scanTo endsNode (c :: cs) = none)
    (hm : readConjunction voc position (c :: cs) = .ok m) :
    ∃ h, readNode voc used position c cs = .ok ⟨m, used, [], h⟩ := by
  refine ⟨by simp, ?_⟩
  rw [readNode, if_neg hc]
  split
  · rw [hm]
    rfl
  · next h => exact absurd (hscan.symm.trans h) (by simp)
  · next h => exact absurd (hscan.symm.trans h) (by simp)

theorem readNode_more {used : List String} {position : Nat} {c d : Char}
    {cs before after : List Char} {m : NodeMatcher V} (hc : c ≠ '\x7b')
    (hscan : scanTo endsNode (c :: cs) = some (c :: before, d, after))
    (hm : readConjunction voc position (c :: before) = .ok m) :
    ∃ h, readNode voc used position c cs = .ok ⟨m, used, d :: after, h⟩ := by
  obtain rfl : cs = before ++ d :: after := (List.cons_eq_cons.1 (scanTo_eq_some hscan).1).2
  refine ⟨by rw [List.length_append]; omega, ?_⟩
  rw [readNode, if_neg hc]
  split
  · next h => exact absurd (hscan.symm.trans h) (by simp)
  · next h => exact absurd (hscan.symm.trans h) (by simp)
  · next c' before' d' after' h =>
    obtain ⟨⟨rfl, rfl⟩, rfl, rfl⟩ : (c = c' ∧ before = before') ∧ d = d' ∧ after = after' := by
      simpa using hscan.symm.trans h
    rw [hm]
    rfl

/-- The text goes on with an edge behind a space, or ends. -/
def EdgeFollows (after : List Char) : Prop :=
  after = [] ∨ ∃ d rest, after = ' ' :: d :: rest ∧ endsNode d = true

theorem mem_nodeDelimiters_of_endsNode {c : Char} (h : endsNode c = true) :
    c ∈ Expression.nodeDelimiters := by
  simp only [endsNode, Bool.or_eq_true, beq_iff_eq] at h
  rcases h with (((rfl | rfl) | rfl) | rfl) | rfl <;> decide

theorem isBlank_of_endsNode {c : Char} (h : endsNode c = true) : Text.isBlank c = false := by
  have hclass : ∀ d ∈ Expression.nodeDelimiters, Text.isBlank d = false :=
    List.all_iff_forall_prop.1 (by decide)
  exact hclass c (mem_nodeDelimiters_of_endsNode h)

private theorem NodeMatcher.Readable.exists_readCapturedNode {m : NodeMatcher V}
    {used : List String}
    {a : String} (hm : m.Readable voc) (ha : m.name = some a) (hnew : a ∉ used) :
    ∃ inner, m.text.toList = '\x7b' :: inner ++ ['\x7d'] ∧ Transparent (· == '\x7d') 0 inner ∧
      ∀ position, ∃ n, readCapturedNode voc used position inner = .ok (a, n) ∧
        n.signature = m.signature := by
  have hisName := hm.name a ha
  have hcolon : ':' ∉ a.toList := not_mem_of_isName hisName (c := ':') (by decide)
  rw [text_toList, ha]
  dsimp only
  split
  · next hany =>
    refine ⟨a.toList, rfl, transparent_name hisName, fun position ↦
      ⟨{ any with name := some a }, ?_, ?_⟩⟩
    · rw [readCapturedNode, Text.cut_of_not_mem hcolon]
      dsimp only
      rw [readName_toList hisName hnew]
      rfl
    · rw [signature, signature, ha, hany]
      rfl
  · have hbody : Transparent (· == '\x7d') 0 m.body.toList := by
      refine hm.transparent_body (fun c hc ↦ ?_) (by decide) 0
      obtain rfl : c = '\x7d' := by simpa using hc
      decide
    obtain ⟨c, cs, hcons, hc⟩ := hm.exists_body_eq_cons
    refine ⟨_, rfl, (transparent_name hisName).append (.cons (by decide) (by decide) hbody),
      fun position ↦ ?_⟩
    obtain ⟨n, hread, -, hmap⟩ := hm.exists_readConjunction
      (by simp : ∀ b ∈ ([] : List Char), Text.isBlank b = true)
      (position + ((a.toList ++ ':' :: m.body.toList).length - m.body.toList.length))
    have htrim : Text.trim m.body.toList ≠ [] :=
      Text.trim_ne_nil (by rw [hcons]; exact List.mem_cons_self) hc
    refine ⟨{ n with name := some a }, ?_, ?_⟩
    · rw [readCapturedNode, Text.cut_append_cons hcolon]
      dsimp only
      rw [List.append_nil] at hread
      rw [readName_toList hisName hnew, ok_bind, if_neg (by simpa using htrim), hread]
      rfl
    · rw [signature, signature, ha, hmap]

private theorem NodeMatcher.Readable.exists_readNode_plain {m : NodeMatcher V} {used : List String}
    (hm : m.Readable voc) (hname : m.name = none) {after : List Char} (hafter : EdgeFollows after) :
    ∃ c cs, m.body.toList ++ after = c :: cs ∧ Text.isBlank c = false ∧ ∀ position, ∃ n rest h,
      readNode voc used position c cs = .ok ⟨n, used, rest, h⟩ ∧
        n.signature = m.signature ∧ Text.trimLeft rest = Text.trimLeft after := by
  obtain ⟨c, cs, hcons, hc⟩ := hm.exists_body_eq_cons
  have hbody : Transparent endsNode 0 (c :: cs) := by
    rw [← hcons]
    exact hm.transparent_body (fun _ ↦ mem_nodeDelimiters_of_endsNode) (by decide) 0
  have hbrace : c ≠ '\x7b' := by
    rintro rfl
    exact hbody.passes.1 ⟨rfl, by decide⟩
  have hsignature {n : NodeMatcher V} (hn : n.name = none)
      (hmap : n.tests.map NodeTest.expression? = m.tests.map NodeTest.expression?) :
      n.signature = m.signature := by
    rw [signature, signature, hn, hname, hmap]
  refine ⟨c, cs ++ after, by rw [hcons, List.cons_append], hc, fun position ↦ ?_⟩
  obtain rfl | ⟨d, rest, rfl, hd⟩ := hafter
  · obtain ⟨n, hread, hn, hmap⟩ := hm.exists_readConjunction
      (by simp : ∀ b ∈ ([] : List Char), Text.isBlank b = true) position
    rw [hcons, List.append_nil] at hread
    rw [List.append_nil]
    obtain ⟨h, hnode⟩ := readNode_last hbrace (scanTo_eq_none hbody.passes) hread
    exact ⟨n, [], h, hnode, hsignature hn hmap, rfl⟩
  · obtain ⟨n, hread, hn, hmap⟩ := hm.exists_readConjunction Text.isBlank_of_mem_space position
    rw [hcons, List.cons_append] at hread
    have hspace : Transparent endsNode 0 (c :: (cs ++ [' '])) :=
      hbody.append (.single (by decide) (by decide))
    have hscan := hspace.scanTo_append hd rest
    rw [List.cons_append, List.append_assoc, List.singleton_append] at hscan
    obtain ⟨h, hnode⟩ := readNode_more hbrace hscan hread
    refine ⟨n, d :: rest, h, hnode, hsignature hn hmap, ?_⟩
    exact (Text.trimLeft_append_of_isBlank Text.isBlank_of_mem_space (d :: rest)).symm

/-- **Readable nodes are read back from their text**, up to how their tests were put together. -/
theorem NodeMatcher.Readable.exists_readNode {m : NodeMatcher V} {used : List String}
    (hm : m.Readable voc) (hnew : ∀ a ∈ m.name, a ∉ used) {after : List Char}
    (hafter : EdgeFollows after) :
    ∃ c cs, m.text.toList ++ after = c :: cs ∧ Text.isBlank c = false ∧ ∀ position, ∃ n rest h,
      readNode voc used position c cs = .ok ⟨n, m.name.toList ++ used, rest, h⟩ ∧
        n.signature = m.signature ∧ Text.trimLeft rest = Text.trimLeft after := by
  cases hname : m.name with
  | none =>
    rw [text_toList, hname]
    exact hm.exists_readNode_plain hname hafter
  | some a =>
    obtain ⟨inner, htext, hinner, hread⟩ := hm.exists_readCapturedNode hname (hnew a hname)
    refine ⟨'\x7b', inner ++ '\x7d' :: after, by simp [htext], by decide, fun position ↦ ?_⟩
    obtain ⟨n, hread, hsig⟩ := hread (position + 1)
    obtain ⟨h, hnode⟩ := readNode_braces hinner hread after
    exact ⟨n, after, h, hnode, hsig, rfl⟩

/-! ## Equal matchers -/

theorem eq_of_map_eq {α β : Type} {f : α → β} {P : α → Prop}
    (hf : ∀ x y, P x → P y → f x = f y → x = y) {xs ys : List α} (hxs : ∀ x ∈ xs, P x)
    (hys : ∀ y ∈ ys, P y) (h : xs.map f = ys.map f) : xs = ys := by
  induction xs generalizing ys with
  | nil => exact (List.map_eq_nil_iff.1 h.symm).symm
  | cons x xs ih =>
    obtain ⟨y, ys, rfl, hy, hmap⟩ := List.map_eq_cons_iff.1 h.symm
    obtain ⟨hx, hxs⟩ := List.forall_mem_cons.1 hxs
    obtain ⟨hy', hys⟩ := List.forall_mem_cons.1 hys
    rw [hf x y hx hy' hy.symm, ih hxs hys hmap.symm]

theorem toTest_eq_of_text {e f : Expression} (he : e.Writable voc) (hf : f.Writable voc)
    (h : e.text = f.text) : e.toTest voc = f.toTest voc := by
  rw [Expression.toTest, Expression.toTest, h,
    Expression.holds_eq_of_render_eq he hf (String.ofList_inj.1 h)]

theorem NodeTest.Readable.eq_of_expression? {t u : NodeTest V} (ht : t.Readable voc)
    (hu : u.Readable voc) (h : t.expression? = u.expression?) : t = u := by
  obtain rfl | ⟨e, he, rfl⟩ := ht <;> obtain rfl | ⟨f, hf, rfl⟩ := hu
  · rfl
  · exact nomatch h
  · exact nomatch h
  · exact toTest_eq_of_text he hf (Option.some_inj.1 h)

theorem NodeMatcher.Readable.eq_of_signature {m n : NodeMatcher V} (hm : m.Readable voc)
    (hn : n.Readable voc) (h : m.signature = n.signature) : m = n := by
  obtain ⟨name, tests, _, _⟩ := m
  obtain ⟨name', tests', _, _⟩ := n
  obtain ⟨rfl, htests⟩ : name = name' ∧
      tests.map NodeTest.expression? = tests'.map NodeTest.expression? := Prod.mk.inj h
  obtain rfl := eq_of_map_eq (fun _ _ ht hu ↦ ht.eq_of_expression? hu) hm.tests hn.tests htests
  rfl

end Motif
