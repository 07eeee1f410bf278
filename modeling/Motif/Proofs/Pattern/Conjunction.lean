import Motif.Proofs.Matcher.Conjunction
import Motif.Proofs.Pattern.Layout

/-!
# Two ways to write a conjunction

That several expressions hold of a node can be written with colons between them, or as one
expression, with `&` between them. The first makes a matcher of several tests, in which a repeated
test is dropped, and the second a single test. Both ask the expressions from left to right, up to
the first that fails or has a fault, and a test that is repeated behind itself can only hold again
(`NodeTest.answers_distinctBy`). So the two accept the same nodes and have the same faults, but the
second asks several expressions as a sequence, and its faults are those that leave a sequence
(`Pattern.read_colons_ands`). It does not matter how the expressions are written, as long as each of
them can be read on its own.
-/

namespace Motif

open Text (Lays)

variable {V : Type} {voc : Vocabulary V}

/-- A matcher agrees with `m` if it accepts the same vertices, and its faults are those of `m`, each
of which it passes on in its way. -/
structure NodeMatcher.Agree (passOn : FieldFault → FieldFault) (m n : NodeMatcher V) : Prop where
  /-- What one accepts, the other accepts. -/
  accepts : ∀ v, m.accepts v = true ↔ n.accepts v = true
  /-- A fault of one is a fault of the other. -/
  faults : ∀ v fault, n.matchText v = .error fault ↔
    ∃ raised, m.matchText v = .error raised ∧ passOn raised = fault

private theorem NodeMatcher.agree_of_answers {passOn : FieldFault → FieldFault}
    {m n : NodeMatcher V}
    (h : ∀ v, NodeTest.answers n.tests v = (NodeTest.answers m.tests v).mapError passOn) :
    m.Agree passOn n where
  accepts v := by rw [accepts_eq_true_iff, accepts_eq_true_iff, h, mapError_eq_ok_iff]
  faults v fault := by
    rw [matchText_eq_error_iff, h, mapError_eq_error_iff]
    simp only [matchText_eq_error_iff]

/-- A fault as it leaves a conjunction of so many parts. Several parts are asked as a sequence, and
a single part is not. -/
def FieldFault.outOf (parts : Nat) (fault : FieldFault) : FieldFault :=
  if parts < 2 then fault else fault.inSequence

@[simp] theorem FieldFault.inSequence_outOf (parts : Nat) (fault : FieldFault) :
    (fault.outOf parts).inSequence = fault.inSequence := by
  rw [outOf]
  split
  · rfl
  · exact inSequence_inSequence fault

/-! ## Expressions with `&` between them -/

namespace Expression

theorem holds_grouped_and (e : Expression) (es : List Expression) (v : V) :
    (grouped .and e es).holds voc v =
      (NodeTest.answers ((e :: es).map (toTest voc)) v).mapError
        (FieldFault.outOf (es.length + 1)) := by
  induction es generalizing e with
  | nil =>
    rw [List.map_singleton, NodeTest.answers_singleton, grouped]
    change _ = (e.holds voc v).mapError (FieldFault.outOf 1)
    cases e.holds voc v <;> rfl
  | cons f fs ih =>
    have hout : FieldFault.outOf ((f :: fs).length + 1) = FieldFault.inSequence := by
      funext fault
      exact if_neg (by simp)
    rw [grouped, holds, ih, hout]
    change _ = (e.holds voc v >>= fun b ↦
      if b then NodeTest.answers ((f :: fs).map (toTest voc)) v else pure false).mapError _
    rcases e.holds voc v with fault | b
    · rfl
    · cases b with
      | false => rfl
      | true => simp only [ok_bind, if_true, mapError_mapError, FieldFault.inSequence_outOf]

theorem Units.append {us vs : List (List Char)} {ls ms : List Lexeme} (h : Units us ls)
    (h' : Units vs ms) : Units (us ++ vs) (ls ++ ms) := by
  induction h with
  | nil => exact h'
  | sign hc _ ih => exact .sign hc ih
  | test hc hname hquote hvalue _ ih => exact .test hc hname hquote hvalue ih

variable {cs : List Char} {css : List (List Char)} {e : Expression} {es : List Expression}

private theorem exists_forall₂_read (h : ∀ cs ∈ css, ∃ e, read voc cs = .ok e) :
    ∃ es, List.Forall₂ (fun cs e ↦ read voc cs = .ok e) css es := by
  induction css with
  | nil => exact ⟨[], .nil⟩
  | cons cs css ih =>
    obtain ⟨⟨e, he⟩, hcss⟩ := List.forall_mem_cons.1 h
    obtain ⟨es, hes⟩ := ih hcss
    exact ⟨e :: es, .cons he hes⟩

private theorem exists_units_parentheses (h : read voc cs = .ok e) :
    ∃ us ls, Units us ls ∧ Derives .literal ls e ∧ KnownNames voc ls ∧
      Lays us ('(' :: cs ++ [')']) := by
  obtain ⟨ls, hspells, hderives, hnames⟩ := read_eq_ok_iff.1 h
  obtain ⟨us, hus, hlays⟩ := hspells.exists_units
  have hclose : Units [[')']] [.closeParen] := .sign rfl .nil
  refine ⟨_, _, .sign rfl (hus.append hclose), hderives.parentheses, ?_, hlays.between⟩
  rw [knownNames_cons_iff (by simp)]
  exact hnames.append fun name value hmem ↦ absurd hmem (by simp)

private theorem exists_units_ands (h : read voc cs = .ok e)
    (hs : List.Forall₂ (fun cs e ↦ read voc cs = .ok e) css es) :
    ∃ us ls, Units us ls ∧ Derives .conjunction ls (grouped .and e es) ∧ KnownNames voc ls ∧
      Lays us ([' ', '&', ' '].intercalate ((cs :: css).map fun cs ↦ '(' :: cs ++ [')'])) := by
  obtain ⟨us, ls, hus, hd, hk, hlays⟩ := exists_units_parentheses h
  induction hs generalizing cs e us ls with
  | nil => exact ⟨us, ls, hus, hd.conjunction_one, hk, by simpa using hlays⟩
  | cons h' _ ih =>
    obtain ⟨us', ls', hus', hd', hk', hlays'⟩ := exists_units_parentheses h'
    obtain ⟨vs, ms, hvs, hms, hk', hlays'⟩ := ih h' us' ls' hus' hd' hk' hlays'
    have hand : Units (['&'] :: vs) (.and :: ms) := .sign rfl hvs
    refine ⟨_, _, hus.append hand, hd.conjunction_more hms,
      hk.append ((knownNames_cons_iff (by simp)).2 hk'), ?_⟩
    have hspace := Text.isBlank_of_mem_space
    have hsplit := (hlays.append_blanks hspace).split (d := '&') (hlays'.blanks_append hspace)
    rw [List.map_cons, List.map_cons, List.intercalate_cons_cons, List.append_assoc]
    simpa using hsplit

end Expression

/-! ## Reading conjunctions -/

namespace Pattern

def colons (texts : List String) : String := ":".intercalate texts

/-- Texts in parentheses, with `&` between them. -/
def ands (texts : List String) : String := " & ".intercalate (texts.map fun s ↦ "(" ++ s ++ ")")

/-- A text behind the name of a capture in braces, or the text alone. -/
def inBraces : Option String → String → String
  | none, s => s
  | some a, s => "\x7b" ++ a ++ ":" ++ s ++ "\x7d"

private theorem exists_conjunctionUnits_colons {cs : List Char} {css : List (List Char)}
    {e : Expression} {es : List Expression} (h : Expression.read voc cs = .ok e)
    (hs : List.Forall₂ (fun cs e ↦ Expression.read voc cs = .ok e) css es) :
    ∃ us, ConjunctionUnits voc us (e.toTest voc) (es.map (Expression.toTest voc)) ∧
      Lays us ([':'].intercalate (cs :: css)) := by
  have htest {cs : List Char} {e : Expression} (h : Expression.read voc cs = .ok e) :
      ∃ us, TestUnits voc us (e.toTest voc) ∧ Lays us cs := by
    obtain ⟨ls, hspells, hderives, hnames⟩ := Expression.read_eq_ok_iff.1 h
    obtain ⟨us, hus, hlays⟩ := hspells.exists_units
    exact ⟨us, .holds hus hderives hnames, hlays⟩
  induction hs generalizing cs e with
  | nil =>
    obtain ⟨us, hus, hlays⟩ := htest h
    exact ⟨us, .one hus, by simpa using hlays⟩
  | cons h' _ ih =>
    obtain ⟨us, hus, hlays⟩ := htest h
    obtain ⟨vs, hvs, hlays'⟩ := ih h'
    refine ⟨_, .more hus hvs, ?_⟩
    rw [List.intercalate_cons_cons]
    simpa using hlays.split hlays'

private theorem read_inBraces {us : List (List Char)} {t : NodeTest V} {ts : List (NodeTest V)}
    {text : String} {a : Option String} (ha : ∀ x ∈ a, isName x.toList = true)
    (h : ConjunctionUnits voc us t ts) (htext : Lays us text.toList) :
    read voc (inBraces a text) =
      .ok ⟨{ NodeMatcher.ofTests (t :: ts) (by simp) with name := a }, []⟩ := by
  have hnode : ∃ vs, NodeUnits voc vs { NodeMatcher.ofTests (t :: ts) (by simp) with name := a } ∧
      Lays vs (inBraces a text).toList := by
    cases a with
    | none => exact ⟨us, .tests h, htext⟩
    | some a =>
      have hname : Lays [a.toList] a.toList := by
        simpa using (Lays.nil Text.isBlank_of_mem_nil).cons' (u := a.toList)
      refine ⟨_, .captured (ha a rfl) h, ?_⟩
      simpa [inBraces] using (hname.split htext).between (c := '\x7b') (d := '\x7d')
  obtain ⟨vs, hvs, hlays⟩ := hnode
  have hunits : PatternUnits voc (vs ++ [])
      ⟨{ NodeMatcher.ofTests (t :: ts) (by simp) with name := a }, []⟩ := .intro hvs .nil
  rw [List.append_nil] at hunits
  refine (patternText_iff_lays.2 ⟨vs, hunits, hlays⟩).givesIf.ok ?_
  rw [captures_eq]
  cases a <;> simp [linkCaptures]

/-- **Colons and `&` agree.** Expressions that are read on their own can be written with colons
between them, or in parentheses with `&` between them. Both texts are read as a node, alone and in a
capture, and the two matchers accept the same vertices. Where one has a fault the other has this
fault, as it leaves the conjunction of the expressions. The second is a single test, which is what
the text is compiled to as an expression. -/
theorem read_colons_ands {texts : List String} (hne : texts ≠ [])
    (htexts : ∀ s ∈ texts, ∃ offset t, Expression.compile voc s.toList offset = .ok t)
    {a b : Option String} (ha : ∀ x ∈ a, isName x.toList = true)
    (hb : ∀ x ∈ b, isName x.toList = true) :
    ∃ m n, read voc (inBraces a (colons texts)) = .ok ⟨m, []⟩ ∧ m.name = a ∧
      read voc (inBraces b (ands texts)) = .ok ⟨n, []⟩ ∧ n.name = b ∧
      m.Agree (FieldFault.outOf texts.length) n ∧
      ∃ t, n.tests = [t] ∧ ∀ offset, Expression.compile voc (ands texts).toList offset = .ok t := by
  obtain ⟨s, rest, rfl⟩ := List.exists_cons_of_ne_nil hne
  have hread : ∀ u ∈ s :: rest, ∃ e, Expression.read voc u.toList = .ok e := by
    intro u hu
    obtain ⟨offset, t, ht⟩ := htexts u hu
    obtain ⟨e, he, -⟩ := Expression.compile_eq_ok_iff.1 ht
    exact ⟨e, he⟩
  obtain ⟨⟨e, he⟩, hrest⟩ := List.forall_mem_cons.1 hread
  obtain ⟨es, hes⟩ := Expression.exists_forall₂_read (List.forall_mem_map.2 hrest)
  -- The units of both texts.
  obtain ⟨us, hus, hcolons⟩ := exists_conjunctionUnits_colons he hes
  obtain ⟨vs, ls, hvs, hderives, hnames, hands⟩ := Expression.exists_units_ands he hes
  replace hcolons : Lays us (colons (s :: rest)).toList := by
    rw [colons, String.toList_intercalate]
    exact hcolons
  replace hands : Lays vs (ands (s :: rest)).toList := by
    have hparentheses : (String.toList ∘ fun s ↦ "(" ++ s ++ ")") =
        (fun cs ↦ '(' :: cs ++ [')']) ∘ String.toList := by
      funext s
      simp [String.toList_append]
    rw [ands, String.toList_intercalate, List.map_map, hparentheses, ← List.map_map]
    exact hands
  have htest : TestUnits voc vs ((Expression.grouped .and e es).toTest voc) :=
    .holds hvs hderives.disjunction_one hnames
  refine ⟨_, _, read_inBraces ha hus hcolons, rfl, read_inBraces hb (.one htest) hands, rfl, ?_,
    _, rfl, fun offset ↦ ?_⟩
  · refine NodeMatcher.agree_of_answers fun v ↦ ?_
    -- Tests that are shown alike are the same, so nothing is lost with a repetition.
    have hreadable := NodeTest.readable_of_readTests (hus.readTests hcolons 0)
    have hdistinct := NodeTest.answers_distinctBy (v := v) fun t ht u hu heq ↦
      congrArg (NodeTest.answer · v) ((hreadable t ht).eq_of_expression? (hreadable u hu) heq)
    have hlength : es.length + 1 = (s :: rest).length := by
      rw [← hes.length_eq, List.length_map, List.length_cons]
    calc NodeTest.answers [(Expression.grouped .and e es).toTest voc] v
        = (Expression.grouped .and e es).holds voc v := NodeTest.answers_singleton _ v
      _ = (NodeTest.answers ((e :: es).map (Expression.toTest voc)) v).mapError _ :=
          Expression.holds_grouped_and e es v
      _ = (NodeTest.answers (distinctBy NodeTest.expression? _) v).mapError _ := by
          rw [List.map_cons, ← hdistinct, hlength]
  · exact Expression.compile_eq_ok_iff.2 ⟨_, Expression.read_eq_ok_iff.2
      ⟨ls, hvs.spells hands, hderives.disjunction_one, hnames⟩, rfl⟩

/-- A value with a colon, the same test in another spelling, and an attribute that no text has. -/
def echoed : List String := ["self='a:b'", "(self=\"a:b\")", "age='1'"]

theorem read_colons_ands_echo :
    ∃ m n, read Expression.echo "\x7bx:self='a:b':(self=\"a:b\"):age='1'\x7d" = .ok ⟨m, []⟩ ∧
      read Expression.echo "(self='a:b') & ((self=\"a:b\")) & (age='1')" = .ok ⟨n, []⟩ ∧
      m.Agree FieldFault.inSequence n ∧ m.tests.length = 2 ∧
      n.matchText "a:b" = .error (.noField "str" "age") := by
  have htexts : ∀ s ∈ echoed, ∃ offset t,
      Expression.compile Expression.echo s.toList offset = .ok t := by
    have hread : echoed.all fun s ↦
        (Expression.compile Expression.echo s.toList 0).toOption.isSome := by
      set_option maxRecDepth 2048 in cbv
    intro s hs
    obtain ⟨t, ht⟩ := Option.isSome_iff_exists.1 (List.all_eq_true.1 hread s hs)
    exact ⟨0, t, toOption_eq_some_iff.1 ht⟩
  have hname : ∀ x ∈ some "x", isName x.toList = true := by decide
  obtain ⟨m, n, hm, -, hn, -, hagree, -⟩ :=
    @read_colons_ands _ _ echoed (List.cons_ne_nil _ _) htexts (some "x") none hname (by simp)
  have hcolons : inBraces (some "x") (colons echoed) =
      "\x7bx:self='a:b':(self=\"a:b\"):age='1'\x7d" := by decide
  have hands : inBraces none (ands echoed) =
      "(self='a:b') & ((self=\"a:b\")) & (age='1')" := by decide
  rw [hcolons] at hm
  rw [hands] at hn
  refine ⟨m, n, hm, hn, hagree, ?_, ?_⟩
  · have hlength : (read Expression.echo
        "\x7bx:self='a:b':(self=\"a:b\"):age='1'\x7d").toOption.map
          (·.first.tests.length) = some 2 := by
      set_option maxRecDepth 2048 in cbv
    rw [hm] at hlength
    exact Option.some_inj.1 hlength
  · have hfault : (read Expression.echo
        "(self='a:b') & ((self=\"a:b\")) & (age='1')").toOption.map
          (·.first.matchText "a:b") = some (.error (.noField "str" "age")) := by
      set_option maxRecDepth 2048 in cbv
    rw [hn] at hfault
    exact Option.some_inj.1 hfault

/-- Texts that say themselves, and an attribute for which there is never a next value. -/
def drained : Vocabulary String :=
  ⟨[("self", fun s ↦ .ok (.text s)), ("next", fun _ ↦ .error (.exhausted "StopIteration" ""))], []⟩

private theorem exists_node_of_read {text : String} {r : Except FieldFault (Option String)}
    (h : (read drained text).toOption.map (fun p ↦ (p.links.length, p.first.matchText "a")) =
      some (0, r)) :
    ∃ m, read drained text = .ok ⟨m, []⟩ ∧ m.matchText "a" = r := by
  obtain ⟨⟨m, links⟩, hread, heq⟩ := Option.map_eq_some_iff.1 h
  obtain ⟨hlinks, hmatch⟩ := Prod.mk.inj heq
  obtain rfl := List.length_eq_zero_iff.1 hlinks
  exact ⟨m, toOption_eq_some_iff.1 hread, hmatch⟩

/-- Where a reader is exhausted, several expressions in one have another fault than the expressions
on their own. -/
theorem not_agree_of_exhausted :
    ∃ m n, read drained (colons ["self='a'", "next='b'"]) = .ok ⟨m, []⟩ ∧
      read drained (ands ["self='a'", "next='b'"]) = .ok ⟨n, []⟩ ∧
      m.matchText "a" = .error (.exhausted "StopIteration" "") ∧
      n.matchText "a" = .error (.interrupted "StopIteration" "") ∧
      ¬ ∀ fault, m.matchText "a" = .error fault ↔ n.matchText "a" = .error fault := by
  obtain ⟨m, hm, hmfault⟩ : ∃ m, read drained (colons ["self='a'", "next='b'"]) = .ok ⟨m, []⟩ ∧
      m.matchText "a" = .error (.exhausted "StopIteration" "") := by
    apply exists_node_of_read
    set_option maxRecDepth 2048 in cbv
  obtain ⟨n, hn, hnfault⟩ : ∃ n, read drained (ands ["self='a'", "next='b'"]) = .ok ⟨n, []⟩ ∧
      n.matchText "a" = .error (.interrupted "StopIteration" "") := by
    apply exists_node_of_read
    set_option maxRecDepth 2048 in cbv
  refine ⟨m, n, hm, hn, hmfault, hnfault, fun h ↦ ?_⟩
  have hfault := (h _).1 hmfault
  rw [hnfault] at hfault
  exact absurd hfault (by decide)

end Pattern

end Motif
