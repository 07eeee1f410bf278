import Motif.Proofs.Pattern.Grammar
import Motif.Proofs.Text.Layout

/-!
# Where blanks do not count

The units of a pattern text are its delimiters, braces and colons, its names and labels, the
wildcard, and the units of its node expressions: the signs, and of a test the name, the equals sign
and the value in quotes.

```text
pattern     := node (edge node)*
node        := conjunction | { name } | { name : conjunction }
conjunction := test (: test)*
test        := .* | units of an expression
edge        := delimiter label delimiter | delimiter { name } delimiter
             | delimiter { name : label } delimiter
```

`PatternUnits` is this grammar as a relation between sequences of units and patterns. A text is that
of a pattern exactly if it lays out units of the pattern (`patternText_iff_lays`), and which blanks
are between the units does not matter for that. Reading knows blanks in several places: it skips
them between elements, trims the pieces that an element is divided into, and drops them between the
units of an expression. That these agree is what is shown here, one element after the other and in
both directions: a piece that is read lays out units, and what lays out the same units is read as
the same. So blanks can be put in between any two units of a text that is read
(`read_insert_blanks`).
-/

namespace Motif

open Text (Lays Solid)

/-! ## Expressions -/

namespace Expression

/-- The units of an expression as texts, a test being three of them. -/
inductive Units : List (List Char) → List Lexeme → Prop where
  /-- No units. -/
  | nil : Units [] []
  /-- A parenthesis or an operator. -/
  | sign {c : Char} {l : Lexeme} {us : List (List Char)} {ls : List Lexeme}
      (hc : Lexeme.ofChar? c = some l) (rest : Units us ls) : Units ([c] :: us) (l :: ls)
  /-- The name, the equals sign and the value of an attribute test. -/
  | test {c quote : Char} {name value : List Char} {us : List (List Char)} {ls : List Lexeme}
      (hc : isNameStart c = true) (hname : ∀ d ∈ name, Text.isWord d = true)
      (hquote : quote = '"' ∨ quote = '\'') (hvalue : quote ∉ value) (rest : Units us ls) :
      Units ((c :: name) :: ['='] :: (quote :: value ++ [quote]) :: us)
        (.test (String.ofList (c :: name)) (String.ofList value) :: ls)

variable {us : List (List Char)} {ls : List Lexeme} {cs bs : List Char}

private theorem Spells.blanks_append (hbs : ∀ b ∈ bs, Text.isBlank b = true) (h : Spells cs ls) :
    Spells (bs ++ cs) ls := by
  induction bs with
  | nil => exact h
  | cons b bs ih =>
    obtain ⟨hb, hbs⟩ := List.forall_mem_cons.1 hbs
    exact .blank hb (ih hbs)

theorem Units.spells (h : Units us ls) (hcs : Lays us cs) : Spells cs ls := by
  induction h generalizing cs with
  | nil =>
    rw [← List.append_nil cs]
    exact Spells.nil.blanks_append hcs.isBlank_of_nil
  | sign hc _ ih =>
    obtain ⟨bs, ds, rfl, hbs, hds⟩ := hcs.exists_of_cons
    exact (Spells.sign hc (ih hds)).blanks_append hbs
  | test hc hname hquote hvalue _ ih =>
    obtain ⟨bs, ds, rfl, hbs, hds⟩ := hcs.exists_of_cons
    obtain ⟨before, ds, rfl, hbefore, hds⟩ := hds.exists_of_cons
    obtain ⟨after, ds, rfl, hafter, hds⟩ := hds.exists_of_cons
    have htest := Spells.test hc hname hbefore hafter hquote hvalue (ih hds)
    refine Spells.blanks_append hbs ?_
    simpa using htest

theorem Spells.exists_units (h : Spells cs ls) : ∃ us, Units us ls ∧ Lays us cs := by
  induction h with
  | nil => exact ⟨[], .nil, .nil Text.isBlank_of_mem_nil⟩
  | blank hc _ ih =>
    obtain ⟨us, hus, hlays⟩ := ih
    exact ⟨us, hus, hlays.blanks_append (List.forall_mem_singleton.2 hc)⟩
  | sign hc _ ih =>
    obtain ⟨us, hus, hlays⟩ := ih
    exact ⟨_, .sign hc hus, hlays.cons'⟩
  | @test c quote name before after value cs ls hc hname hbefore hafter hquote hvalue _ ih =>
    obtain ⟨us, hus, hlays⟩ := ih
    refine ⟨_, .test hc hname hquote hvalue hus, ?_⟩
    have hvalue : Lays ((quote :: value ++ [quote]) :: us)
        (after ++ (quote :: value ++ [quote] ++ cs)) := .cons hafter hlays
    have htest := (Lays.cons hbefore hvalue (u := ['='])).cons' (u := c :: name)
    simpa using htest

private theorem Units.solid (h : Units us ls) : ∀ u ∈ us, Solid u := by
  induction h with
  | nil => exact fun u hu ↦ absurd hu List.not_mem_nil
  | sign hc _ ih =>
    exact List.forall_mem_cons.2 ⟨Text.solid_singleton (class_of_ofChar? hc).1, ih⟩
  | @test c quote name value us ls hc hname hquote hvalue _ ih =>
    have hword : ∀ d ∈ c :: name, Text.isBlank d = false := fun d hd ↦ by
      rcases List.mem_cons.1 hd with rfl | hd
      · exact isBlank_of_isNameStart hc
      · exact Text.isBlank_of_isWord (hname d hd)
    have hblank : Text.isBlank quote = false := by
      rcases hquote with rfl | rfl <;> decide
    refine List.forall_mem_cons.2 ⟨⟨List.cons_ne_nil c name, ?_, ?_⟩, List.forall_mem_cons.2
      ⟨Text.solid_singleton (by decide), List.forall_mem_cons.2 ⟨⟨by simp, ?_, ?_⟩, ih⟩⟩⟩
    · exact fun d hd ↦ hword d (List.mem_of_mem_head? hd)
    · exact fun d hd ↦ hword d (List.mem_of_getLast? hd)
    · intro d hd
      obtain rfl : quote = d := Option.some_inj.1 hd
      exact hblank
    · intro d hd
      rw [List.getLast?_concat] at hd
      obtain rfl : quote = d := Option.some_inj.1 hd
      exact hblank

end Expression

namespace Pattern

variable {V : Type} {voc : Vocabulary V} {us vs : List (List Char)} {cs : List Char}
  {position : Nat}

/-- A single unit is transparent with blanks around it, if it is on its own. -/
theorem transparent_of_lays {isDelimiter : Char → Bool} {u : List Char} {depth : Int}
    (hd : ∀ c, isDelimiter c = true → c ∈ Expression.nodeDelimiters)
    (hu : Transparent isDelimiter depth u) (hcs : Lays [u] cs) :
    Transparent isDelimiter depth cs := by
  obtain ⟨bs, bs', rfl, hbs, hbs'⟩ := hcs.exists_of_singleton
  exact (Expression.transparent_of_isBlank hd hbs depth).append
    (hu.append (Expression.transparent_of_isBlank hd hbs' depth))

/-! ## Tests -/

/-- The units of a test: the wildcard, or those of an expression with known names. -/
inductive TestUnits (voc : Vocabulary V) : List (List Char) → NodeTest V → Prop where
  /-- The wildcard. -/
  | any : TestUnits voc [wildcard] .any
  /-- An expression. -/
  | holds {us : List (List Char)} {ls : List Expression.Lexeme} {e : Expression}
      (hus : Expression.Units us ls) (hderives : Expression.Derives .disjunction ls e)
      (hnames : Expression.KnownNames voc ls) : TestUnits voc us (e.toTest voc)

theorem solid_wildcard : Solid wildcard := by
  refine ⟨List.cons_ne_nil _ _, fun c hc ↦ ?_, fun c hc ↦ ?_⟩
  · obtain rfl : '.' = c := Option.some_inj.1 hc
    decide
  · obtain rfl : '*' = c := Option.some_inj.1 hc
    decide

namespace TestUnits

variable {t : NodeTest V}

theorem solid (h : TestUnits voc us t) : ∀ u ∈ us, Solid u := by
  cases h with
  | any => exact List.forall_mem_singleton.2 solid_wildcard
  | holds hus _ _ => exact hus.solid

theorem ne_nil (h : TestUnits voc us t) : us ≠ [] := by
  cases h with
  | any => exact List.cons_ne_nil _ _
  | holds hus hderives _ =>
    rintro rfl
    cases hus with
    | nil => exact hderives.ne_nil rfl

/-- A scan for the end of a node, or of a test, passes over the text of a test. -/
theorem transparent {isDelimiter : Char → Bool}
    (hd : ∀ c, isDelimiter c = true → c ∈ Expression.nodeDelimiters) (h : TestUnits voc us t)
    (hcs : Lays us cs) (depth : Int) : Transparent isDelimiter depth cs := by
  cases h with
  | any =>
    have hwild : Transparent isDelimiter depth wildcard :=
      transparent_wildcard (Expression.isDelimiter_eq_false hd (by decide))
        (Expression.isDelimiter_eq_false hd (by decide)) depth
    exact transparent_of_lays hd hwild hcs
  | holds hus hderives _ =>
    have hspells := hus.spells hcs
    refine ⟨hspells.passes hd depth, ?_⟩
    rw [Expression.run_spells hspells, hderives.balance_eq_zero, Int.add_zero]

theorem readTest (h : TestUnits voc us t) (hcs : Lays us cs) (position : Nat) :
    readTest voc position cs = .ok t := by
  have hne := hcs.trim_ne_nil h.solid h.ne_nil
  have htrim := hcs.trim h.solid
  rw [Pattern.readTest]
  dsimp only
  rw [if_neg (by simpa using hne)]
  cases h with
  | any =>
    obtain ⟨bs, bs', rfl, hbs, hbs'⟩ := hcs.exists_of_singleton
    rw [Text.trim_append hbs solid_wildcard.2 hbs', if_pos rfl]
  | @holds us ls e hus hderives hnames =>
    have hspells := hus.spells htrim
    -- No unit of an expression begins with a dot.
    have hwild : Text.trim cs ≠ wildcard := by
      intro hwild
      rw [hwild, wildcard] at hspells
      exact absurd (hspells.isNameStart (by decide) rfl) (by decide)
    rw [if_neg hwild]
    exact mapError_eq_ok_iff.2 (Expression.compile_eq_ok_iff.2
      ⟨e, Expression.read_eq_ok_iff.2 ⟨ls, hspells, hderives, hnames⟩, rfl⟩)

end TestUnits

private theorem exists_testUnits {t : NodeTest V} (h : readTest voc position cs = .ok t) :
    ∃ us, TestUnits voc us t ∧ Lays us cs := by
  rw [readTest] at h
  dsimp only at h
  split at h
  · exact absurd h (by simp [refuse])
  split at h
  · next hwild =>
    obtain rfl := Except.ok.inj h
    have hlays := Lays.singleton_trim cs
    rw [hwild] at hlays
    exact ⟨_, .any, hlays⟩
  · obtain ⟨e, hread, rfl⟩ := Expression.compile_eq_ok_iff.1 (mapError_eq_ok_iff.1 h)
    obtain ⟨ls, hspells, hderives, hnames⟩ := Expression.read_eq_ok_iff.1 hread
    obtain ⟨us, hus, hlays⟩ := hspells.exists_units
    exact ⟨us, .holds hus hderives hnames, hlays.of_trim⟩

/-! ## Conjunctions -/

/-- The units of tests with colons between them: the first test and the others. -/
inductive ConjunctionUnits (voc : Vocabulary V) :
    List (List Char) → NodeTest V → List (NodeTest V) → Prop where
  /-- A single test. -/
  | one {us : List (List Char)} {t : NodeTest V} (h : TestUnits voc us t) :
      ConjunctionUnits voc us t []
  /-- A test, a colon and further tests. -/
  | more {us vs : List (List Char)} {t u : NodeTest V} {ts : List (NodeTest V)}
      (h : TestUnits voc us t) (hrest : ConjunctionUnits voc vs u ts) :
      ConjunctionUnits voc (us ++ [':'] :: vs) t (u :: ts)

namespace ConjunctionUnits

variable {t : NodeTest V} {ts : List (NodeTest V)}

theorem solid (h : ConjunctionUnits voc us t ts) : ∀ u ∈ us, Solid u := by
  induction h with
  | one h => exact h.solid
  | more h _ ih =>
    refine List.forall_mem_append.2 ⟨h.solid, List.forall_mem_cons.2 ⟨?_, ih⟩⟩
    exact Text.solid_singleton (by decide)

theorem ne_nil (h : ConjunctionUnits voc us t ts) : us ≠ [] := by
  cases h with
  | one h => exact h.ne_nil
  | more h _ => exact List.append_ne_nil_of_left_ne_nil h.ne_nil _

theorem transparent {isDelimiter : Char → Bool}
    (hd : ∀ c, isDelimiter c = true → c ∈ Expression.nodeDelimiters)
    (hcolon : isDelimiter ':' = false) (h : ConjunctionUnits voc us t ts) (hcs : Lays us cs)
    (depth : Int) : Transparent isDelimiter depth cs := by
  induction h generalizing cs with
  | one h => exact h.transparent hd hcs depth
  | more h _ ih =>
    obtain ⟨xs, ys, rfl, hxs, hys⟩ := hcs.exists_of_split
    exact (h.transparent hd hxs depth).append (.cons (by decide) hcolon (ih hys))

theorem readTests (h : ConjunctionUnits voc us t ts) (hcs : Lays us cs) (position : Nat) :
    readTests voc position cs = .ok (t, ts) := by
  have hd : ∀ c : Char, (c == ':') = true → c ∈ Expression.nodeDelimiters := by
    intro c hc
    obtain rfl : c = ':' := by simpa using hc
    decide
  induction h generalizing cs position with
  | one h =>
    exact readTests_last (scanTo_eq_none (h.transparent hd hcs 0).passes) (h.readTest hcs position)
  | more h _ ih =>
    obtain ⟨xs, ys, rfl, hxs, hys⟩ := hcs.exists_of_split
    have hscan := (h.transparent hd hxs 0).scanTo_append (beq_self_eq_true ':') ys
    exact readTests_more hscan (h.readTest hxs position) (ih hys _)

theorem readConjunction (h : ConjunctionUnits voc us t ts) (hcs : Lays us cs) (position : Nat) :
    readConjunction voc position cs = .ok (.ofTests (t :: ts) (by simp)) := by
  rw [Pattern.readConjunction, h.readTests hcs position]
  rfl

end ConjunctionUnits

theorem exists_conjunctionUnits {r : NodeTest V × List (NodeTest V)}
    (h : readTests voc position cs = .ok r) :
    ∃ us, ConjunctionUnits voc us r.1 r.2 ∧ Lays us cs := by
  fun_induction readTests voc position cs generalizing r with
  | case1 position cs hscan =>
    obtain ⟨t, ht, h⟩ := bind_eq_ok_iff.1 h
    obtain rfl := Except.ok.inj h
    obtain ⟨us, hus, hlays⟩ := exists_testUnits ht
    exact ⟨us, .one hus, hlays⟩
  | case2 position cs before d after hscan ih =>
    obtain ⟨t, ht, h⟩ := bind_eq_ok_iff.1 h
    obtain ⟨⟨u, ts⟩, hrest, h⟩ := bind_eq_ok_iff.1 h
    obtain rfl := Except.ok.inj h
    obtain ⟨rfl, -, -, hd⟩ := scanTo_eq_some_iff.1 hscan
    obtain rfl : d = ':' := by simpa using hd
    obtain ⟨us, hus, hlays⟩ := exists_testUnits ht
    obtain ⟨vs, hvs, hlays'⟩ := ih hrest
    exact ⟨_, .more hus hvs, hlays.split hlays'⟩

/-! ## Names -/

section Names

variable {a : String}

theorem trim_name (ha : isName a.toList = true) (hcs : Lays [a.toList] cs) :
    Text.trim cs = a.toList := by
  obtain ⟨bs, bs', rfl, hbs, hbs'⟩ := hcs.exists_of_singleton
  exact Text.trim_append hbs (trimmed_of_isName ha) hbs'

theorem readName_of_lays (ha : isName a.toList = true) (hcs : Lays [a.toList] cs)
    (position : Nat) : readName [] position cs = .ok a := by
  have htrim := trim_name ha hcs
  exact readName_eq_ok_iff.2 ⟨htrim.symm, by rw [htrim, ha], List.not_mem_nil⟩

theorem colon_not_mem (ha : isName a.toList = true) (hcs : Lays [a.toList] cs) : ':' ∉ cs := by
  refine not_mem_of_isName_trim ?_ (by decide) (by decide)
  rw [trim_name ha hcs, ha]

theorem lays_of_readName {used : List String} (h : readName used position cs = .ok a) :
    isName a.toList = true ∧ Lays [a.toList] cs := by
  obtain ⟨htrim, hname, -⟩ := readName_eq_ok_iff.1 h
  rw [htrim]
  exact ⟨hname, Lays.singleton_trim cs⟩

theorem transparent_of_lays_name {isDelimiter : Char → Bool}
    (hd : ∀ c, isDelimiter c = true → c ∈ Expression.nodeDelimiters) (ha : isName a.toList = true)
    (hcs : Lays [a.toList] cs) (depth : Int) : Transparent isDelimiter depth cs :=
  transparent_of_lays hd
    (transparent_of_isName (fun _ ↦ Expression.isDelimiter_of_isWord hd) ha depth) hcs

end Names

/-! ## Nodes -/

/-- The units of a node. -/
inductive NodeUnits (voc : Vocabulary V) : List (List Char) → NodeMatcher V → Prop where
  /-- Tests. -/
  | tests {us : List (List Char)} {t : NodeTest V} {ts : List (NodeTest V)}
      (h : ConjunctionUnits voc us t ts) : NodeUnits voc us (.ofTests (t :: ts) (by simp))
  /-- A name in braces. -/
  | name {a : String} (ha : isName a.toList = true) :
      NodeUnits voc (['\x7b'] :: [a.toList] ++ [['\x7d']]) { NodeMatcher.any with name := some a }
  /-- A name, a colon and tests in braces. -/
  | captured {a : String} {us : List (List Char)} {t : NodeTest V} {ts : List (NodeTest V)}
      (ha : isName a.toList = true) (h : ConjunctionUnits voc us t ts) :
      NodeUnits voc (['\x7b'] :: ([a.toList] ++ [':'] :: us) ++ [['\x7d']])
        { NodeMatcher.ofTests (t :: ts) (by simp) with name := some a }

theorem mem_nodeDelimiters_brace {c : Char} (h : (c == '\x7d') = true) :
    c ∈ Expression.nodeDelimiters := by
  obtain rfl : c = '\x7d' := by simpa using h
  decide

/-- What lays out the units of a node is the text of the node, with blanks around it. -/
theorem NodeUnits.exists_nodeText {m : NodeMatcher V} (h : NodeUnits voc us m) (hcs : Lays us cs) :
    ∃ bs text bs', cs = bs ++ (text ++ bs') ∧ (∀ b ∈ bs, Text.isBlank b = true) ∧
      (∀ b ∈ bs', Text.isBlank b = true) ∧ NodeText voc text m := by
  cases h with
  | tests h =>
    obtain ⟨bs, bs', heq, hbs, hbs', htrimmed⟩ := Text.exists_blanks_trim cs
    refine ⟨bs, _, bs', heq, hbs, hbs', ?_⟩
    have hlays := hcs.trim h.solid
    obtain ⟨c, cs', htrim⟩ := List.exists_cons_of_ne_nil (hcs.trim_ne_nil h.solid h.ne_nil)
    rw [htrim] at hlays htrimmed ⊢
    exact .tests (htrimmed.1 c rfl)
      (h.transparent (fun _ ↦ mem_nodeDelimiters_of_endsNode) (by decide) hlays 0)
      (h.readConjunction hlays 0)
  | @name a ha =>
    obtain ⟨bs, inner, bs', rfl, hbs, hbs', hinner⟩ := hcs.exists_of_between
    have hread : readCapturedNode voc [] 0 inner =
        .ok (a, { NodeMatcher.any with name := some a }) := by
      rw [readCapturedNode, Text.cut_of_not_mem (colon_not_mem ha hinner)]
      dsimp only
      rw [readName_of_lays ha hinner]
      rfl
    refine ⟨bs, _, bs', rfl, hbs, hbs', .braces ?_ hread⟩
    exact transparent_of_lays_name (fun _ ↦ mem_nodeDelimiters_brace) ha hinner 0
  | @captured a us t ts ha h =>
    obtain ⟨bs, inner, bs', rfl, hbs, hbs', hinner⟩ := hcs.exists_of_between
    obtain ⟨name, tests, rfl, hname, htests⟩ := hinner.exists_of_split
    have hne : (Text.trim tests).isEmpty = false := by
      simpa using htests.trim_ne_nil h.solid h.ne_nil
    have hread : readCapturedNode voc [] 0 (name ++ ':' :: tests) =
        .ok (a, { NodeMatcher.ofTests (t :: ts) (by simp) with name := some a }) := by
      rw [readCapturedNode, Text.cut_append_cons (colon_not_mem ha hname)]
      dsimp only
      rw [readName_of_lays ha hname, ok_bind, hne, if_neg Bool.false_ne_true,
        h.readConjunction htests]
      rfl
    have hd : ∀ c, (c == '\x7d') = true → c ∈ Expression.nodeDelimiters :=
      fun _ ↦ mem_nodeDelimiters_brace
    refine ⟨bs, _, bs', rfl, hbs, hbs', .braces ?_ hread⟩
    exact (transparent_of_lays_name hd ha hname 0).append
      (.cons (by decide) (by decide) (h.transparent hd (by decide) htests 0))

theorem NodeText.exists_units {m : NodeMatcher V} (h : NodeText voc cs m) :
    ∃ us, NodeUnits voc us m ∧ Lays us cs := by
  have hconjunction {cs : List Char} {m : NodeMatcher V} {position : Nat}
      (hread : readConjunction voc position cs = .ok m) :
      ∃ us t ts, ConjunctionUnits voc us t ts ∧ Lays us cs ∧ .ofTests (t :: ts) (by simp) = m := by
    obtain ⟨⟨t, ts⟩, hr, h⟩ := bind_eq_ok_iff.1 hread
    obtain ⟨us, hus, hlays⟩ := exists_conjunctionUnits hr
    exact ⟨us, t, ts, hus, hlays, Except.ok.inj h⟩
  cases h with
  | tests hc hcs hread =>
    obtain ⟨us, t, ts, hus, hlays, rfl⟩ := hconjunction hread
    exact ⟨us, .tests hus, hlays⟩
  | braces hinner hread =>
    cases capturedNode_of_readCapturedNode hread with
    | name ha =>
      obtain ⟨hname, hlays⟩ := lays_of_readName ha
      exact ⟨_, .name hname, hlays.between⟩
    | tests ha hrest =>
      obtain ⟨hname, hlays⟩ := lays_of_readName ha
      obtain ⟨us, t, ts, hus, htests, rfl⟩ := hconjunction hrest
      exact ⟨_, .captured hname hus, (hlays.split htests).between⟩

/-! ## Edges -/

/-- The units of an edge. -/
inductive EdgeUnits : List (List Char) → EdgeMatcher → Prop where
  /-- A label. -/
  | label {c : Char} {directions : List Direction} {label : List Char} {t : LabelTest}
      (hc : directionsOf? c = some directions) (hlabel : Solid label)
      (hread : readLabel 0 label = .ok t) (houter : Transparent (· == c) 0 label) :
      EdgeUnits ([c] :: [label] ++ [[c]]) ⟨none, directions, t⟩
  /-- A name in braces. -/
  | name {c : Char} {directions : List Direction} {a : String}
      (hc : directionsOf? c = some directions) (ha : isName a.toList = true) :
      EdgeUnits ([c] :: (['\x7b'] :: [a.toList] ++ [['\x7d']]) ++ [[c]]) ⟨some a, directions, .any⟩
  /-- A name, a colon and a label in braces. -/
  | captured {c : Char} {directions : List Direction} {a : String} {label : List Char}
      {t : LabelTest} (hc : directionsOf? c = some directions) (ha : isName a.toList = true)
      (hlabel : Solid label) (hread : readLabel 0 label = .ok t)
      (houter : Transparent (· == c) 1 label) (hinner : Transparent (· == '\x7d') 0 label) :
      EdgeUnits ([c] :: (['\x7b'] :: ([a.toList] ++ [':'] :: [label]) ++ [['\x7d']]) ++ [[c]])
        ⟨some a, directions, t⟩

theorem mem_nodeDelimiters_of_directionsOf? {c d : Char} {directions : List Direction}
    (hc : directionsOf? c = some directions) (h : (d == c) = true) :
    d ∈ Expression.nodeDelimiters := by
  obtain rfl : d = c := by simpa using h
  exact mem_nodeDelimiters_of_endsNode (endsNode_of_directionsOf? hc)

section Body

variable {directions : List Direction} {inner : List Char} {a : String} {t : LabelTest}

private theorem readEdgeBody_of_lays_label {label : List Char} (hlabel : Solid label)
    (hread : readLabel 0 label = .ok t) (hinner : Lays [label] inner) :
    (Text.trimLeft inner).isEmpty = false ∧
      readEdgeBody directions [] 0 (Text.trimLeft inner) = .ok (⟨none, directions, t⟩, []) := by
  obtain ⟨bs, bs', rfl, hbs, hbs'⟩ := hinner.exists_of_singleton
  obtain ⟨c, label', rfl⟩ := List.exists_cons_of_ne_nil hlabel.1
  have hc := hlabel.2.1 c rfl
  rw [List.cons_append, Text.trimLeft_append_cons hbs hc, ← List.cons_append]
  have hread' : readLabel 0 (c :: label' ++ bs') = .ok t :=
    readLabel_congr (Text.trim_append_isBlank hbs' (c :: label')) hread
  refine ⟨rfl, readEdgeBody_of_readLabel (fun d hd ↦ ?_) hread' 0⟩
  obtain rfl : c = d := Option.some_inj.1 hd
  exact hc

private theorem readEdgeBody_of_lays_name {inside : List Char} (ha : isName a.toList = true)
    (hinside : Lays [a.toList] inside) :
    readEdgeBody directions [] 0 ('\x7b' :: inside ++ ['\x7d']) =
      .ok (⟨some a, directions, .any⟩, [a]) := by
  have htransparent := transparent_of_lays_name (fun _ ↦ mem_nodeDelimiters_brace) ha hinside 0
  rw [readEdgeBody_braces htransparent, Text.cut_of_not_mem (colon_not_mem ha hinside)]
  dsimp only
  rw [readName_of_lays ha hinside]
  rfl

private theorem readEdgeBody_of_lays_captured {name label label' : List Char}
    (ha : isName a.toList = true)
    (hlabel : Solid label) (hread : readLabel 0 label = .ok t) (hname : Lays [a.toList] name)
    (hlays : Lays [label] label')
    (htransparent : Transparent (· == '\x7d') 0 (name ++ ':' :: label')) :
    readEdgeBody directions [] 0 ('\x7b' :: (name ++ ':' :: label') ++ ['\x7d']) =
      .ok (⟨some a, directions, t⟩, [a]) := by
  have hlabel' (position : Nat) : readLabel position label' = .ok t := by
    refine readLabel_congr ?_ hread
    obtain ⟨bs, bs', rfl, hbs, hbs'⟩ := hlays.exists_of_singleton
    rw [Text.trim_append hbs hlabel.2 hbs', Text.trim_of_trimmed hlabel.2]
  rw [readEdgeBody_braces htransparent, Text.cut_append_cons (colon_not_mem ha hname)]
  dsimp only
  rw [readName_of_lays ha hname, ok_bind, hlabel']
  rfl

private theorem edgeText_braces {c : Char} {bs inside bs' : List Char} {m : EdgeMatcher}
    {used : List String} (hc : directionsOf? c = some directions)
    (hbs : ∀ b ∈ bs, Text.isBlank b = true) (hbs' : ∀ b ∈ bs', Text.isBlank b = true)
    (houter : Transparent (· == c) 1 inside) (hinner : Transparent (· == '\x7d') 0 inside)
    (hread : readEdgeBody directions [] 0 ('\x7b' :: inside ++ ['\x7d']) = .ok (m, used)) :
    EdgeText (c :: (bs ++ ('\x7b' :: inside ++ ['\x7d'] ++ bs')) ++ [c]) m := by
  have hd : ∀ d, (d == c) = true → d ∈ Expression.nodeDelimiters :=
    fun _ ↦ mem_nodeDelimiters_of_directionsOf? hc
  have hbraces : Transparent (· == c) 0 ('\x7b' :: inside ++ ['\x7d']) :=
    .braces (ne_of_directionsOf? hc (.inr (by decide))) (ne_of_directionsOf? hc (.inr (by decide)))
      houter
  have htrim : Text.trimLeft (bs ++ ('\x7b' :: inside ++ ['\x7d'] ++ bs')) =
      '\x7b' :: inside ++ ['\x7d'] ++ bs' := by
    rw [List.cons_append, List.cons_append]
    exact Text.trimLeft_append_cons hbs (by decide) _
  have hread' : readEdgeBody directions [] 0
      (Text.trimLeft (bs ++ ('\x7b' :: inside ++ ['\x7d'] ++ bs'))) = .ok (m, used) := by
    rw [htrim, readEdgeBody_braces_append hinner hbs', hread]
  refine .between hc ?_ (by rw [htrim]; rfl) hread'
  exact (Expression.transparent_of_isBlank hd hbs 0).append
    (hbraces.append (Expression.transparent_of_isBlank hd hbs' 0))

end Body

/-- What lays out the units of an edge is the text of the edge, with blanks around it. -/
theorem EdgeUnits.exists_edgeText {m : EdgeMatcher} (h : EdgeUnits us m) (hcs : Lays us cs) :
    ∃ bs text bs', cs = bs ++ (text ++ bs') ∧ (∀ b ∈ bs, Text.isBlank b = true) ∧
      (∀ b ∈ bs', Text.isBlank b = true) ∧ EdgeText text m := by
  have hbrace : ∀ d, (d == '\x7d') = true → d ∈ Expression.nodeDelimiters :=
    fun _ ↦ mem_nodeDelimiters_brace
  cases h with
  | @label c directions label t hc hlabel hread houter =>
    obtain ⟨bs, inner, bs', rfl, hbs, hbs', hinner⟩ := hcs.exists_of_between
    have hd : ∀ d, (d == c) = true → d ∈ Expression.nodeDelimiters :=
      fun _ ↦ mem_nodeDelimiters_of_directionsOf? hc
    obtain ⟨hne, hbody⟩ := readEdgeBody_of_lays_label hlabel hread hinner
    exact ⟨bs, _, bs', rfl, hbs, hbs', .between hc (transparent_of_lays hd houter hinner) hne hbody⟩
  | @name c directions a hc ha =>
    obtain ⟨bs, inner, bs', rfl, hbs, hbs', hinner⟩ := hcs.exists_of_between
    obtain ⟨b, inside, b', rfl, hb, hb', hinside⟩ := hinner.exists_of_between
    have hd : ∀ d, (d == c) = true → d ∈ Expression.nodeDelimiters :=
      fun _ ↦ mem_nodeDelimiters_of_directionsOf? hc
    exact ⟨bs, _, bs', rfl, hbs, hbs', edgeText_braces hc hb hb'
      (transparent_of_lays_name hd ha hinside 1) (transparent_of_lays_name hbrace ha hinside 0)
      (readEdgeBody_of_lays_name ha hinside)⟩
  | @captured c directions a label t hc ha hlabel hread houter hinner =>
    obtain ⟨bs, inner, bs', rfl, hbs, hbs', hlays⟩ := hcs.exists_of_between
    obtain ⟨b, inside, b', rfl, hb, hb', hinside⟩ := hlays.exists_of_between
    obtain ⟨name, label', rfl, hname, hlabel'⟩ := hinside.exists_of_split
    have hd : ∀ d, (d == c) = true → d ∈ Expression.nodeDelimiters :=
      fun _ ↦ mem_nodeDelimiters_of_directionsOf? hc
    have hcolon := ne_of_directionsOf? hc (.inr (by decide) : _ ∨ ':' ∈ _)
    -- Two scans pass over the inside of the braces, one from the delimiter and one from the brace.
    have houter' : Transparent (· == c) 1 (name ++ ':' :: label') :=
      (transparent_of_lays_name hd ha hname 1).append
        (.cons (by decide) hcolon (transparent_of_lays hd houter hlabel'))
    have hinner' : Transparent (· == '\x7d') 0 (name ++ ':' :: label') :=
      (transparent_of_lays_name hbrace ha hname 0).append
        (.cons (by decide) (by decide) (transparent_of_lays hbrace hinner hlabel'))
    exact ⟨bs, _, bs', rfl, hbs, hbs', edgeText_braces hc hb hb' houter' hinner'
      (readEdgeBody_of_lays_captured ha hlabel hread hname hlabel' hinner')⟩

private theorem lays_of_scanTo {inner inside inside' after : List Char} {d : Char}
    (hinner : Text.trimLeft inner = '\x7b' :: inside)
    (hscan : scanTo (· == '\x7d') inside = some (inside', d, after))
    (hlength : inside'.length + 2 = (Text.trimRight ('\x7b' :: inside)).length)
    (h : Lays us inside') : Lays (['\x7b'] :: us ++ [['\x7d']]) inner := by
  obtain ⟨rfl, -, -, hd⟩ := scanTo_eq_some_iff.1 hscan
  obtain rfl : d = '\x7d' := by simpa using hd
  obtain ⟨bs, hleft, hbs, -⟩ := Text.exists_blanks_trimLeft inner
  obtain ⟨bs', hright, hbs', -⟩ :=
    Text.exists_blanks_trimRight ('\x7b' :: (inside' ++ '\x7d' :: after))
  rw [trimRight_braces hlength] at hright
  rw [hleft, hinner, hright]
  exact (h.between.append_blanks hbs').blanks_append hbs

private theorem solid_of_readLabel {label : List Char} {t : LabelTest}
    (h : readLabel position label = .ok t) :
    Solid (Text.trim label) ∧ readLabel 0 (Text.trim label) = .ok t := by
  have htrimmed := Text.trimmed_trim label
  obtain ⟨-, c, cs, hlabel, -⟩ := body_of_readLabel h
  refine ⟨⟨?_, htrimmed⟩, readLabel_congr (Text.trim_of_trimmed htrimmed) h⟩
  rw [hlabel]
  exact List.cons_ne_nil c cs

private theorem transparent_braces {isDelimiter : Char → Bool}
    {inner inside inside' after : List Char} {d : Char} (h : Transparent isDelimiter 0 inner)
    (hinner : Text.trimLeft inner = '\x7b' :: inside)
    (hscan : scanTo (· == '\x7d') inside = some (inside', d, after))
    (hlength : inside'.length + 2 = (Text.trimRight ('\x7b' :: inside)).length) :
    Transparent isDelimiter 1 inside' ∧ Transparent (· == '\x7d') 0 inside' := by
  obtain ⟨bs, hleft, hbs, -⟩ := Text.exists_blanks_trimLeft inner
  rw [hleft, hinner] at h
  exact transparent_inside (h.of_isBlank_append hbs) hscan hlength

theorem EdgeText.exists_units {m : EdgeMatcher} (h : EdgeText cs m) :
    ∃ us, EdgeUnits us m ∧ Lays us cs := by
  cases h with
  | @between c inner directions m used hc hinner hne hread =>
    -- The division follows the form of what is between the delimiters, up to blanks at the front.
    generalize hleft : Text.trimLeft inner = body at hread
    cases edgeBody_of_readEdgeBody hread with
    | @label body t ht =>
      have ht' : readLabel 0 inner = .ok t := by
        refine readLabel_congr ?_ ht
        rw [← hleft]
        exact (Text.trim_of_trimmed (Text.trimmed_trim inner)).symm
      obtain ⟨hlabel, hread'⟩ := solid_of_readLabel ht'
      exact ⟨_, .label hc hlabel hread' hinner.trim, (Lays.singleton_trim inner).between⟩
    | name hscan hlength ha =>
      obtain ⟨hname, hnameLays⟩ := lays_of_readName ha
      exact ⟨_, .name hc hname, (lays_of_scanTo hleft hscan hlength hnameLays).between⟩
    | @captured inside name label after d a t position' hscan hlength ha ht =>
      obtain ⟨houter, hinner'⟩ := transparent_braces hinner hleft hscan hlength
      obtain ⟨hname, hnameLays⟩ := lays_of_readName ha
      have hisName : isName (Text.trim name) = true := (readName_eq_ok_iff.1 ha).2.1
      obtain ⟨hlabel, hread'⟩ := solid_of_readLabel ht
      have hlays := hnameLays.split (d := ':') (Lays.singleton_trim label)
      exact ⟨_, .captured hc hname hlabel hread' (transparent_label hisName houter)
        (transparent_label hisName hinner'), (lays_of_scanTo hleft hscan hlength hlays).between⟩

/-! ## Patterns -/

/-- The units of links. -/
inductive LinksUnits (voc : Vocabulary V) : List (List Char) → List (Link V) → Prop where
  /-- No links. -/
  | nil : LinksUnits voc [] []
  /-- An edge, a node and further links. -/
  | cons {us vs ws : List (List Char)} {l : Link V} {links : List (Link V)}
      (hedge : EdgeUnits us l.edge) (hnode : NodeUnits voc vs l.node)
      (hlinks : LinksUnits voc ws links) : LinksUnits voc (us ++ (vs ++ ws)) (l :: links)

/-- The units of a pattern. -/
inductive PatternUnits (voc : Vocabulary V) : List (List Char) → Pattern V → Prop where
  /-- A node and links. -/
  | intro {us vs : List (List Char)} {p : Pattern V} (hnode : NodeUnits voc us p.first)
      (hlinks : LinksUnits voc vs p.links) : PatternUnits voc (us ++ vs) p

theorem LinksText.blanks_append {bs : List Char} {links : List (Link V)}
    (hbs : ∀ b ∈ bs, Text.isBlank b = true) (h : LinksText voc cs links) :
    LinksText voc (bs ++ cs) links := by
  cases h with
  | nil hcs => exact .nil (Text.isBlank_append hbs hcs)
  | cons hbs' hedge hbs'' hnode hrest =>
    rw [← List.append_assoc]
    exact .cons (Text.isBlank_append hbs hbs') hedge hbs'' hnode hrest

theorem LinksUnits.linksText {links : List (Link V)} (h : LinksUnits voc us links)
    (hcs : Lays us cs) : LinksText voc cs links := by
  induction h generalizing cs with
  | nil => exact .nil hcs.isBlank_of_nil
  | cons hedge hnode _ ih =>
    obtain ⟨xs, ys, rfl, hxs, hys⟩ := hcs.exists_of_append
    obtain ⟨ys, zs, rfl, hys, hzs⟩ := hys.exists_of_append
    obtain ⟨bs₁, edge, bs₂, rfl, hbs₁, hbs₂, hedge⟩ := hedge.exists_edgeText hxs
    obtain ⟨bs₃, node, bs₄, rfl, hbs₃, hbs₄, hnode⟩ := hnode.exists_nodeText hys
    have hlinks := LinksText.cons hbs₁ hedge (Text.isBlank_append hbs₂ hbs₃) hnode
      ((ih hzs).blanks_append hbs₄)
    simpa only [List.append_assoc] using hlinks

theorem LinksText.exists_units {links : List (Link V)} (h : LinksText voc cs links) :
    ∃ us, LinksUnits voc us links ∧ Lays us cs := by
  induction h with
  | nil hbs => exact ⟨[], .nil, .nil hbs⟩
  | cons hbs hedge hbs' hnode _ ih =>
    obtain ⟨us, hus, hlays⟩ := hedge.exists_units
    obtain ⟨vs, hvs, hlays'⟩ := hnode.exists_units
    obtain ⟨ws, hws, hlays''⟩ := ih
    exact ⟨_, .cons hus hvs hws,
      (hlays.append ((hlays'.append hlays'').blanks_append hbs')).blanks_append hbs⟩

/-- **A text is that of a pattern** if it lays out units of the pattern. -/
theorem patternText_iff_lays {p : Pattern V} :
    PatternText voc cs p ↔ ∃ us, PatternUnits voc us p ∧ Lays us cs := by
  constructor
  · intro h
    cases h with
    | intro hbs hnode hrest =>
      obtain ⟨us, hus, hlays⟩ := hnode.exists_units
      obtain ⟨vs, hvs, hlays'⟩ := hrest.exists_units
      exact ⟨_, .intro hus hvs, (hlays.append hlays').blanks_append hbs⟩
  · rintro ⟨us, hus, hlays⟩
    cases hus with
    | intro hnode hlinks =>
      obtain ⟨xs, ys, rfl, hxs, hys⟩ := hlays.exists_of_append
      obtain ⟨bs, node, bs', rfl, hbs, hbs', hnode⟩ := hnode.exists_nodeText hxs
      have htext := PatternText.intro hbs hnode ((hlinks.linksText hys).blanks_append hbs')
      simpa only [List.append_assoc] using htext

/-- What lays out units of a pattern that another text is read as is read as it, too. -/
theorem read_of_lays {text text' : String} {p q : Pattern V} (h : read voc text = .ok p)
    (hus : PatternUnits voc us q) (htext : Lays us text.toList) (htext' : Lays us text'.toList) :
    read voc text' = .ok p := by
  have hq := (patternText_iff_lays.2 ⟨us, hus, htext⟩).givesIf
  -- The text does not lay out units of any other pattern.
  have hcaptures : q.captures.Nodup := by
    by_contra hnot
    obtain ⟨e, he⟩ := hq.mistake hnot
    exact nomatch h.symm.trans he
  obtain rfl : p = q := Except.ok.inj (h.symm.trans (hq.ok hcaptures))
  exact (patternText_iff_lays.2 ⟨us, hus, htext'⟩).givesIf.ok hcaptures

/-- **Blanks between units do not count.** A text that is read as a pattern can be divided into
units, and with blanks put in at any place of any such division it is read as the same pattern. -/
theorem read_insert_blanks {text : String} {p : Pattern V} (h : read voc text = .ok p) :
    (∃ us, PatternUnits voc us p ∧ Lays us text.toList) ∧
      ∀ us vs before after bs q, PatternUnits voc (us ++ vs) q → Lays us before → Lays vs after →
        before ++ after = text.toList → (∀ b ∈ bs, Text.isBlank b = true) →
          read voc (String.ofList (before ++ (bs ++ after))) = .ok p := by
  constructor
  · exact patternText_iff_lays.1 (patternText_of_read h)
  · intro us vs before after bs q hus hbefore hafter htext hbs
    have hlays : Lays (us ++ vs) text.toList := by
      rw [← htext]
      exact hbefore.append hafter
    refine read_of_lays h hus hlays ?_
    rw [String.toList_ofList]
    exact hbefore.insert hbs hafter

/-- Blanks put in behind the name of a capture, and behind that of an attribute test. -/
theorem read_insert_blanks_echo :
    ∃ p, read Expression.echo "\x7bx\x7d<r<self='a'" = .ok p ∧
      read Expression.echo "\x7bx \t\x7d<r<self='a'" = .ok p ∧
      read Expression.echo "\x7bx\x7d<r<self\n ='a'" = .ok p := by
  -- The units of the text, one element after the other.
  have hfirst : NodeUnits Expression.echo [['\x7b'], ['x'], ['\x7d']]
      { NodeMatcher.any with name := some "x" } := @NodeUnits.name _ _ "x" (by decide)
  have hedge : EdgeUnits [['<'], ['r'], ['<']] ⟨none, [.up], .label "r"⟩ :=
    @EdgeUnits.label '<' _ ['r'] _ rfl (Text.solid_singleton (by decide)) (by decide)
      (.cons (by decide) (by decide) .nil)
  have hlexeme : Expression.Units [['s', 'e', 'l', 'f'], ['='], ['\'', 'a', '\'']]
      [.test "self" "a"] :=
    @Expression.Units.test 's' '\'' ['e', 'l', 'f'] ['a'] [] [] rfl
      (List.all_iff_forall_prop.1 (by decide)) (.inr rfl) (by decide) .nil
  have hnames : Expression.KnownNames Expression.echo [.test "self" "a"] := by
    intro name value h
    obtain ⟨rfl, -⟩ : name = "self" ∧ value = "a" := by simpa using h
    rfl
  have hnode := NodeUnits.tests (.one (.holds hlexeme
    (Expression.Derives.test "self" "a").conjunction_one.disjunction_one hnames))
  have hunits := PatternUnits.intro (p := ⟨_, [⟨_, _⟩]⟩) hfirst (.cons hedge hnode .nil)
  have hread : (read Expression.echo "\x7bx\x7d<r<self='a'").toOption.isSome = true := by cbv
  obtain ⟨p, hp⟩ := Option.isSome_iff_exists.1 hread
  rw [toOption_eq_some_iff] at hp
  obtain ⟨-, hinsert⟩ := read_insert_blanks hp
  have hnil : Lays [] [] := .nil Text.isBlank_of_mem_nil
  refine ⟨p, hp, ?_, ?_⟩
  · have hbefore : Lays [['\x7b'], ['x']] "\x7bx".toList := hnil.cons'.cons'
    have hafter : Lays [['\x7d'], ['<'], ['r'], ['<'], ['s', 'e', 'l', 'f'], ['='],
        ['\'', 'a', '\'']] "\x7d<r<self='a'".toList :=
      hnil.cons'.cons'.cons'.cons'.cons'.cons'.cons'
    have hbs : ∀ b ∈ [' ', '\t'], Text.isBlank b = true := List.all_iff_forall_prop.1 (by decide)
    refine hinsert _ _ _ _ _ ?q ?units hbefore hafter rfl hbs
    case units => exact hunits
  · have hbefore : Lays [['\x7b'], ['x'], ['\x7d'], ['<'], ['r'], ['<'], ['s', 'e', 'l', 'f']]
        "\x7bx\x7d<r<self".toList :=
      hnil.cons'.cons'.cons'.cons'.cons'.cons'.cons'
    have hafter : Lays [['='], ['\'', 'a', '\'']] "='a'".toList := hnil.cons'.cons'
    have hbs : ∀ b ∈ ['\n', ' '], Text.isBlank b = true := List.all_iff_forall_prop.1 (by decide)
    refine hinsert _ _ _ _ _ ?q ?units hbefore hafter rfl hbs
    case units => exact hunits

end Pattern

end Motif
