import Motif.Proofs.Pattern.RoundTrip

/-!
# The grammar of pattern text

A pattern text is a node and any number of links behind it, with blanks between its elements:

```text
pattern := blanks node links
links   := blanks | blanks edge blanks node links
```

`PatternText` is this grammar as a relation between texts and patterns. It says nothing about what
stands around an element, and that is the point of it: reading looks for the end of an element by
scanning ahead through the whole text, and that it finds the same end in every context is a fact
about the scan. An element that is accepted leaves the scan in the state it found it in, because
what an expression opens it also closes (`Expression.run_plain_of_read`).

What does depend on the context is whether the names are new. A text of the grammar gives its
pattern if no name occurs twice, and is refused as a mistake otherwise (`PatternText.givesIf`).
-/

namespace Motif

open Pattern

variable {V : Type} {voc : Vocabulary V}

/-! ## Expressions close what they open -/

namespace Expression

def Lexeme.balance : Lexeme → Int
  | openParen => 1
  | closeParen => -1
  | and | or | not | test _ _ => 0

/-- How much deeper units lead one after the other. -/
def balance (ls : List Lexeme) : Int := (ls.map Lexeme.balance).sum

@[simp] theorem balance_nil : balance [] = 0 := rfl

@[simp] theorem balance_cons (l : Lexeme) (ls : List Lexeme) :
    balance (l :: ls) = l.balance + balance ls := by
  simp [balance]

@[simp] theorem balance_append (ls ms : List Lexeme) :
    balance (ls ++ ms) = balance ls + balance ms := by
  simp [balance]

theorem next_of_ofChar? {c : Char} {l : Lexeme} (hc : Lexeme.ofChar? c = some l) (depth : Int) :
    (ScanState.plain depth).next c = ScanState.plain (depth + l.balance) := by
  unfold Lexeme.ofChar? at hc
  split at hc
  case h_6 => exact absurd hc (by simp)
  all_goals
    obtain rfl := Option.some_inj.1 hc
    simp [ScanState.plain, ScanState.next, ScanMode.after, depthAfter, Lexeme.balance]
  rfl

section Spells

variable {isDelimiter : Char → Bool} (hd : ∀ c, isDelimiter c = true → c ∈ nodeDelimiters)

include hd

theorem transparent_of_isBlank {bs : List Char} (hbs : ∀ b ∈ bs, Text.isBlank b = true)
    (depth : Int) : Transparent isDelimiter depth bs := by
  have hclass : ∀ d ∈ nodeDelimiters, Text.isBlank d = false :=
    List.all_iff_forall_prop.1 (by decide)
  refine .of_forall fun b hb ↦ ⟨ScanState.not_mem_signs_of_isBlank (hbs b hb), ?_⟩
  exact isDelimiter_eq_false hd fun hmem ↦ Text.ne_of_class (hbs b hb) (hclass b hmem) rfl

/-- The text of a test is transparent, with any blanks around its equals sign. -/
theorem transparent_spelledTest {c quote : Char} {name before after value : List Char}
    (hc : isNameStart c = true) (hname : ∀ d ∈ name, Text.isWord d = true)
    (hbefore : ∀ d ∈ before, Text.isBlank d = true) (hafter : ∀ d ∈ after, Text.isBlank d = true)
    (hquote : quote = '"' ∨ quote = '\'') (hvalue : quote ∉ value) (depth : Int) :
    Transparent isDelimiter depth
      (c :: name ++ (before ++ '=' :: (after ++ (quote :: value ++ [quote])))) := by
  have hword : ∀ d ∈ c :: name, Text.isWord d = true :=
    List.forall_mem_cons.2 ⟨isWord_of_isNameStart hc, hname⟩
  have hquote' : isDelimiter quote = false := by
    refine isDelimiter_eq_false hd ?_
    rcases hquote with rfl | rfl <;> decide
  have hequals : Transparent isDelimiter depth ('=' :: (after ++ (quote :: value ++ [quote]))) :=
    .cons (by decide) (isDelimiter_eq_false hd (by decide))
      ((transparent_of_isBlank hd hafter depth).append (.quoted hquote hquote' hvalue))
  refine .append (.of_forall fun d hd' ↦ ?_) ((transparent_of_isBlank hd hbefore depth).append
    hequals)
  exact ⟨ScanState.not_mem_signs_of_isWord (hword d hd'), isDelimiter_of_isWord hd (hword d hd')⟩

theorem Spells.passes {cs : List Char} {ls : List Lexeme} (h : Spells cs ls) (depth : Int) :
    Passes isDelimiter (.plain depth) cs := by
  induction h generalizing depth with
  | nil => trivial
  | @blank c cs ls hc _ ih =>
    have hblank := transparent_of_isBlank hd (List.forall_mem_singleton.2 hc) depth
    have hpasses : Passes isDelimiter (.plain depth) ([c] ++ cs) := by
      refine passes_append.2 ⟨hblank.passes, ?_⟩
      rw [hblank.closed]
      exact ih depth
    exact hpasses
  | sign hc hrest ih =>
    refine ⟨fun hdelimiter ↦ ?_, ?_⟩
    · have hmem := (Spells.sign hc hrest).not_mem_nodeDelimiters (class_of_ofChar? hc).1
      exact hmem (hd _ hdelimiter.2)
    · rw [next_of_ofChar? hc]
      exact ih _
  | @test c quote name before after value cs ls hc hname hbefore hafter hquote hvalue _ ih =>
    have htest := transparent_spelledTest hd hc hname hbefore hafter hquote hvalue depth
    have hpasses : Passes isDelimiter (.plain depth)
        (c :: name ++ (before ++ '=' :: (after ++ (quote :: value ++ [quote]))) ++ cs) := by
      refine passes_append.2 ⟨htest.passes, ?_⟩
      rw [htest.closed]
      exact ih depth
    simpa using hpasses

end Spells

theorem run_spells {cs : List Char} {ls : List Lexeme} (h : Spells cs ls) (depth : Int) :
    (ScanState.plain depth).run cs = ScanState.plain (depth + balance ls) := by
  induction h generalizing depth with
  | nil => rw [ScanState.run_nil, balance_nil, Int.add_zero]
  | blank hc _ ih =>
    rw [ScanState.run_cons, ScanState.next_plain (ScanState.not_mem_signs_of_isBlank hc), ih]
  | sign hc _ ih =>
    rw [ScanState.run_cons, next_of_ofChar? hc, ih, balance_cons, Int.add_assoc]
  | @test c quote name before after value cs ls hc hname hbefore hafter hquote hvalue _ ih =>
    have htest : Transparent (fun _ ↦ false) depth
        (c :: name ++ (before ++ '=' :: (after ++ (quote :: value ++ [quote])))) :=
      transparent_spelledTest (fun _ h ↦ absurd h Bool.false_ne_true) hc hname hbefore hafter hquote
        hvalue depth
    have hsplit : c :: name ++ (before ++ '=' :: (after ++ quote :: (value ++ quote :: cs))) =
        c :: name ++ (before ++ '=' :: (after ++ (quote :: value ++ [quote]))) ++ cs := by
      simp
    rw [hsplit, ScanState.run_append, htest.closed, ih, balance_cons, Lexeme.balance, Int.zero_add]

private theorem balance_separated {l : Lexeme} (hl : l.balance = 0)
    (first : List Lexeme × Expression) (others : List (List Lexeme × Expression))
    (h : ∀ x ∈ first :: others, balance x.1 = 0) :
    balance (separated l first.1 (others.map Prod.fst)) = 0 := by
  have hothers : balance ((others.map Prod.fst).flatMap (l :: ·)) = 0 := by
    induction others with
    | nil => rfl
    | cons x others ih =>
      have hrest := ih fun y hy ↦ by
        rcases List.mem_cons.1 hy with rfl | hy
        · exact h y List.mem_cons_self
        · exact h y (List.mem_cons_of_mem _ (List.mem_cons_of_mem _ hy))
      rw [List.map_cons, List.flatMap_cons, balance_append, balance_cons, hrest, hl,
        h x (List.mem_cons_of_mem _ List.mem_cons_self)]
      rfl
  rw [separated, balance_append, hothers, h first List.mem_cons_self]
  rfl

theorem Derives.balance_eq_zero {rule : Rule} {ls : List Lexeme} {e : Expression}
    (h : Derives rule ls e) : balance ls = 0 := by
  induction h with
  | disjunction first others _ ih => exact balance_separated rfl first others ih
  | conjunction first others _ ih => exact balance_separated rfl first others ih
  | not _ ih => rw [balance_cons, ih]; rfl
  | parentheses _ ih => rw [List.cons_append, balance_cons, balance_append, ih]; rfl
  | test name value => rfl

private theorem run_plain_of_read {cs : List Char} {e : Expression} (h : read voc cs = .ok e)
    (depth : Int) : (ScanState.plain depth).run cs = ScanState.plain depth := by
  obtain ⟨ls, hspells, hderives, -⟩ := read_eq_ok_iff.1 h
  rw [run_spells hspells, hderives.balance_eq_zero, Int.add_zero]

end Expression

/-! ## Tests -/

namespace Pattern

variable {position : Nat} {cs : List Char}

private theorem readTest_congr {position' : Nat} {cs' : List Char} {t : NodeTest V}
    (htrim : Text.trim cs' = Text.trim cs) (h : readTest voc position cs = .ok t) :
    readTest voc position' cs' = .ok t := by
  rw [readTest] at h ⊢
  rw [htrim]
  dsimp only at h ⊢
  split at h
  · exact absurd h (by simp [refuse])
  rename_i hempty
  rw [if_neg hempty]
  split at h
  · next hwild => rw [if_pos hwild, h]
  · next hwild =>
    obtain ⟨e, hread, ht⟩ := Expression.compile_eq_ok_iff.1 (mapError_eq_ok_iff.1 h)
    rw [if_neg hwild]
    exact mapError_eq_ok_iff.2 (Expression.compile_eq_ok_iff.2 ⟨e, hread, ht⟩)

private theorem run_plain_of_readTest {t : NodeTest V} (h : readTest voc position cs = .ok t)
    (depth : Int) : (ScanState.plain depth).run cs = ScanState.plain depth := by
  have htrim : (ScanState.plain depth).run (Text.trim cs) = ScanState.plain depth := by
    rw [readTest] at h
    dsimp only at h
    split at h
    · exact absurd h (by simp [refuse])
    split at h
    · next hwild =>
      rw [hwild, wildcard, ScanState.run_cons, ScanState.next_plain (by decide),
        ScanState.run_cons, ScanState.next_plain (by decide), ScanState.run_nil]
    · obtain ⟨e, hread, -⟩ := Expression.compile_eq_ok_iff.1 (mapError_eq_ok_iff.1 h)
      exact Expression.run_plain_of_read hread depth
  obtain ⟨bs, bs', hcs, hbs, hbs', -⟩ := Text.exists_blanks_trim cs
  rw [hcs, ScanState.run_append, ScanState.run_append, ScanState.run_plain_of_isBlank hbs, htrim,
    ScanState.run_plain_of_isBlank hbs']

private theorem run_plain_of_readTests {r : NodeTest V × List (NodeTest V)}
    (h : readTests voc position cs = .ok r) :
    (ScanState.plain 0).run cs = ScanState.plain 0 := by
  fun_induction readTests voc position cs generalizing r with
  | case1 position cs hscan =>
    obtain ⟨t, ht, -⟩ := bind_eq_ok_iff.1 h
    exact run_plain_of_readTest ht 0
  | case2 position cs before d after hscan ih =>
    obtain ⟨t, ht, h⟩ := bind_eq_ok_iff.1 h
    obtain ⟨u, hus, -⟩ := bind_eq_ok_iff.1 h
    obtain ⟨rfl, -, hclosed, hd⟩ := scanTo_eq_some_iff.1 hscan
    obtain rfl : d = ':' := by simpa using hd
    rw [ScanState.run_append, hclosed, ScanState.run_cons, ScanState.next_plain (by decide)]
    exact ih hus

private theorem readTests_append_isBlank {r : NodeTest V × List (NodeTest V)}
    (h : readTests voc position cs = .ok r) {bs : List Char}
    (hbs : ∀ b ∈ bs, Text.isBlank b = true) (position' : Nat) :
    readTests voc position' (cs ++ bs) = .ok r := by
  fun_induction readTests voc position cs generalizing r position' with
  | case1 position cs hscan =>
    obtain ⟨t, ht, h⟩ := bind_eq_ok_iff.1 h
    obtain rfl := Except.ok.inj h
    refine readTests_last (scanTo_eq_none ?_) (readTest_congr (Text.trim_append_isBlank hbs cs) ht)
    refine passes_append.2 ⟨passes_of_scanTo hscan, passes_of_forall (fun b hb ↦ ?_) _⟩
    exact beq_false_of_ne (Text.ne_of_class (hbs b hb) (by decide))
  | case2 position cs before d after hscan ih =>
    obtain ⟨t, ht, h⟩ := bind_eq_ok_iff.1 h
    obtain ⟨⟨u, us⟩, hus, h⟩ := bind_eq_ok_iff.1 h
    obtain rfl := Except.ok.inj h
    obtain ⟨rfl, hpasses, hclosed, hd⟩ := scanTo_eq_some_iff.1 hscan
    have hscan' : scanTo (· == ':') (before ++ d :: after ++ bs) =
        some (before, d, after ++ bs) :=
      scanTo_eq_some_iff.2 ⟨by rw [List.append_assoc, List.cons_append], hpasses, hclosed, hd⟩
    exact readTests_more hscan' (readTest_congr rfl ht) (ih hus _)

/-- A conjunction of tests is read as the same matcher anywhere, and with blanks behind it. -/
theorem readConjunction_append_isBlank {m : NodeMatcher V}
    (h : readConjunction voc position cs = .ok m) {bs : List Char}
    (hbs : ∀ b ∈ bs, Text.isBlank b = true) (position' : Nat) :
    readConjunction voc position' (cs ++ bs) = .ok m := by
  obtain ⟨r, hr, h⟩ := bind_eq_ok_iff.1 h
  rw [readConjunction, readTests_append_isBlank hr hbs position']
  exact h

theorem readConjunction_at {m : NodeMatcher V} (h : readConjunction voc position cs = .ok m)
    (position' : Nat) : readConjunction voc position' cs = .ok m := by
  have hread := readConjunction_append_isBlank h (by simp : ∀ b ∈ [], Text.isBlank b = true)
    position'
  rwa [List.append_nil] at hread

/-! ## Results that depend on a condition -/

/-- A computation gives `a` if a condition holds, and is refused as a mistake otherwise. -/
structure GivesIf {α : Type} (new : Prop) (x : Except TextFault α) (a : α) : Prop where
  /-- If the condition holds, there is a result. -/
  ok : new → x = .ok a
  /-- If it does not hold, there is a mistake. -/
  mistake : ¬ new → ∃ e, x = .error (.syntax' e)

namespace GivesIf

variable {α β : Type} {new new' : Prop} {x : Except TextFault α} {a : α}

theorem of_ok (h : x = .ok a) : GivesIf True x a := ⟨fun _ ↦ h, fun hnot ↦ absurd trivial hnot⟩

theorem congr (h : GivesIf new x a) (hnew : new ↔ new') : GivesIf new' x a :=
  ⟨fun hn ↦ h.ok (hnew.2 hn), fun hn ↦ h.mistake fun hold ↦ hn (hnew.1 hold)⟩

theorem bind {f : α → Except TextFault β} {b : β} (hx : GivesIf new x a)
    (hf : GivesIf new' (f a) b) : GivesIf (new ∧ new') (x >>= f) b := by
  constructor
  · rintro ⟨hnew, hnew'⟩
    rw [hx.ok hnew, ok_bind, hf.ok hnew']
  · intro hnot
    by_cases hnew : new
    · rw [hx.ok hnew, ok_bind]
      exact hf.mistake fun hnew' ↦ hnot ⟨hnew, hnew'⟩
    · obtain ⟨e, he⟩ := hx.mistake hnew
      exact ⟨e, by rw [he, error_bind]⟩

theorem map (hx : GivesIf new x a) (f : α → β) :
    GivesIf new (x >>= fun a ↦ pure (f a)) (f a) := by
  have hpure : GivesIf True (pure (f a) : Except TextFault β) (f a) := of_ok rfl
  exact (hx.bind (f := fun a ↦ pure (f a)) hpure).congr (and_iff_left trivial)

end GivesIf

/-! ## Names -/

theorem givesIf_readName {used : List String} {a : String} (hname : isName (Text.trim cs) = true)
    (ha : a.toList = Text.trim cs) : GivesIf (a ∉ used) (readName used position cs) a := by
  constructor
  · exact fun hnew ↦ readName_eq_ok_iff.2 ⟨ha, hname, hnew⟩
  · intro hused
    have hmem : String.ofList (Text.trim cs) ∈ used := by
      rw [← ha, String.ofList_toList]
      exact Decidable.not_not.1 hused
    rw [readName]
    simp only [hname, List.contains_iff_mem.2 hmem, Bool.not_true, Bool.false_eq_true, if_false,
      if_true]
    exact ⟨_, rfl⟩

/-- What the inside of a node in braces is read as depends on the context by its name alone. -/
theorem givesIf_readCapturedNode {used : List String} {a : String} {m : NodeMatcher V}
    (h : readCapturedNode voc used position cs = .ok (a, m)) (used' : List String)
    (position' : Nat) : GivesIf (a ∉ used') (readCapturedNode voc used' position' cs) (a, m) := by
  unfold readCapturedNode at h ⊢
  split at h
  · obtain ⟨b, hb, h⟩ := bind_eq_ok_iff.1 h
    obtain ⟨hlist, hname, -⟩ := readName_eq_ok_iff.1 hb
    obtain ⟨rfl, rfl⟩ := Prod.mk.inj (Except.ok.inj h)
    exact (givesIf_readName hname hlist).map _
  · obtain ⟨b, hb, h⟩ := bind_eq_ok_iff.1 h
    obtain ⟨hlist, hname, -⟩ := readName_eq_ok_iff.1 hb
    split at h
    · exact absurd h (by simp [refuse])
    rename_i hempty
    obtain ⟨n, hn, h⟩ := bind_eq_ok_iff.1 h
    obtain ⟨rfl, rfl⟩ := Prod.mk.inj (Except.ok.inj h)
    refine ((givesIf_readName hname hlist).bind ?_).congr (and_iff_left trivial)
    rw [if_neg hempty]
    exact (GivesIf.of_ok (readConjunction_at hn _)).map _

/-! ## Nodes -/

/-- A text is that of a node with the given matcher. There may be blanks behind it. -/
inductive NodeText (voc : Vocabulary V) : List Char → NodeMatcher V → Prop where
  /-- Tests, in which nothing ends the node. -/
  | tests {c : Char} {cs : List Char} {m : NodeMatcher V} (hc : Text.isBlank c = false)
      (hcs : Transparent endsNode 0 (c :: cs)) (hread : readConjunction voc 0 (c :: cs) = .ok m) :
      NodeText voc (c :: cs) m
  /-- A capture in braces. -/
  | braces {inner : List Char} {a : String} {m : NodeMatcher V}
      (hinner : Transparent (· == '\x7d') 0 inner)
      (hread : readCapturedNode voc [] 0 inner = .ok (a, m)) :
      NodeText voc ('\x7b' :: inner ++ ['\x7d']) m

/-- Nothing, or what ends a node, follows behind any blanks. -/
def NodeEnds (rest : List Char) : Prop := ∀ d ∈ (Text.trimLeft rest).head?, endsNode d = true

theorem nodeText_of_readNode {used : List String} {c : Char}
    {part : Part (NodeMatcher V) (cs.length + 1)} (hc : Text.isBlank c = false)
    (h : readNode voc used position c cs = .ok part) :
    ∃ text, c :: cs = text ++ part.rest ∧ NodeText voc text part.value := by
  unfold readNode at h
  split at h
  · next hbrace =>
    split at h
    · exact absurd h (by simp [refuse])
    rename_i inner d after hscan
    obtain ⟨⟨a, m⟩, hread, h⟩ := bind_eq_ok_iff.1 h
    obtain rfl := Except.ok.inj h
    obtain ⟨rfl, hpasses, hclosed, hd⟩ := scanTo_eq_some_iff.1 hscan
    obtain rfl : d = '\x7d' := by simpa using hd
    have hread' := (givesIf_readCapturedNode hread [] 0).ok List.not_mem_nil
    exact ⟨_, by rw [hbrace]; simp, .braces ⟨hpasses, hclosed⟩ hread'⟩
  · split at h
    · next hscan =>
      obtain ⟨m, hread, h⟩ := bind_eq_ok_iff.1 h
      obtain rfl := Except.ok.inj h
      obtain ⟨r, hr, -⟩ := bind_eq_ok_iff.1 hread
      refine ⟨c :: cs, (List.append_nil _).symm, .tests hc ?_ (readConjunction_at hread 0)⟩
      exact ⟨passes_of_scanTo hscan, run_plain_of_readTests hr⟩
    · exact absurd h (by simp [refuse])
    · next x before d after hscan =>
      obtain ⟨m, hread, h⟩ := bind_eq_ok_iff.1 h
      obtain rfl := Except.ok.inj h
      obtain ⟨hcs, hpasses, hclosed, -⟩ := scanTo_eq_some_iff.1 hscan
      obtain rfl : c = x := (List.cons_eq_cons.1 hcs).1
      exact ⟨c :: before, hcs, .tests hc ⟨hpasses, hclosed⟩ (readConjunction_at hread 0)⟩

theorem transparent_endsNode_of_isBlank {bs : List Char}
    (hbs : ∀ b ∈ bs, Text.isBlank b = true) (depth : Int) : Transparent endsNode depth bs :=
  Expression.transparent_of_isBlank (fun _ ↦ mem_nodeDelimiters_of_endsNode) hbs depth

/-- The text of a node is read in every context, up to the blanks behind it. -/
theorem NodeText.givesIf {m : NodeMatcher V} (h : NodeText voc cs m) {rest : List Char}
    (hrest : NodeEnds rest) :
    ∃ c tail after, cs ++ rest = c :: tail ∧ Text.isBlank c = false ∧
      Text.trimLeft after = Text.trimLeft rest ∧ ∀ used position, ∃ hlt,
        GivesIf (∀ a ∈ m.name, a ∉ used) (readNode voc used position c tail)
          ⟨m, m.name.toList ++ used, after, hlt⟩ := by
  cases h with
  | @tests c cs m hc hcs hread =>
    have hbrace : c ≠ '\x7b' := by
      rintro rfl
      exact hcs.passes.1 ⟨rfl, by decide⟩
    have hname : m.name = none := (NodeMatcher.readable_of_readConjunction hread).1
    obtain ⟨bs, hsplit, hbs, -⟩ := Text.exists_blanks_trimLeft rest
    have hcs' : Transparent endsNode 0 (c :: cs ++ bs) :=
      hcs.append (transparent_endsNode_of_isBlank hbs 0)
    have hread' (position : Nat) : readConjunction voc position (c :: (cs ++ bs)) = .ok m :=
      readConjunction_append_isBlank hread hbs position
    cases htrim : Text.trimLeft rest with
    | nil =>
      rw [htrim, List.append_nil] at hsplit
      subst hsplit
      refine ⟨c, cs ++ rest, [], rfl, hc, rfl, fun used position ↦ ?_⟩
      obtain ⟨hlt, hnode⟩ : ∃ h, readNode voc used position c (cs ++ rest) = .ok ⟨m, used, [], h⟩ :=
        readNode_last hbrace (scanTo_eq_none hcs'.passes) (hread' position)
      simp only [hname]
      exact ⟨hlt, (GivesIf.of_ok hnode).congr (by simp)⟩
    | cons d after =>
      have hd : endsNode d = true := hrest d (by rw [htrim]; rfl)
      rw [htrim] at hsplit
      subst hsplit
      have hscan := hcs'.scanTo_append hd after
      rw [List.cons_append, List.cons_append, List.append_assoc] at hscan
      refine ⟨c, cs ++ (bs ++ d :: after), d :: after, rfl, hc, ?_, fun used position ↦ ?_⟩
      · exact Text.trimLeft_cons (isBlank_of_endsNode hd) after
      · obtain ⟨hlt, hnode⟩ : ∃ h, readNode voc used position c (cs ++ (bs ++ d :: after)) =
            .ok ⟨m, used, d :: after, h⟩ := readNode_more hbrace hscan (hread' position)
        simp only [hname]
        exact ⟨hlt, (GivesIf.of_ok hnode).congr (by simp)⟩
  | @braces inner a m hinner hread =>
    have hname := (readable_of_readCapturedNode hread).1
    have hscan := hinner.scanTo_append (beq_self_eq_true '\x7d') rest
    refine ⟨'\x7b', inner ++ '\x7d' :: rest, rest, by simp, by decide, rfl,
      fun used position ↦ ⟨by simp; omega, ?_⟩⟩
    simp only [hname]
    rw [readNode, if_pos rfl]
    split
    · next h => exact absurd (hscan.symm.trans h) (by simp)
    · next inner' d after' h =>
      obtain ⟨rfl, rfl, rfl⟩ : inner = inner' ∧ '\x7d' = d ∧ rest = after' := by
        simpa using hscan.symm.trans h
      exact ((givesIf_readCapturedNode hread used (position + 1)).map _).congr (by simp)

/-! ## Edges -/

/-- What the inside of an edge is read as depends on the context by its name alone. -/
theorem givesIf_readEdgeBody {directions : List Direction} {used used₁ : List String}
    {m : EdgeMatcher} (h : readEdgeBody directions used position cs = .ok (m, used₁))
    (used' : List String) (position' : Nat) :
    GivesIf (∀ a ∈ m.name, a ∉ used') (readEdgeBody directions used' position' cs)
      (m, m.name.toList ++ used') := by
  unfold readEdgeBody at h ⊢
  dsimp only at h ⊢
  split at h
  case h_2 =>
    obtain ⟨t, ht, h⟩ := bind_eq_ok_iff.1 h
    obtain ⟨rfl, -⟩ := Prod.mk.inj (Except.ok.inj h)
    exact ((GivesIf.of_ok (readLabel_congr rfl ht)).map _).congr (by simp)
  rename_i inside
  split at h
  · exact absurd h (by simp [refuse])
  split at h
  · exact absurd h (by simp [refuse])
  rename_i hlen
  rw [if_neg hlen]
  split at h
  · obtain ⟨a, hread, h⟩ := bind_eq_ok_iff.1 h
    obtain ⟨ha, hname, -⟩ := readName_eq_ok_iff.1 hread
    obtain ⟨rfl, -⟩ := Prod.mk.inj (Except.ok.inj h)
    exact ((givesIf_readName hname ha).map _).congr (by simp)
  · obtain ⟨a, hread, h⟩ := bind_eq_ok_iff.1 h
    obtain ⟨t, ht, h⟩ := bind_eq_ok_iff.1 h
    obtain ⟨ha, hname, -⟩ := readName_eq_ok_iff.1 hread
    obtain ⟨rfl, -⟩ := Prod.mk.inj (Except.ok.inj h)
    have hnew : a ∉ used' ∧ True ↔ ∀ b ∈ some a, b ∉ used' := by simp
    refine ((givesIf_readName hname ha).bind ?_).congr hnew
    exact (GivesIf.of_ok (readLabel_congr rfl ht)).map _

/-- A text is that of an edge with the given matcher. -/
inductive EdgeText : List Char → EdgeMatcher → Prop where
  /-- A label or a capture between two equal delimiters. -/
  | between {c : Char} {inner : List Char} {directions : List Direction} {m : EdgeMatcher}
      {used : List String} (hc : directionsOf? c = some directions)
      (hinner : Transparent (· == c) 0 inner) (hne : (Text.trimLeft inner).isEmpty = false)
      (hread : readEdgeBody directions [] 0 (Text.trimLeft inner) = .ok (m, used)) :
      EdgeText (c :: inner ++ [c]) m

theorem edgeText_of_readEdge {used : List String} {c : Char}
    {part : Part EdgeMatcher (cs.length + 1)} (h : readEdge used position c cs = .ok part) :
    ∃ text, c :: cs = text ++ part.rest ∧ EdgeText text part.value := by
  unfold readEdge at h
  split at h
  · exact absurd h (by simp [refuse])
  rename_i directions hdir
  split at h
  · exact absurd h (by simp [refuse])
  rename_i inner d after hscan
  dsimp only at h
  split at h
  · exact absurd h (by simp [refuse])
  rename_i hne
  obtain ⟨⟨m, used'⟩, hbody, h⟩ := bind_eq_ok_iff.1 h
  obtain rfl := Except.ok.inj h
  obtain ⟨rfl, hpasses, hclosed, hd⟩ := scanTo_eq_some_iff.1 hscan
  obtain rfl : d = c := by simpa using hd
  have hread := (givesIf_readEdgeBody hbody [] 0).ok fun _ _ ↦ List.not_mem_nil
  exact ⟨_, by simp, .between hdir ⟨hpasses, hclosed⟩ (Bool.eq_false_iff.2 hne) hread⟩

theorem endsNode_of_directionsOf? {c : Char} {directions : List Direction}
    (h : directionsOf? c = some directions) : endsNode c = true := by
  have hends : ∀ c ∈ ['<', '>', '-'], endsNode c = true := List.all_iff_forall_prop.1 (by decide)
  exact hends c (mem_of_directionsOf? h)

private theorem EdgeText.exists_eq_cons {m : EdgeMatcher} (h : EdgeText cs m) :
    ∃ c rest, cs = c :: rest ∧ endsNode c = true := by
  cases h with
  | between hc _ _ _ => exact ⟨_, _, rfl, endsNode_of_directionsOf? hc⟩

theorem EdgeText.givesIf {m : EdgeMatcher} (h : EdgeText cs m) (rest : List Char) :
    ∃ c tail, cs ++ rest = c :: tail ∧ endsNode c = true ∧ ∀ used position, ∃ hlt,
      GivesIf (∀ a ∈ m.name, a ∉ used) (readEdge used position c tail)
        ⟨m, m.name.toList ++ used, rest, hlt⟩ := by
  cases h with
  | @between c inner directions m used₁ hc hinner hne hread =>
    obtain ⟨hlt, hedge⟩ := exists_readEdge_eq hc hinner hne rest
    refine ⟨c, inner ++ c :: rest, by simp, endsNode_of_directionsOf? hc,
      fun used position ↦ ⟨hlt, ?_⟩⟩
    rw [hedge]
    exact (givesIf_readEdgeBody hread used _).map _

/-! ## Links and patterns -/

/-- A text is that of links. -/
inductive LinksText (voc : Vocabulary V) : List Char → List (Link V) → Prop where
  /-- Nothing but blanks. -/
  | nil {bs : List Char} (hbs : ∀ b ∈ bs, Text.isBlank b = true) : LinksText voc bs []
  /-- An edge and a node, and links behind them. -/
  | cons {bs edge bs' node rest : List Char} {l : Link V} {links : List (Link V)}
      (hbs : ∀ b ∈ bs, Text.isBlank b = true) (hedge : EdgeText edge l.edge)
      (hbs' : ∀ b ∈ bs', Text.isBlank b = true) (hnode : NodeText voc node l.node)
      (hrest : LinksText voc rest links) :
      LinksText voc (bs ++ (edge ++ (bs' ++ (node ++ rest)))) (l :: links)

/-- A text is that of a pattern. -/
inductive PatternText (voc : Vocabulary V) : List Char → Pattern V → Prop where
  /-- A node and links behind it. -/
  | intro {bs node rest : List Char} {p : Pattern V} (hbs : ∀ b ∈ bs, Text.isBlank b = true)
      (hnode : NodeText voc node p.first) (hrest : LinksText voc rest p.links) :
      PatternText voc (bs ++ (node ++ rest)) p

theorem linksText_of_readLinks {used : List String} {links : List (Link V)}
    (h : readLinks voc used position cs = .ok links) : LinksText voc cs links := by
  fun_induction readLinks voc used position cs generalizing links with
  | case1 used position cs hnil =>
    obtain rfl := Except.ok.inj h
    obtain ⟨bs, hcs, hbs, -⟩ := Text.exists_blanks_trimLeft cs
    rw [hnil, List.append_nil] at hcs
    exact hcs ▸ .nil hbs
  | case2 used position cs c rest hcons start =>
    rename_i ih
    obtain ⟨edge, hedge, h⟩ := bind_eq_ok_iff.1 h
    split at h
    · exact absurd h (by simp [refuse])
    rename_i d rest' hcons'
    obtain ⟨node, hnode, h⟩ := bind_eq_ok_iff.1 h
    obtain ⟨links', hrest, h⟩ := bind_eq_ok_iff.1 h
    obtain rfl := Except.ok.inj h
    obtain ⟨bs, hcs, hbs, -⟩ := Text.exists_blanks_trimLeft cs
    obtain ⟨bs', hcs', hbs', -⟩ := Text.exists_blanks_trimLeft edge.rest
    obtain ⟨edgeText, hedgeText, hedge⟩ := edgeText_of_readEdge hedge
    obtain ⟨nodeText, hnodeText, hnode⟩ :=
      nodeText_of_readNode (Text.isBlank_of_trimLeft hcons') hnode
    rw [hcs, hcons, hedgeText, hcs', hcons', hnodeText]
    exact .cons hbs hedge hbs' hnode (ih edge d rest' hcons' node hrest)

/-- **A pattern that is read is divided by the grammar.** -/
theorem patternText_of_read {text : String} {p : Pattern V} (h : read voc text = .ok p) :
    PatternText voc text.toList p := by
  unfold read at h
  dsimp only at h
  split at h
  · exact absurd h (by simp [refuse])
  rename_i c rest hcons
  obtain ⟨node, hnode, h⟩ := bind_eq_ok_iff.1 h
  obtain ⟨links, hlinks, h⟩ := bind_eq_ok_iff.1 h
  obtain rfl := Except.ok.inj h
  obtain ⟨bs, hcs, hbs, -⟩ := Text.exists_blanks_trimLeft text.toList
  obtain ⟨nodeText, hnodeText, hnode⟩ :=
    nodeText_of_readNode (Text.isBlank_of_trimLeft hcons) hnode
  rw [hcs, hcons, hnodeText]
  exact .intro hbs hnode (linksText_of_readLinks hlinks)

theorem LinksText.nodeEnds_append {links : List (Link V)} {rest : List Char}
    (h : LinksText voc cs links) (hrest : NodeEnds rest) : NodeEnds (cs ++ rest) := by
  cases h with
  | nil hbs =>
    rw [NodeEnds, Text.trimLeft_append_of_isBlank hbs]
    exact hrest
  | cons hbs hedge _ _ _ =>
    obtain ⟨c, rest', rfl, hc⟩ := hedge.exists_eq_cons
    rw [NodeEnds, List.append_assoc, List.cons_append, List.cons_append,
      Text.trimLeft_append_cons hbs (isBlank_of_endsNode hc)]
    simpa using hc

theorem LinksText.nodeEnds {links : List (Link V)} (h : LinksText voc cs links) : NodeEnds cs := by
  rw [← List.append_nil cs]
  exact h.nodeEnds_append (by simp [NodeEnds, Text.trimLeft])

theorem LinksText.givesIf {links : List (Link V)} (h : LinksText voc cs links) {cs' : List Char}
    (hcs : Text.trimLeft cs' = Text.trimLeft cs) (used : List String) (position : Nat) :
    GivesIf (NewNames used (linkCaptures links)) (readLinks voc used position cs') links := by
  induction h generalizing used position cs' with
  | nil hbs =>
    have htrim := Text.trimLeft_append hbs (by simp : ∀ c ∈ ([] : List Char).head?, _)
    rw [List.append_nil] at htrim
    have hnew : NewNames used (linkCaptures ([] : List (Link V))) :=
      ⟨.nil, fun a ha ↦ absurd ha List.not_mem_nil⟩
    exact (GivesIf.of_ok (readLinks_nil (hcs.trans htrim))).congr (iff_of_true trivial hnew)
  | @cons bs edge bs' node rest l links hbs hedge hbs' hnode hrest ih =>
    obtain ⟨d, tail', after, hnodeText, hd, hafter, hnode⟩ := hnode.givesIf hrest.nodeEnds
    obtain ⟨c, tail, hedgeText, hc, hedge⟩ := hedge.givesIf (bs' ++ (node ++ rest))
    rw [hedgeText, Text.trimLeft_append_cons hbs (isBlank_of_endsNode hc)] at hcs
    have hinner : Text.trimLeft (bs' ++ (node ++ rest)) = d :: tail' := by
      rw [hnodeText, Text.trimLeft_append_cons hbs' hd]
    rw [linkCaptures_cons, readLinks]
    split
    · next h => exact absurd (hcs.symm.trans h) (by simp)
    next h =>
    obtain ⟨rfl, rfl⟩ := List.cons_eq_cons.1 (hcs.symm.trans h)
    dsimp only
    -- Each element needs a new name when those before it have been used.
    obtain ⟨hlt, hedge⟩ := hedge used (position + (cs'.length - (tail.length + 1)))
    refine (hedge.bind ?_).congr newNames_append_iff.symm
    dsimp only
    split
    · next h => exact absurd (hinner.symm.trans h) (by simp)
    next h =>
    obtain ⟨rfl, rfl⟩ := List.cons_eq_cons.1 (hinner.symm.trans h)
    obtain ⟨hlt', hnode⟩ := hnode (l.edge.name.toList ++ used) _
    refine (hnode.bind ?_).congr newNames_append_iff.symm
    exact (ih hafter _ _).map _

/-- **A text of the grammar gives its pattern**, if no name is used for two captures, and is a
mistake otherwise. -/
theorem PatternText.givesIf {text : String} {p : Pattern V} (h : PatternText voc text.toList p) :
    GivesIf p.captures.Nodup (read voc text) p := by
  generalize hcs : text.toList = cs at h
  cases h with
  | @intro bs node rest p hbs hnode hrest =>
    obtain ⟨c, tail, after, hnodeText, hc, hafter, hnode⟩ := hnode.givesIf hrest.nodeEnds
    have htrim : Text.trimLeft text.toList = c :: tail := by
      rw [hcs, hnodeText, Text.trimLeft_append_cons hbs hc]
    have hnew : NewNames [] (p.first.name.toList ++ linkCaptures p.links) ↔ p.captures.Nodup := by
      rw [captures_eq]
      exact and_iff_left fun a _ ↦ List.not_mem_nil
    rw [read]
    dsimp only
    split
    · next h => exact absurd (htrim.symm.trans h) (by simp)
    next h =>
    obtain ⟨rfl, rfl⟩ := List.cons_eq_cons.1 (htrim.symm.trans h)
    obtain ⟨hlt, hnode⟩ := hnode [] (text.toList.length - (tail.length + 1))
    refine (hnode.bind ?_).congr (newNames_append_iff.symm.trans hnew)
    exact (hrest.givesIf hafter _ _).map _

/-- **Reading follows the grammar.** -/
theorem read_eq_ok_iff {text : String} {p : Pattern V} :
    read voc text = .ok p ↔ PatternText voc text.toList p ∧ p.captures.Nodup := by
  constructor
  · exact fun h ↦ ⟨patternText_of_read h, (readable_of_read h).captures_nodup⟩
  · exact fun h ↦ h.1.givesIf.ok h.2

end Pattern

end Motif
