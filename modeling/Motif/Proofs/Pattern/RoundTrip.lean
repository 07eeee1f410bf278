import Motif.Proofs.Expression.Meaning
import Motif.Proofs.Pattern.Node

/-!
# Pattern texts are read back

A pattern is *readable* when its edges and nodes are and no name is used for two captures. These
are the patterns that reading makes (`readable_of_read`), and their texts are read again. What is
read equals the pattern and so has the same text (`text_eq_of_signature`).

The names used so far are threaded through reading, from left to right. Both directions say that
they grow by the captures of what has been read.
-/

namespace Motif.Pattern

variable {V : Type} {voc : Vocabulary V}

/-- The names of the captures of links, in order. -/
def linkCaptures (links : List (Link V)) : List String :=
  links.flatMap fun l ↦ l.edge.name.toList ++ l.node.name.toList

@[simp] theorem linkCaptures_cons (l : Link V) (links : List (Link V)) :
    linkCaptures (l :: links) =
      l.edge.name.toList ++ (l.node.name.toList ++ linkCaptures links) := by
  rw [linkCaptures, List.flatMap_cons, List.append_assoc, ← linkCaptures]

theorem filterMap_cons_eq_append {α β : Type} (f : α → Option β) (x : α) (xs : List α) :
    (x :: xs).filterMap f = (f x).toList ++ xs.filterMap f := by
  cases hx : f x <;> simp [hx]

theorem captures_eq (p : Pattern V) :
    p.captures = p.first.name.toList ++ linkCaptures p.links := by
  obtain ⟨first, links⟩ := p
  have hedge (m : EdgeMatcher) : (Matcher.edge (V := V) m).capture? = m.name := rfl
  have hnode (m : NodeMatcher V) : (Matcher.node m).capture? = m.name := rfl
  have hlinks : (links.flatMap fun l ↦ [Matcher.edge l.edge, .node l.node]).filterMap
      Matcher.capture? = linkCaptures links := by
    induction links with
    | nil => rfl
    | cons l links ih =>
      rw [List.flatMap_cons, List.cons_append, List.singleton_append, filterMap_cons_eq_append,
        filterMap_cons_eq_append, ih, linkCaptures_cons, hedge, hnode]
  rw [captures, matchers, filterMap_cons_eq_append, hlinks, hnode]

/-- The names are new and no two of them the same. -/
def NewNames (used names : List String) : Prop := names.Nodup ∧ ∀ a ∈ names, a ∉ used

theorem newNames_append_iff {used names : List String} {a : Option String} :
    NewNames used (a.toList ++ names) ↔
      (∀ b ∈ a, b ∉ used) ∧ NewNames (a.toList ++ used) names := by
  cases a with
  | none => simp [NewNames]
  | some a =>
    have hnew : (∀ b ∈ some a, b ∉ used) ↔ a ∉ used := by simp
    rw [NewNames, NewNames, hnew, Option.toList_some, List.singleton_append, List.nodup_cons,
      List.forall_mem_cons]
    constructor
    · rintro ⟨⟨hmem, hnodup⟩, hnew, hnames⟩
      refine ⟨hnew, hnodup, fun b hb hused ↦ ?_⟩
      rcases List.mem_cons.1 hused with rfl | hused
      · exact hmem hb
      · exact hnames b hb hused
    · rintro ⟨hnew, hnodup, hnames⟩
      exact ⟨⟨fun hmem ↦ hnames a hmem List.mem_cons_self, hnodup⟩, hnew,
        fun b hb hused ↦ hnames b hb (List.mem_cons_of_mem a hused)⟩

/-- The pattern is read from its text. -/
structure Readable (voc : Vocabulary V) (p : Pattern V) : Prop where
  /-- No name is used for two captures. -/
  captures_nodup : p.captures.Nodup
  /-- The first node can be read. -/
  first : p.first.Readable voc
  /-- The links can be read. -/
  links : ∀ l ∈ p.links, l.edge.Readable ∧ l.node.Readable voc

theorem Readable.nodes {p : Pattern V} (h : p.Readable voc) : ∀ m ∈ p.nodes, m.Readable voc := by
  refine List.forall_mem_cons.2 ⟨h.first, fun m hm ↦ ?_⟩
  obtain ⟨l, hl, rfl⟩ := List.mem_map.1 hm
  exact (h.links l hl).2

theorem Readable.edges {p : Pattern V} (h : p.Readable voc) : ∀ m ∈ p.edges, m.Readable := by
  intro m hm
  obtain ⟨l, hl, rfl⟩ := List.mem_map.1 hm
  exact (h.links l hl).1

/-! ## Reading makes readable patterns -/

private theorem readable_of_readLinks {used : List String} {position : Nat} {cs : List Char}
    {links : List (Link V)} (h : readLinks voc used position cs = .ok links) :
    (∀ l ∈ links, l.edge.Readable ∧ l.node.Readable voc) ∧ NewNames used (linkCaptures links) := by
  fun_induction readLinks voc used position cs generalizing links with
  | case1 used position cs hnil =>
    obtain rfl := Except.ok.inj h
    exact ⟨by simp, .nil, fun a ha ↦ absurd ha List.not_mem_nil⟩
  | case2 used position cs c rest hcons start =>
    rename_i ih
    obtain ⟨edge, hedge, h⟩ := bind_eq_ok_iff.1 h
    split at h
    · exact absurd h (by simp [refuse])
    rename_i d rest' hcons'
    obtain ⟨node, hnode, h⟩ := bind_eq_ok_iff.1 h
    obtain ⟨links', hrest, h⟩ := bind_eq_ok_iff.1 h
    obtain rfl := Except.ok.inj h
    obtain ⟨hedgeReadable, hedgeNew, hedgeUsed⟩ := readable_of_readEdge hedge
    obtain ⟨hnodeReadable, hnodeNew, hnodeUsed⟩ := readable_of_readNode hnode
    obtain ⟨hlinks, hnames⟩ := ih edge d rest' hcons' node hrest
    rw [hedgeUsed] at hnodeNew hnodeUsed
    rw [hnodeUsed] at hnames
    refine ⟨List.forall_mem_cons.2 ⟨⟨hedgeReadable, hnodeReadable⟩, hlinks⟩, ?_⟩
    rw [linkCaptures_cons, newNames_append_iff, newNames_append_iff]
    exact ⟨hedgeNew, hnodeNew, hnames⟩

/-- **Patterns that are read are readable.** -/
theorem readable_of_read {text : String} {p : Pattern V} (h : read voc text = .ok p) :
    p.Readable voc := by
  unfold read at h
  dsimp only at h
  split at h
  · exact absurd h (by simp [refuse])
  obtain ⟨node, hnode, h⟩ := bind_eq_ok_iff.1 h
  obtain ⟨links, hlinks, h⟩ := bind_eq_ok_iff.1 h
  obtain rfl := Except.ok.inj h
  obtain ⟨hfirst, hnew, hused⟩ := readable_of_readNode hnode
  obtain ⟨hlinks, hnames⟩ := readable_of_readLinks hlinks
  rw [hused] at hnames
  refine ⟨?_, hfirst, hlinks⟩
  rw [captures_eq]
  exact (newNames_append_iff.2 ⟨hnew, hnames⟩).1

/-! ## Readable patterns are read back -/

/-- The text of links, with a space before every matcher. -/
def linksText (links : List (Link V)) : List Char :=
  links.flatMap fun l ↦
    ' ' :: l.edge.symbol :: (l.edge.body.toList ++ l.edge.symbol :: ' ' :: l.node.text.toList)

theorem linksText_cons (l : Link V) (links : List (Link V)) :
    linksText (l :: links) =
      ' ' :: l.edge.symbol :: (l.edge.body.toList ++
        l.edge.symbol :: ' ' :: (l.node.text.toList ++ linksText links)) := by
  simp [linksText]

private theorem text_edge_toList (m : EdgeMatcher) :
    (Display.text (Matcher.edge (V := V) m)).toList =
      m.symbol :: (m.body.toList ++ [m.symbol]) := by
  have htext : Display.text (Matcher.edge (V := V) m) =
      m.symbol.toString ++ m.body ++ m.symbol.toString := rfl
  rw [htext, String.toList_append, String.toList_append, Char.toString, String.toList_singleton,
    List.append_assoc, List.singleton_append]

theorem text_toList (p : Pattern V) :
    (Display.text p).toList = p.first.text.toList ++ linksText p.links := by
  obtain ⟨first, links⟩ := p
  have htext : Display.text (⟨first, links⟩ : Pattern V) =
      " ".intercalate ((matchers ⟨first, links⟩).map Display.text) := rfl
  have hnode (m : NodeMatcher V) : (Display.text (Matcher.node m)).toList = m.text.toList := rfl
  rw [htext, String.toList_intercalate, List.map_map]
  dsimp only
  induction links generalizing first with
  | nil => simp [matchers, linksText, hnode]
  | cons l links ih =>
    have hmatchers : matchers ⟨first, l :: links⟩ =
        .node first :: .edge l.edge :: matchers ⟨l.node, links⟩ := rfl
    have hne : (matchers ⟨l.node, links⟩).map (String.toList ∘ Display.text) ≠ [] := by
      simp [matchers]
    rw [hmatchers, List.map_cons, List.map_cons, List.intercalate_cons_cons,
      List.intercalate_cons_of_ne_nil hne, ih l.node rfl, linksText_cons]
    simp [hnode, text_edge_toList]

@[simp] theorem endsNode_symbol (m : EdgeMatcher) : endsNode m.symbol = true := by
  rw [EdgeMatcher.symbol]
  split
  · decide
  · next d _ _ => cases d <;> decide

theorem edgeFollows_linksText (links : List (Link V)) : EdgeFollows (linksText links) := by
  cases links with
  | nil => exact .inl rfl
  | cons l links => exact .inr ⟨_, _, linksText_cons l links, endsNode_symbol l.edge⟩

theorem readLinks_nil {used : List String} {position : Nat} {cs : List Char}
    (hcs : Text.trimLeft cs = []) : readLinks voc used position cs = .ok [] := by
  rw [readLinks]
  split
  · rfl
  · next h => exact absurd (hcs.symm.trans h) (by simp)

theorem readLinks_cons {used : List String} {position start nodeStart : Nat}
    {cs rest rest' : List Char} {c d : Char} {edge : Part EdgeMatcher (rest.length + 1)}
    {node : Part (NodeMatcher V) (rest'.length + 1)}
    (hcs : Text.trimLeft cs = c :: rest)
    (hstart : start = position + (cs.length - (rest.length + 1)))
    (hedge : readEdge used start c rest = .ok edge)
    (hrest : Text.trimLeft edge.rest = d :: rest')
    (hnodeStart : nodeStart = start + (rest.length + 1 - (rest'.length + 1)))
    (hnode : readNode voc edge.used nodeStart d rest' = .ok node) :
    readLinks voc used position cs =
      readLinks voc node.used (nodeStart + (rest'.length + 1 - node.rest.length)) node.rest >>=
        fun links ↦ pure (⟨edge.value, node.value⟩ :: links) := by
  subst hstart hnodeStart
  rw [readLinks]
  split
  · next h => exact absurd (hcs.symm.trans h) (by simp)
  · next h =>
    obtain ⟨rfl, rfl⟩ := List.cons_eq_cons.1 (hcs.symm.trans h)
    dsimp only
    rw [hedge, ok_bind]
    split
    · next h' => exact absurd (hrest.symm.trans h') (by simp)
    · next h' =>
      obtain ⟨rfl, rfl⟩ := List.cons_eq_cons.1 (hrest.symm.trans h')
      rw [hnode, ok_bind]

/-- The text of links is read as links that equal them, whatever blanks come first. -/
theorem exists_readLinks {links : List (Link V)} {used : List String}
    (h : ∀ l ∈ links, l.edge.Readable ∧ l.node.Readable voc)
    (hnew : NewNames used (linkCaptures links)) (position : Nat) {cs : List Char}
    (hcs : Text.trimLeft cs = Text.trimLeft (linksText links)) :
    ∃ links', readLinks voc used position cs = .ok links' ∧
      links'.map (fun l ↦ (l.edge, l.node.signature)) =
        links.map fun l ↦ (l.edge, l.node.signature) := by
  induction links generalizing used position cs with
  | nil => exact ⟨[], readLinks_nil hcs, rfl⟩
  | cons l links ih =>
    obtain ⟨hedge, hnode⟩ := h l List.mem_cons_self
    rw [linkCaptures_cons, newNames_append_iff, newNames_append_iff] at hnew
    obtain ⟨hedgeNew, hnodeNew, hlinksNew⟩ := hnew
    have hhead : ∀ (d : Char) (rest : List Char), Text.isBlank d = false →
        Text.trimLeft (' ' :: d :: rest) = d :: rest := fun d rest hd ↦
      Text.trimLeft_append_cons Text.isBlank_of_mem_space hd rest
    obtain ⟨c, cs', htext, hc, hread⟩ :=
      hnode.exists_readNode hnodeNew (edgeFollows_linksText links)
    rw [linksText_cons, htext, hhead _ _ (isBlank_of_endsNode (endsNode_symbol l.edge))] at hcs
    have hedgeRead := fun position ↦ hedge.exists_readEdge hedgeNew position (' ' :: c :: cs')
    generalize l.edge.body.toList ++ l.edge.symbol :: ' ' :: c :: cs' = rest at hcs hedgeRead
    obtain ⟨start, hstart⟩ : ∃ n, n = position + (cs.length - (rest.length + 1)) := ⟨_, rfl⟩
    obtain ⟨nodeStart, hnodeStart⟩ : ∃ n, n = start + (rest.length + 1 - (cs'.length + 1)) :=
      ⟨_, rfl⟩
    obtain ⟨hlt, hedgeRead⟩ := hedgeRead start
    obtain ⟨n, after, hlt', hnodeRead, hsig, hafter⟩ := hread nodeStart
    obtain ⟨links', hlinks, hmap⟩ := ih (fun l' hl' ↦ h l' (List.mem_cons_of_mem l hl')) hlinksNew
      (nodeStart + (cs'.length + 1 - after.length)) hafter
    refine ⟨⟨l.edge, n⟩ :: links', ?_, by rw [List.map_cons, List.map_cons, hmap, hsig]⟩
    rw [readLinks_cons hcs hstart hedgeRead (hhead c cs' hc) hnodeStart hnodeRead, hlinks]
    rfl

/-! ## Equal patterns have the same text -/

private theorem linksText_eq_of_signature {links links' : List (Link V)}
    (h : links.map (fun l ↦ (l.edge, l.node.signature)) =
      links'.map fun l ↦ (l.edge, l.node.signature)) : linksText links = linksText links' := by
  induction links generalizing links' with
  | nil => rw [List.map_eq_nil_iff.1 h.symm]
  | cons l links ih =>
    obtain ⟨l', rest', rfl, hl, hrest⟩ := List.map_eq_cons_iff.1 h.symm
    obtain ⟨hedge, hnode⟩ := Prod.mk.inj hl
    rw [linksText_cons, linksText_cons, ih hrest.symm, hedge,
      NodeMatcher.text_eq_of_signature hnode]

theorem text_eq_of_signature {p q : Pattern V} (h : p.signature = q.signature) :
    Display.text p = Display.text q := by
  obtain ⟨hfirst, hlinks⟩ := Signature.mk.inj h
  rw [← String.toList_inj, text_toList, text_toList, NodeMatcher.text_eq_of_signature hfirst,
    linksText_eq_of_signature hlinks]

theorem read_of_readNode {text : String} {c : Char} {rest : List Char}
    {node : Part (NodeMatcher V) (rest.length + 1)}
    (htext : Text.trimLeft text.toList = c :: rest)
    (hnode : readNode voc [] (text.toList.length - (rest.length + 1)) c rest = .ok node) :
    read voc text =
      readLinks voc node.used (text.toList.length - (rest.length + 1) +
          (rest.length + 1 - node.rest.length)) node.rest >>=
        fun links ↦ pure ⟨node.value, links⟩ := by
  rw [read]
  dsimp only
  split
  · next h => exact absurd (htext.symm.trans h) (by simp)
  · next h =>
    obtain ⟨rfl, rfl⟩ := List.cons_eq_cons.1 (htext.symm.trans h)
    rw [hnode, ok_bind]

/-- The text of a readable pattern is read as a pattern with the same signature. -/
theorem Readable.exists_read {p : Pattern V} (hp : p.Readable voc) :
    ∃ q, read voc (Display.text p) = .ok q ∧ q.signature = p.signature := by
  have hnew : NewNames [] (p.first.name.toList ++ linkCaptures p.links) := by
    rw [← captures_eq]
    exact ⟨hp.captures_nodup, fun a _ ↦ List.not_mem_nil⟩
  rw [newNames_append_iff] at hnew
  obtain ⟨c, cs, htext, hc, hread⟩ :=
    hp.first.exists_readNode hnew.1 (edgeFollows_linksText p.links)
  have htrim : Text.trimLeft (Display.text p).toList = c :: cs := by
    rw [text_toList, htext]
    exact Text.trimLeft_cons hc cs
  obtain ⟨n, after, hlt, hnode, hsig, hafter⟩ :=
    hread ((Display.text p).toList.length - (cs.length + 1))
  obtain ⟨links', hlinks, hmap⟩ := exists_readLinks hp.links hnew.2
    ((Display.text p).toList.length - (cs.length + 1) + (cs.length + 1 - after.length)) hafter
  refine ⟨⟨n, links'⟩, ?_, by rw [signature, signature, hsig, hmap]⟩
  rw [read_of_readNode htrim hnode, hlinks]
  rfl

/-- **Rendering and reading again gives an equal pattern**, which has the same text. -/
theorem read_text {voc : Vocabulary V} {text : String} {p : Pattern V}
    (h : read voc text = .ok p) :
    ∃ q, read voc (Display.text p) = .ok q ∧ q.same p = true ∧
      Display.text q = Display.text p := by
  obtain ⟨q, hread, hsig⟩ := (readable_of_read h).exists_read
  refine ⟨q, hread, ?_, text_eq_of_signature hsig⟩
  rw [same, hsig]
  exact beq_self_eq_true _

theorem read_text_echo :
    ∃ p, read Expression.echo "\x7b x : !(self='no') : .* \x7d < \x7b e : a-(b) \x7d < .*" = .ok p ∧
      Display.text p = "\x7bx:!self=\"no\":.*\x7d <\x7be:a-(b)\x7d< .*" ∧
      ∃ q, read Expression.echo (Display.text p) = .ok q ∧ q.same p = true ∧
        Display.text q = Display.text p := by
  have hread : (read Expression.echo
      "\x7b x : !(self='no') : .* \x7d < \x7b e : a-(b) \x7d < .*").toOption.map Display.text =
        some "\x7bx:!self=\"no\":.*\x7d <\x7be:a-(b)\x7d< .*" := by
    cbv
  obtain ⟨p, hp, htext⟩ := Option.map_eq_some_iff.1 hread
  rw [toOption_eq_some_iff] at hp
  exact ⟨p, hp, htext, read_text hp⟩

end Motif.Pattern
