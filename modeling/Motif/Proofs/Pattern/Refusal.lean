import Motif.Proofs.Matcher.Construction
import Motif.Proofs.Pattern.Grammar

/-!
# What reading a pattern can come to

Reading ends with a pattern, with a mistake, or with a limit. Nothing but a regular expression
exceeds a limit, and it stands between slashes as the label of an edge. So whether reading ends with
a limit can be said in terms of the grammar: a pattern text without repeated names comes first, then
an edge whose label exceeds a limit, and then anything (`read_eq_limit_iff`). What comes behind the
edge does not matter, since reading stops there.

Everywhere else reading gives a pattern that the constructors make, or a mistake.
-/

namespace Motif.Pattern

variable {V : Type} {voc : Vocabulary V} {cs : List Char} {used : List String} {position : Nat}
  {l : Regex.Limit}

/-! ## Texts that exceed a limit -/

/-- The label is a regular expression between slashes that exceeds a limit. -/
def LabelExceeds (cs : List Char) (l : Regex.Limit) : Prop :=
  ∃ source, Text.trim cs = '/' :: source ++ ['/'] ∧
    Regex.compile (String.ofList source) = .error (.limit l)

/-- The label between two delimiters exceeds a limit, with or without a new name before it. -/
inductive BodyExceeds (used : List String) : List Char → Regex.Limit → Prop where
  /-- There is a label and nothing else. -/
  | label {cs : List Char} {l : Regex.Limit} (hlabel : LabelExceeds cs l) : BodyExceeds used cs l
  /-- There are a new name and a label in braces. -/
  | captured {cs name label : List Char} {l : Regex.Limit}
      (hcs : Text.trim cs = '\x7b' :: (name ++ ':' :: label) ++ ['\x7d'])
      (hinner : Transparent (· == '\x7d') 0 (name ++ ':' :: label))
      (hname : isName (Text.trim name) = true) (hnew : String.ofList (Text.trim name) ∉ used)
      (hlabel : LabelExceeds label l) : BodyExceeds used cs l

/-- The text begins with an edge whose label exceeds a limit. -/
inductive EdgeExceeds (used : List String) : List Char → Regex.Limit → Prop where
  /-- Two equal delimiters, and what is between them. -/
  | between {c : Char} {inner : List Char} {directions : List Direction} {l : Regex.Limit}
      (hc : directionsOf? c = some directions) (hinner : Transparent (· == c) 0 inner)
      (hbody : BodyExceeds used inner l) (rest : List Char) :
      EdgeExceeds used (c :: (inner ++ c :: rest)) l

/-- A pattern text without repeated names is followed by an edge whose label exceeds a limit. -/
inductive Exceeds (voc : Vocabulary V) : List Char → Regex.Limit → Prop where
  /-- The pattern text, and what begins with the edge. -/
  | intro {front edge : List Char} {p : Pattern V} {l : Regex.Limit}
      (hfront : PatternText voc front p) (hnodup : p.captures.Nodup)
      (hedge : EdgeExceeds p.captures edge l) : Exceeds voc (front ++ edge) l

theorem EdgeExceeds.congr {used' : List String} (h : EdgeExceeds used cs l)
    (hused : ∀ a, a ∈ used' ↔ a ∈ used) : EdgeExceeds used' cs l := by
  cases h with
  | between hc hinner hbody rest =>
    refine .between hc hinner ?_ rest
    cases hbody with
    | label hlabel => exact .label hlabel
    | captured hcs hbraces hname hnew hlabel =>
      exact .captured hcs hbraces hname (fun hmem ↦ hnew ((hused _).1 hmem)) hlabel

/-! ## Readers that do not exceed a limit -/

/-- No limit is exceeded. -/
def Unlimited {α : Type} (x : Except TextFault α) : Prop := ∀ l, x ≠ .error (.limit l)

namespace Unlimited

variable {α β : Type}

theorem bind {x : Except TextFault α} {f : α → Except TextFault β} (hx : Unlimited x)
    (hf : ∀ a, Unlimited (f a)) : Unlimited (x >>= f) := by
  intro l h
  rcases bind_eq_error_iff.1 h with h | ⟨a, -, h⟩
  · exact hx l h
  · exact hf a l h

theorem ok (a : α) : Unlimited (.ok a : Except TextFault α) := fun _ h ↦ nomatch h

theorem refuse (cause : SyntaxError.Cause) (token : List Char) (position : Nat) :
    Unlimited (refuse cause token position : Except TextFault α) := fun _ h ↦ nomatch h

end Unlimited

private theorem unlimited_readTest : Unlimited (readTest voc position cs) := by
  unfold readTest
  dsimp only
  split
  · exact .refuse _ _ _
  split
  · exact .ok _
  · intro l h
    obtain ⟨e, -, he⟩ := mapError_eq_error_iff.1 h
    cases he

private theorem unlimited_readTests : Unlimited (readTests voc position cs) := by
  fun_induction readTests voc position cs with
  | case1 => exact unlimited_readTest.bind fun _ ↦ .ok _
  | case2 position cs before d after hscan ih =>
    exact unlimited_readTest.bind fun _ ↦ ih.bind fun _ ↦ .ok _

theorem unlimited_readConjunction : Unlimited (readConjunction voc position cs) :=
  unlimited_readTests.bind fun _ ↦ .ok _

theorem unlimited_readName : Unlimited (readName used position cs) := by
  unfold readName
  dsimp only
  split
  · exact .refuse _ _ _
  split
  · exact .refuse _ _ _
  · exact .ok _

private theorem unlimited_readCapturedNode : Unlimited (readCapturedNode voc used position cs) := by
  unfold readCapturedNode
  split
  · exact unlimited_readName.bind fun _ ↦ .ok _
  · refine unlimited_readName.bind fun _ ↦ ?_
    split
    · exact .refuse _ _ _
    · exact unlimited_readConjunction.bind fun _ ↦ .ok _

theorem unlimited_readNode {c : Char} : Unlimited (readNode voc used position c cs) := by
  unfold readNode
  split
  · split
    · exact .refuse _ _ _
    · exact unlimited_readCapturedNode.bind fun _ ↦ .ok _
  split
  · exact unlimited_readConjunction.bind fun _ ↦ .ok _
  · exact .refuse _ _ _
  · exact unlimited_readConjunction.bind fun _ ↦ .ok _

/-! ## Edges -/

private theorem betweenSlashes?_append (source : List Char) :
    betweenSlashes? ('/' :: source ++ ['/']) = some source := by
  rw [List.cons_append, betweenSlashes?, if_pos List.getLast?_concat, List.dropLast_concat]

theorem readLabel_eq_limit_iff :
    readLabel position cs = .error (.limit l) ↔ LabelExceeds cs l := by
  constructor
  · intro h
    unfold readLabel at h
    dsimp only at h
    split at h
    · cases h
    split at h
    · next source hsource =>
      split at h
      · cases h
      · cases h
      · next l' hcompile =>
        obtain rfl := TextFault.limit.inj (Except.error.inj h)
        exact ⟨source, betweenSlashes?_eq_some hsource, hcompile⟩
    · split at h <;> cases h
  · rintro ⟨source, hlabel, hcompile⟩
    have hwild : Text.trim cs ≠ wildcard := by
      rw [hlabel]
      exact fun h ↦ absurd (List.cons_eq_cons.1 h).1 (by decide)
    unfold readLabel
    dsimp only
    rw [if_neg hwild, hlabel, betweenSlashes?_append]
    dsimp only
    rw [hcompile]

private theorem BodyExceeds.isEmpty_trimLeft (h : BodyExceeds used cs l) :
    (Text.trimLeft cs).isEmpty = false := by
  have hne : Text.trim cs ≠ [] := by
    cases h with
    | label hlabel =>
      obtain ⟨source, htrim, -⟩ := hlabel
      simp [htrim]
    | captured htrim => simp [htrim]
  rw [List.isEmpty_eq_false_iff]
  intro hnil
  rw [Text.trim, hnil] at hne
  exact hne rfl

private theorem LabelExceeds.trim_iff : LabelExceeds (Text.trim cs) l ↔ LabelExceeds cs l := by
  rw [LabelExceeds, Text.trim_of_trimmed (Text.trimmed_trim cs), ← LabelExceeds]

theorem readEdgeBody_eq_limit_iff {directions : List Direction} :
    readEdgeBody directions used position (Text.trimLeft cs) = .error (.limit l) ↔
      BodyExceeds used cs l := by
  constructor
  · intro h
    unfold readEdgeBody at h
    dsimp only at h
    split at h
    case h_2 =>
      -- Without a brace, all of it is the label.
      have hlabel := readLabel_eq_limit_iff.1 (bind_pure_eq_error_iff.1 h)
      exact .label (LabelExceeds.trim_iff.1 hlabel)
    next inside hinside =>
    split at h
    · cases h
    next inner d after hscan =>
    split at h
    · cases h
    next hlength =>
    obtain ⟨rfl, hpasses, hclosed, hd⟩ := scanTo_eq_some_iff.1 hscan
    obtain rfl : d = '\x7d' := by simpa using hd
    have htrim : Text.trim cs = '\x7b' :: inner ++ ['\x7d'] := by
      rw [hinside] at hlength
      have hbraces := trimRight_braces (Decidable.not_not.1 hlength)
      rwa [← hinside] at hbraces
    split at h
    · exact absurd (bind_pure_eq_error_iff.1 h) (unlimited_readName l)
    next name label hcut =>
    rcases bind_eq_error_iff.1 h with h | ⟨a, hname, h⟩
    · exact absurd h (unlimited_readName l)
    obtain ⟨ha, hisName, hnew⟩ := readName_eq_ok_iff.1 hname
    obtain ⟨rfl, -⟩ := Text.cut_eq_some hcut
    rw [← String.ofList_toList (s := a), ha] at hnew
    exact .captured htrim ⟨hpasses, hclosed⟩ hisName hnew
      (readLabel_eq_limit_iff.1 (bind_pure_eq_error_iff.1 h))
  · intro h
    obtain ⟨bs, hbs, hblank, -⟩ := Text.exists_blanks_trimRight (Text.trimLeft cs)
    rw [← Text.trim] at hbs
    cases h with
    | label hlabel =>
      have hread := LabelExceeds.trim_iff.2 hlabel
      obtain ⟨source, htrim, -⟩ := hlabel
      rw [readEdgeBody.eq_def]
      dsimp only
      split
      · next inside hinside =>
        rw [hbs, htrim] at hinside
        exact absurd (List.cons_eq_cons.1 hinside).1 (by decide)
      · rw [← Text.trim, readLabel_eq_limit_iff.2 hread, error_bind]
    | @captured name label _ htrim hinner hname hnew hlabel =>
      -- A name has no colon, so the first colon is the one behind it.
      have hcolon : ':' ∉ name := not_mem_of_isName_trim hname (by decide) (by decide)
      rw [hbs, htrim, readEdgeBody_braces_append hinner hblank, readEdgeBody_braces hinner,
        Text.cut_append_cons hcolon]
      dsimp only
      rw [readName_eq_ok_iff.2 ⟨String.toList_ofList, hname, hnew⟩, ok_bind,
        readLabel_eq_limit_iff.2 hlabel, error_bind]

theorem readEdge_eq_limit_iff {c : Char} :
    readEdge used position c cs = .error (.limit l) ↔ EdgeExceeds used (c :: cs) l := by
  constructor
  · intro h
    unfold readEdge at h
    split at h
    · cases h
    next directions hc =>
    split at h
    · cases h
    next inner d after hscan =>
    obtain ⟨rfl, hpasses, hclosed, hd⟩ := scanTo_eq_some_iff.1 hscan
    obtain rfl : d = c := by simpa using hd
    dsimp only at h
    split at h
    · cases h
    · exact .between hc ⟨hpasses, hclosed⟩
        (readEdgeBody_eq_limit_iff.1 (bind_pure_eq_error_iff.1 h)) after
  · intro h
    generalize htext : c :: cs = text at h
    cases h with
    | @between c' inner directions _ hc hinner hbody rest =>
      obtain ⟨rfl, rfl⟩ := List.cons_eq_cons.1 htext
      obtain ⟨hlt, hedge⟩ := exists_readEdge_eq hc hinner hbody.isEmpty_trimLeft rest
      rw [hedge, readEdgeBody_eq_limit_iff.2 hbody, error_bind]

theorem EdgeExceeds.exists_eq_cons (h : EdgeExceeds used cs l) :
    ∃ c tail, cs = c :: tail ∧ endsNode c = true := by
  cases h with
  | between hc _ _ _ => exact ⟨_, _, rfl, endsNode_of_directionsOf? hc⟩

theorem EdgeExceeds.nodeEnds (h : EdgeExceeds used cs l) : NodeEnds cs := by
  obtain ⟨c, tail, rfl, hc⟩ := h.exists_eq_cons
  rw [NodeEnds, Text.trimLeft_cons (isBlank_of_endsNode hc)]
  simpa using hc

/-! ## Links -/

private theorem exists_of_readLinks_limit (h : readLinks voc used position cs = .error (.limit l)) :
    ∃ front edge links, cs = front ++ edge ∧ LinksText voc front links ∧
      NewNames used (linkCaptures links) ∧ EdgeExceeds (linkCaptures links ++ used) edge l := by
  fun_induction readLinks voc used position cs with
  | case1 => cases h
  | case2 used position cs c rest hcons start =>
    rename_i ih
    obtain ⟨bs, hcs, hbs, -⟩ := Text.exists_blanks_trimLeft cs
    rw [hcons] at hcs
    rcases bind_eq_error_iff.1 h with h | ⟨edge, hedge, h⟩
    · -- It is the first edge, and no links come before it.
      exact ⟨bs, c :: rest, [], hcs, .nil hbs, ⟨.nil, fun a ha ↦ absurd ha List.not_mem_nil⟩,
        readEdge_eq_limit_iff.1 h⟩
    split at h
    · cases h
    next d rest' hcons' =>
    rcases bind_eq_error_iff.1 h with h | ⟨node, hnode, h⟩
    · exact absurd h (unlimited_readNode l)
    obtain ⟨front, exceeding, links, hrest, hlinks, hnew, hexceeds⟩ :=
      ih edge d rest' hcons' node (bind_pure_eq_error_iff.1 h)
    obtain ⟨bs', hcs', hbs', -⟩ := Text.exists_blanks_trimLeft edge.rest
    obtain ⟨edgeText, hedgeText, hedgeRule⟩ := edgeText_of_readEdge hedge
    obtain ⟨nodeText, hnodeText, hnodeRule⟩ :=
      nodeText_of_readNode (Text.isBlank_of_trimLeft hcons') hnode
    obtain ⟨-, hedgeNew, hedgeUsed⟩ := readable_of_readEdge hedge
    obtain ⟨-, hnodeNew, hnodeUsed⟩ := readable_of_readNode hnode
    -- The link that has been read comes before those that the induction gives.
    rw [hcons', hnodeText, hrest] at hcs'
    rw [hedgeUsed] at hnodeNew hnodeUsed
    rw [hnodeUsed] at hnew hexceeds
    refine ⟨bs ++ (edgeText ++ (bs' ++ (nodeText ++ front))), exceeding,
      ⟨edge.value, node.value⟩ :: links, ?_, .cons hbs hedgeRule hbs' hnodeRule hlinks, ?_, ?_⟩
    · rw [hcs, hedgeText, hcs']
      simp only [List.append_assoc]
    · rw [linkCaptures_cons, newNames_append_iff, newNames_append_iff]
      exact ⟨hedgeNew, hnodeNew, hnew⟩
    · refine hexceeds.congr fun a ↦ ?_
      simp only [linkCaptures_cons, List.mem_append]
      tauto

/-- Behind links whose names are new, an edge whose label exceeds a limit is met. -/
theorem LinksText.readLinks_append {links : List (Link V)} (h : LinksText voc cs links)
    {edge cs' : List Char} (hedge : EdgeExceeds (linkCaptures links ++ used) edge l)
    (hcs : Text.trimLeft cs' = Text.trimLeft (cs ++ edge))
    (hnew : NewNames used (linkCaptures links)) (position : Nat) :
    readLinks voc used position cs' = .error (.limit l) := by
  induction h generalizing used position cs' with
  | nil hbs =>
    rw [linkCaptures, List.flatMap_nil, List.nil_append] at hedge
    obtain ⟨c, tail, rfl, hc⟩ := hedge.exists_eq_cons
    rw [Text.trimLeft_append_cons hbs (isBlank_of_endsNode hc)] at hcs
    rw [readLinks]
    split
    · next h => exact absurd (hcs.symm.trans h) (by simp)
    · next h =>
      obtain ⟨rfl, rfl⟩ := List.cons_eq_cons.1 (hcs.symm.trans h)
      dsimp only
      rw [readEdge_eq_limit_iff.2 hedge, error_bind]
  | @cons bs edge₁ bs' node rest link links hbs hedge₁ hbs' hnode hrest ih =>
    obtain ⟨d, tail', after, hnodeText, hd, hafter, hnode⟩ :=
      hnode.givesIf (hrest.nodeEnds_append hedge.nodeEnds)
    obtain ⟨c, tail, hedgeText, hc, hedge₁⟩ := hedge₁.givesIf (bs' ++ (node ++ (rest ++ edge)))
    rw [linkCaptures_cons, newNames_append_iff, newNames_append_iff] at hnew
    obtain ⟨hedgeNew, hnodeNew, hlinksNew⟩ := hnew
    have hstart : Text.trimLeft cs' = c :: tail := by
      rw [hcs, ← Text.trimLeft_append_cons hbs (isBlank_of_endsNode hc) tail, ← hedgeText]
      simp only [List.append_assoc]
    have hnodeStart : Text.trimLeft (bs' ++ (node ++ (rest ++ edge))) = d :: tail' := by
      rw [hnodeText, Text.trimLeft_append_cons hbs' hd]
    obtain ⟨hlt, hedge₁⟩ := hedge₁ used (position + (cs'.length - (tail.length + 1)))
    obtain ⟨hlt', hnode⟩ := hnode (link.edge.name.toList ++ used)
      (position + (cs'.length - (tail.length + 1)) + (tail.length + 1 - (tail'.length + 1)))
    have hgo := readLinks_cons hstart rfl (hedge₁.ok hedgeNew) hnodeStart rfl (hnode.ok hnodeNew)
    rw [hgo, ih ?_ hafter hlinksNew, error_bind]
    refine hedge.congr fun a ↦ ?_
    simp only [linkCaptures_cons, List.mem_append]
    tauto

/-! ## Patterns -/

/-- **Reading exceeds a limit exactly where the grammar says.** -/
theorem read_eq_limit_iff {text : String} :
    read voc text = .error (.limit l) ↔ Exceeds voc text.toList l := by
  constructor
  · intro h
    unfold read at h
    dsimp only at h
    split at h
    · cases h
    next c rest hcons =>
    rcases bind_eq_error_iff.1 h with h | ⟨node, hnode, h⟩
    · exact absurd h (unlimited_readNode l)
    obtain ⟨front, edge, links, hrest, hlinks, hnew, hexceeds⟩ :=
      exists_of_readLinks_limit (bind_pure_eq_error_iff.1 h)
    obtain ⟨bs, hcs, hbs, -⟩ := Text.exists_blanks_trimLeft text.toList
    obtain ⟨nodeText, hnodeText, hnodeRule⟩ :=
      nodeText_of_readNode (Text.isBlank_of_trimLeft hcons) hnode
    obtain ⟨-, hnodeNew, hused⟩ := readable_of_readNode hnode
    rw [hused, List.append_nil] at hnew hexceeds
    have hnodup : (captures ⟨node.value, links⟩).Nodup := by
      rw [captures_eq]
      exact (newNames_append_iff.2 ⟨hnodeNew, by rwa [List.append_nil]⟩).1
    have htext : text.toList = bs ++ (nodeText ++ front) ++ edge := by
      rw [hcs, hcons, hnodeText, hrest]
      simp only [List.append_assoc]
    rw [htext]
    refine .intro (.intro hbs hnodeRule hlinks) hnodup (hexceeds.congr fun a ↦ ?_)
    rw [captures_eq, List.mem_append, List.mem_append, or_comm]
  · intro h
    generalize htext : text.toList = cs at h
    cases h with
    | @intro front edge p _ hfront hnodup hedge =>
      cases hfront with
      | @intro bs node rest p hbs hnode hrest =>
        obtain ⟨d, tail, after, hnodeText, hd, hafter, hnode⟩ :=
          hnode.givesIf (hrest.nodeEnds_append hedge.nodeEnds)
        have hstart : Text.trimLeft text.toList = d :: tail := by
          rw [htext, List.append_assoc, List.append_assoc, hnodeText,
            Text.trimLeft_append_cons hbs hd]
        have hnew : NewNames [] (p.first.name.toList ++ linkCaptures p.links) := by
          rw [← captures_eq]
          exact ⟨hnodup, fun a _ ↦ List.not_mem_nil⟩
        obtain ⟨hnodeNew, hlinksNew⟩ := newNames_append_iff.1 hnew
        obtain ⟨hlt, hnode⟩ := hnode [] (text.toList.length - (tail.length + 1))
        rw [read_of_readNode hstart (hnode.ok hnodeNew),
          hrest.readLinks_append (hedge.congr fun a ↦ ?_) hafter hlinksNew, error_bind]
        rw [captures_eq, List.append_nil, List.mem_append, List.mem_append, or_comm]

/-- **Reading gives a pattern that the constructors make, or a mistake**, exactly if no pattern text
is followed by an edge whose label exceeds a limit. -/
theorem read_settles_iff (voc : Vocabulary V) (text : String) :
    ((∃ p, read voc text = .ok p ∧ construct p.plans = .ok p) ∨
        ∃ e, read voc text = .error (.syntax' e)) ↔
      ∀ l, ¬ Exceeds voc text.toList l := by
  constructor
  · intro h l hexceeds
    have hread := read_eq_limit_iff.2 hexceeds
    rcases h with ⟨p, hp, -⟩ | ⟨e, he⟩
    · exact nomatch hp.symm.trans hread
    · exact nomatch he.symm.trans hread
  · intro h
    cases hread : read voc text with
    | ok p => exact .inl ⟨p, rfl, construct_plans p⟩
    | error fault =>
      cases fault with
      | syntax' e => exact .inr ⟨e, rfl⟩
      | limit l => exact absurd (read_eq_limit_iff.1 hread) (h l)

/-- A number of repetitions that is too large is neither. -/
theorem not_settled_of_repetitions :
    read Expression.echo ".* -/a\x7b4294967295\x7d/- .*" = .error (.limit .repetitions) ∧
      ¬ ((∃ p, read Expression.echo ".* -/a\x7b4294967295\x7d/- .*" = .ok p ∧
          construct p.plans = .ok p) ∨
        ∃ e, read Expression.echo ".* -/a\x7b4294967295\x7d/- .*" = .error (.syntax' e)) := by
  have hrefused : (read Expression.echo ".* -/a\x7b4294967295\x7d/- .*" >>= fun _ ↦ pure ()) =
      .error (.limit .repetitions) := by
    decide +kernel
  have hread := bind_pure_eq_error_iff.1 hrefused
  refine ⟨hread, ?_⟩
  rintro (⟨p, hp, -⟩ | ⟨e, he⟩)
  · exact nomatch hp.symm.trans hread
  · exact nomatch he.symm.trans hread

end Motif.Pattern
