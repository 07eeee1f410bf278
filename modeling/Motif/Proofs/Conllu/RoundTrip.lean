import Mathlib.Data.List.Nodup
import Motif.Conllu.Graph
import Motif.Proofs.Conllu.Sentence

/-!
# Graphs that are written and read

A graph is clean if its vertices stand at their positions, every vertex has at most one edge into
it, and all texts are kept by the cells that they are written to. A clean graph is found again from
its text: with the same vertices in the same order, and with the same edges, which are listed in the
order of their dependents.

Writing numbers the words from one where positions begin at zero, writes a head of zero for a vertex
without an edge into it, and leaves out what can be restored: the chunk tag of a token outside every
chunk, and one of the two columns for tags. Reading has a convention for each of these, and the
lemmas on `rowOf` say that the conventions agree.
-/

namespace Motif.Conllu

/-! ## Legible and clean graphs -/

/-- The texts of the token do not tear apart the row that they are written to. -/
@[mk_iff]
structure IsLegibleToken (t : Token) : Prop where
  form : IsClean t.form
  tag : IsClean t.tag
  lemmaForm : IsClean t.lemmaForm
  chunk : IsClean t.chunk

/-- The graph is a sentence: it has words, the words stand at their positions, and no text tears
apart the row that it is written to. -/
@[mk_iff]
structure IsLegibleGraph (g : Graph Token) : Prop where
  vertices_ne_nil : g.vertices ≠ []
  position_eq : ∀ (i : Nat) (hi : i < g.vertices.length), g.vertices[i].position = i
  token : ∀ t ∈ g.vertices, IsLegibleToken t
  label : ∀ e ∈ g.edges, IsClean e.label

instance (t : Token) : Decidable (IsLegibleToken t) := decidable_of_iff' _ (isLegibleToken_iff t)

instance (g : Graph Token) : Decidable (IsLegibleGraph g) :=
  decidable_of_iff' _ (isLegibleGraph_iff g)

/-- The texts of the token are kept by the cells that they are written to. -/
@[mk_iff]
structure IsCleanToken (t : Token) : Prop extends IsLegibleToken t where
  lemmaForm_ne : t.lemmaForm ≠ unspecified
  chunk_isPart : IsFeaturePart t.chunk

/-- The graph is a sentence each word of which depends on at most one word, possibly itself, and all
texts are kept by the cells that they are written to. -/
@[mk_iff]
structure IsCleanGraph (g : Graph Token) : Prop extends IsLegibleGraph g where
  governed_once : ∀ e ∈ g.edges, ∀ f ∈ g.edges, e.dest = f.dest → e = f
  token_clean : ∀ t ∈ g.vertices, IsCleanToken t

instance (t : Token) : Decidable (IsCleanToken t) := decidable_of_iff' _ (isCleanToken_iff t)

instance (g : Graph Token) : Decidable (IsCleanGraph g) := decidable_of_iff' _ (isCleanGraph_iff g)

/-- The second graph has the vertices of the first in the same order, and the same edges, listed by
dependent. -/
structure Reread (g h : Graph Token) : Prop where
  vertices_eq : h.vertices = g.vertices
  mem_edges_iff : ∀ e, e ∈ h.edges ↔ e ∈ g.edges
  listed : h.edges.Pairwise fun e f ↦ e.dest.position < f.dest.position

/-! ## Tags -/

namespace Row

variable {r : Row} {column : TagColumn} {t : String}

theorem tag_of_preferred (h : r.tagIn column = some t) (hne : t ≠ "") : r.tag column = t := by
  rw [tag, h, filter_ne hne, Option.some_or, Option.getD_some]

/-- A text in the other column is the tag if the preferred column is empty. -/
theorem tag_of_other (hempty : r.tagIn column = none ∨ r.tagIn column = some "")
    (h : r.tagIn column.other = some t) (hne : t ≠ "") : r.tag column = t := by
  have hnone : (r.tagIn column).filter (· ≠ "") = none := by
    rcases hempty with hempty | hempty <;> rw [hempty] <;> rfl
  rw [tag, hnone, Option.none_or, h, filter_ne hne, Option.getD_some]

end Row

namespace Sentence

variable {g : Graph Token}

theorem pairwise_position
    (h : ∀ (i : Nat) (hi : i < g.vertices.length), g.vertices[i].position = i) :
    g.vertices.Pairwise fun t u ↦ t.position < u.position := by
  rw [List.pairwise_iff_getElem]
  intro i j hi hj hij
  rw [h i hi, h j hj]
  exact Int.ofNat_lt.2 hij

theorem inOrder_eq (h : ∀ (i : Nat) (hi : i < g.vertices.length), g.vertices[i].position = i) :
    inOrder g = g.vertices :=
  List.mergeSort_of_pairwise ((pairwise_position h).imp fun hlt ↦ decide_eq_true (Int.le_of_lt hlt))

private theorem numberIn_eq (h : IsCleanGraph g) {t : Token} (ht : t ∈ g.vertices) :
    (numberIn g.vertices t : Int) - 1 = t.position := by
  have hlt := List.idxOf_lt_length_of_mem ht
  have hposition := h.position_eq _ hlt
  rw [List.getElem_idxOf hlt] at hposition
  rw [hposition, numberIn]
  omega

theorem numberIn_le {t : Token} (ht : t ∈ g.vertices) :
    numberIn g.vertices t ≤ g.vertices.length := List.idxOf_lt_length_of_mem ht

theorem numberIn_inj {t u : Token} (ht : t ∈ g.vertices) :
    numberIn g.vertices t = numberIn g.vertices u ↔ t = u := by
  rw [numberIn, numberIn, Nat.add_right_cancel_iff]
  exact List.idxOf_inj ht

theorem mem_edges_of_governing? {t : Token} {e : Edge Token} (h : governing? g t = some e) :
    e ∈ g.edges ∧ e.dest = t :=
  ⟨List.mem_reverse.1 (List.mem_of_find?_eq_some h), by simpa using List.find?_some h⟩

theorem governing?_eq_some_iff (h : IsCleanGraph g) {t : Token} {e : Edge Token} :
    governing? g t = some e ↔ e ∈ g.edges ∧ e.dest = t := by
  refine ⟨mem_edges_of_governing?, ?_⟩
  rintro ⟨he, rfl⟩
  obtain ⟨f, hf⟩ : ∃ f, governing? g e.dest = some f :=
    Option.isSome_iff_exists.1 (List.find?_isSome.2 ⟨e, List.mem_reverse.2 he, by simp⟩)
  obtain ⟨hmem, hdest⟩ := mem_edges_of_governing? hf
  rw [hf, h.governed_once f hmem e he hdest]

/-! ## Writing -/

variable {convention : Convention}

theorem legible_rowOf (h : IsLegibleGraph g) (hkey : IsClean convention.chunkKey) {t : Token}
    (ht : t ∈ g.vertices) : (rowOf convention g g.vertices t).Legible := by
  have hlegible := h.token t ht
  have htag (column : TagColumn) :
      IsClean (if convention.tagColumn = column then t.tag else unspecified) := by
    split
    · exact hlegible.tag
    · exact isClean_unspecified
  refine ⟨⟨_, rfl, Nat.succ_pos _⟩, ⟨_, rfl, hlegible.form⟩, ⟨_, rfl, hlegible.lemmaForm⟩,
    ⟨_, rfl, htag _⟩, ⟨_, rfl, htag _⟩, ?head, ?relation, ?misc⟩
  case head =>
    cases hgoverning : governing? g t with
    | none => exact ⟨0, by simp [rowOf, hgoverning]⟩
    | some e => exact ⟨numberIn g.vertices e.source, by simp [rowOf, hgoverning]⟩
  case relation =>
    refine ⟨_, rfl, ?_⟩
    cases hgoverning : governing? g t with
    | none => exact (by decide : IsClean "root")
    | some e => exact h.label e (mem_edges_of_governing? hgoverning).1
  case misc =>
    rw [rowOf]
    dsimp only
    split
    · exact isClean_unspecified
    · exact isClean_renderFeatures hkey hlegible.chunk

theorem exists_head_rowOf (convention : Convention) (g : Graph Token) (t : Token) : ∃ k : Nat,
    (rowOf convention g g.vertices t).head = some (k : Int) ∧ k ≤ g.vertices.length := by
  cases hgoverning : governing? g t with
  | none => exact ⟨0, by simp [rowOf, hgoverning], Nat.zero_le _⟩
  | some e =>
    have he : e ∈ g.edges := (mem_edges_of_governing? hgoverning).1
    exact ⟨_, by simp [rowOf, hgoverning], numberIn_le (g.ends_mem e he).1⟩

theorem writable_rowOf (h : IsCleanGraph g) (hkey : IsFeaturePart convention.chunkKey)
    (hsize : g.vertices.length < 10 ^ Text.maxNumeralDigits) {t : Token} (ht : t ∈ g.vertices) :
    (rowOf convention g g.vertices t).Writable := by
  refine ⟨legible_rowOf h.toIsLegibleGraph hkey.toIsClean ht, ?id, ?head, ?features⟩
  case id =>
    rintro n ⟨⟩
    exact (numberIn_le ht).trans_lt hsize
  case head =>
    intro k hhead
    obtain ⟨k', hhead', hk'⟩ := exists_head_rowOf convention g t
    obtain rfl : k = k' := Int.ofNat_inj.1 (Option.some_inj.1 (hhead.symm.trans hhead'))
    exact hk'.trans_lt hsize
  case features =>
    rw [rowOf]
    dsimp only
    split
    · exact .inl rfl
    · exact .inr ⟨_, _, rfl, hkey, (h.token_clean t ht).chunk_isPart⟩

private theorem plainLine_comment_ofGraph (h : IsLegibleGraph g) :
    Text.PlainLine (" ".intercalate (g.vertices.map Token.form)).toList := by
  rw [String.toList_intercalate]
  refine plainLine_intercalate (by decide) (by decide) (by simp [h.vertices_ne_nil]) fun s hs ↦ ?_
  obtain ⟨t, ht, rfl⟩ := List.mem_map.1 hs
  exact (h.token t ht).form

theorem legible_ofGraph (h : IsLegibleGraph g) (hkey : IsClean convention.chunkKey) :
    (ofGraph convention g).Legible := by
  rw [ofGraph, inOrder_eq h.position_eq]
  refine ⟨⟨_, rfl, plainLine_comment_ofGraph h⟩, fun r hr ↦ ?_⟩
  obtain ⟨t, ht, rfl⟩ := List.mem_map.1 hr
  exact legible_rowOf h hkey ht

theorem writable_ofGraph (h : IsCleanGraph g) (hkey : IsFeaturePart convention.chunkKey)
    (hsize : g.vertices.length < 10 ^ Text.maxNumeralDigits) :
    (ofGraph convention g).Writable := by
  refine ⟨legible_ofGraph h.toIsLegibleGraph hkey.toIsClean, fun r hr ↦ ?_⟩
  rw [ofGraph, inOrder_eq h.position_eq] at hr
  obtain ⟨t, ht, rfl⟩ := List.mem_map.1 hr
  exact writable_rowOf h hkey hsize ht

/-! ## Reading -/

/-- The tag is found in either column, except that an underscore which was written to the column
for universal tags is read as a tag. -/
theorem tag_reread_rowOf_eq {t : Token} (hne : t.tag ≠ "") (column : TagColumn) :
    (rowOf convention g g.vertices t).reread.tag column =
      if convention.tagColumn = .specific ∧ column = .universal then unspecified else t.tag := by
  have huniversal : (rowOf convention g g.vertices t).reread.tagIn .universal =
      some (if convention.tagColumn = .universal then t.tag else unspecified) := rfl
  have hspecific : (rowOf convention g g.vertices t).reread.tagIn .specific =
      (some (if convention.tagColumn = .specific then t.tag else unspecified)).filter
        (· ≠ unspecified) := rfl
  cases hwritten : convention.tagColumn with
  | universal =>
    rw [if_neg fun h ↦ nomatch h.1]
    rw [hwritten, if_pos rfl] at huniversal
    rw [hwritten, if_neg nofun] at hspecific
    cases column with
    | universal => exact Row.tag_of_preferred huniversal hne
    | specific => exact Row.tag_of_other (.inl hspecific) huniversal hne
  | specific =>
    rw [hwritten, if_neg nofun] at huniversal
    rw [hwritten, if_pos rfl] at hspecific
    cases column with
    | universal =>
      rw [if_pos ⟨rfl, rfl⟩]
      exact Row.tag_of_preferred huniversal (by decide)
    | specific =>
      rw [if_neg fun h ↦ nomatch h.2]
      by_cases hspecified : t.tag = unspecified
      · rw [hspecified] at hspecific ⊢
        exact Row.tag_of_other (.inl hspecific) huniversal (by decide)
      · rw [filter_ne hspecified] at hspecific
        exact Row.tag_of_preferred hspecific hne

/-- The tag is read from the column that it was written to. One column can say that the tag is not
specified, and then the other one says it too. -/
private theorem tag_reread_rowOf {t : Token} (ht : IsClean t.tag) :
    (rowOf convention g g.vertices t).reread.tag convention.tagColumn = t.tag := by
  rw [tag_reread_rowOf_eq ht.ne_empty, if_neg]
  rintro ⟨hspecific, huniversal⟩
  exact nomatch hspecific.symm.trans huniversal

private theorem chunk_reread_rowOf {t : Token} (ht : IsClean t.chunk) :
    (rowOf convention g g.vertices t).reread.chunk convention.chunkKey = t.chunk := by
  by_cases houtside : t.chunk = outsideChunk
  · simp [Row.chunk, Row.reread, rowOf, houtside]
  · have hget : (InsertionMap.ofList [(convention.chunkKey, some t.chunk)]).get?
        convention.chunkKey = some (some t.chunk) := InsertionMap.get?_of_mem List.mem_cons_self
    have hmisc : (rowOf convention g g.vertices t).reread.misc =
        .ofList [(convention.chunkKey, some t.chunk)] := if_neg houtside
    rw [Row.chunk, hmisc, hget, Option.join_some, filter_ne ht.ne_empty, Option.getD_some]

theorem token_reread_rowOf (h : IsCleanGraph g) {t : Token} (ht : t ∈ g.vertices) :
    (rowOf convention g g.vertices t).reread.token convention (numberIn g.vertices t) = .ok t := by
  have hclean := h.token_clean t ht
  have hform : (rowOf convention g g.vertices t).reread.form = some t.form := rfl
  have hlemma : (rowOf convention g g.vertices t).reread.lemmaForm = some t.lemmaForm := rfl
  rw [Row.token, hform, hlemma, tag_reread_rowOf hclean.tag, chunk_reread_rowOf hclean.chunk,
    numberIn_eq h ht, filter_ne hclean.lemmaForm_ne]
  rfl

/-- The word of a vertex, as it is read: its number and its row. -/
def wordOf (convention : Convention) (g : Graph Token) (t : Token) : Nat × Row :=
  (numberIn g.vertices t, (rowOf convention g g.vertices t).reread)

private theorem words_reread_ofGraph (h : IsCleanGraph g) :
    (ofGraph convention g).reread.words = .ok (g.vertices.map (wordOf convention g)) := by
  have hrows : (ofGraph convention g).reread.rows =
      g.vertices.map fun t ↦ (wordOf convention g t).2 := by
    rw [reread, ofGraph, inOrder_eq h.position_eq, List.map_map]
    rfl
  have hnumbered : ((ofGraph convention g).reread.rows.mapM fun r ↦ do
      pure ((← r.wordNumber?).map fun n ↦ (n, r)) : Except Fault _) =
        .ok (g.vertices.map (some ∘ wordOf convention g)) := by
    rw [hrows, List.mapM_map]
    exact mapM_eq_ok fun t _ ↦ rfl
  rw [words, hnumbered, ok_bind, ← List.map_map, List.filterMap_map]
  exact congrArg Except.ok (List.filterMap_some)

/-- The vertices with the numbers of their words. -/
def numbered (g : Graph Token) : List (Nat × Token) :=
  g.vertices.map fun t ↦ (numberIn g.vertices t, t)

theorem nodup_numbered : ((numbered g).map Prod.fst).Nodup := by
  rw [numbered, List.map_map]
  exact List.Nodup.map_on (fun t ht u _ heq ↦ (numberIn_inj ht).1 heq) g.vertices_nodup

private theorem tokens_words (h : IsCleanGraph g) :
    tokens convention (g.vertices.map (wordOf convention g)) =
      .ok (.ofList (numbered g)) := by
  have htokens (words : List (Nat × Row)) : tokens convention words =
      (words.mapM fun w ↦ do pure (w.1, ← w.2.token convention w.1)) >>= fun ts ↦
        .ok (.ofList ts) := rfl
  have hvertices : ((g.vertices.map (wordOf convention g)).mapM fun w ↦ do
      pure (w.1, ← w.2.token convention w.1) : Except Fault _) = .ok (numbered g) := by
    rw [List.mapM_map]
    refine mapM_eq_ok fun t ht ↦ ?_
    dsimp only [Function.comp_apply, wordOf]
    rw [token_reread_rowOf h ht]
    rfl
  rw [htokens, hvertices]
  rfl

private theorem get?_numbered {t : Token} (ht : t ∈ g.vertices) :
    (InsertionMap.ofList (numbered g)).get? (numberIn g.vertices t) = some t := by
  refine InsertionMap.get?_of_mem ?_
  rw [InsertionMap.entries_ofList nodup_numbered]
  exact List.mem_map.2 ⟨t, ht, rfl⟩

/-- The head of a word is the source of the edge into it, and a word without such an edge is a
root. -/
private theorem attachment_wordOf (h : IsCleanGraph g) {t : Token} (ht : t ∈ g.vertices) :
    attachment (.ofList (numbered g)) (wordOf convention g t) =
      ((governing? g t).map Attachment.edge).getD .root := by
  have hdependent : (InsertionMap.ofList (numbered g)).get? (wordOf convention g t).1 = some t :=
    get?_numbered ht
  cases hgoverning : governing? g t with
  | none =>
    have hhead : (wordOf convention g t).2.head = some 0 := by
      simp [wordOf, rowOf, Row.reread, hgoverning]
    rw [attachment, hhead, hdependent]
    rfl
  | some e =>
    obtain ⟨he, hdest⟩ := (governing?_eq_some_iff h).1 hgoverning
    have hhead : (wordOf convention g t).2.head = some (numberIn g.vertices e.source : Int) := by
      simp [wordOf, rowOf, Row.reread, hgoverning]
    have hlabel : (wordOf convention g t).2.label = e.label := by
      have hrelation : (wordOf convention g t).2.relation = some e.label := by
        simp [wordOf, rowOf, Row.reread, hgoverning]
      rw [Row.label, hrelation, filter_ne (h.label e he).ne_empty, Option.getD_some]
    have hne : (numberIn g.vertices e.source : Int) ≠ 0 :=
      Int.natCast_ne_zero.2 (Nat.succ_ne_zero _)
    have hgovernor : (numberIn g.vertices e.source : Int).toNat?.bind
        (InsertionMap.ofList (numbered g)).get? = some e.source :=
      get?_numbered (g.ends_mem e he).1
    rw [attachment, hhead, hdependent]
    dsimp only
    rw [if_neg hne, hgovernor, hlabel, ← hdest]
    rfl

/-- The graph of the vertices and the edges into them, in the order of the vertices. -/
def rereadOf (g : Graph Token) : Graph Token :=
  .within g.vertices (g.vertices.filterMap (governing? g))

/-- This is what is read from the sentence of a clean graph, and nothing is reported. -/
theorem toGraph_reread_ofGraph (h : IsCleanGraph g) :
    (ofGraph convention g).reread.toGraph convention = .ok (rereadOf g, []) := by
  have hvalues : (InsertionMap.ofList (numbered g)).values = g.vertices := by
    rw [InsertionMap.values, InsertionMap.entries_ofList nodup_numbered, numbered, List.map_map]
    exact List.map_id _
  have hattachments : (g.vertices.map (wordOf convention g)).map
      (attachment (.ofList (numbered g))) =
        g.vertices.map fun t ↦ ((governing? g t).map Attachment.edge).getD .root := by
    rw [List.map_map]
    exact List.map_congr_left fun t ht ↦ attachment_wordOf h ht
  rw [toGraph, words_reread_ofGraph h, ok_bind, tokens_words h, ok_bind]
  dsimp only
  rw [hattachments, hvalues, List.filterMap_map, List.filterMap_map]
  refine congrArg Except.ok (Prod.ext (congrArg (Graph.within g.vertices) ?edges) ?records)
  case edges =>
    refine List.filterMap_congr fun t _ ↦ ?_
    rw [Function.comp_apply]
    cases governing? g t <;> rfl
  case records =>
    refine List.filterMap_eq_nil_iff.2 fun t _ ↦ ?_
    rw [Function.comp_apply]
    cases governing? g t <;> rfl

theorem reread_rereadOf (h : IsCleanGraph g) : Reread g (rereadOf g) := by
  have hmem (e : Edge Token) : e ∈ g.vertices.filterMap (governing? g) ↔ e ∈ g.edges := by
    rw [List.mem_filterMap]
    constructor
    · rintro ⟨t, -, ht⟩
      exact ((governing?_eq_some_iff h).1 ht).1
    · exact fun he ↦ ⟨e.dest, (g.ends_mem e he).2, (governing?_eq_some_iff h).2 ⟨he, rfl⟩⟩
  have hedges : (rereadOf g).edges = distinct (g.vertices.filterMap (governing? g)) :=
    Graph.edges_within fun e he ↦ g.ends_mem e ((hmem e).1 he)
  have hlisted : (g.vertices.filterMap (governing? g)).Pairwise
      fun e f ↦ e.dest.position < f.dest.position := by
    refine (pairwise_position h.position_eq).filterMap _ fun t u hlt e he f hf ↦ ?_
    rw [((governing?_eq_some_iff h).1 he).2, ((governing?_eq_some_iff h).1 hf).2]
    exact hlt
  refine ⟨?vertices, fun e ↦ ?edges, ?listed⟩
  case vertices => exact distinctBy_eq_self id (by simpa using g.vertices_nodup)
  case edges => rw [hedges, mem_distinct, hmem]
  case listed =>
    rw [hedges]
    exact hlisted.sublist (distinctBy_sublist id _)

end Sentence

/-! ## Whole texts -/

theorem yields_readGraphs (convention : Convention) (text : String) :
    (readGraphs convention text).Yields
      (read text >>= List.mapM fun s ↦ s.toGraph convention >>= fun x ↦ .ok x.1) := by
  refine (Journaled.yields_ofExcept _).bind fun ss ↦ Journaled.yields_mapM fun s _ ↦ ?_
  refine (Journaled.yields_ofExcept _).bind fun ⟨graph, records⟩ ↦ ?_
  exact (Journaled.yields_write records).bind fun _ ↦ Journaled.yields_pure graph

section Load

variable {convention : Convention} {files : Files} {name : String}

theorem yields_load {r : Except LoadFault (List (Graph Token))}
    (h : (readFile convention files name).Yields r) : (load convention files name).Yields r := by
  cases r with
  | ok graphs =>
    exact (h.tryCatch _).bind fun graphs ↦
      (Journaled.yields_write _).bind fun _ ↦ Journaled.yields_pure graphs
  | error fault =>
    refine Journaled.Yields.bind (r := .error fault)
      (Journaled.yields_tryCatch_of_error h ?rescue) fun graphs ↦
        (Journaled.yields_write _).bind fun _ ↦ Journaled.yields_pure graphs
    -- The failure is reported in two records and passed on.
    exact (Journaled.yields_write _).bind fun _ ↦
      (Journaled.yields_write _).bind fun _ ↦ Journaled.yields_throw fault

theorem load_ne_ok {fault : FileFault} (hfile : files name = .error fault)
    (graphs : List (Graph Token)) : (load convention files name).result.1 ≠ .ok graphs := by
  have hread : (readFile convention files name).Yields (.error (.file fault)) := by
    rw [readFile, hfile]
    exact Journaled.yields_throw _
  rw [(yields_load hread).result_fst]
  exact nofun

/-- What is loaded from a file are the graphs of the sentences that are read in it. -/
theorem load_eq_ok_iff {text : String} (hfile : files name = .ok text)
    {graphs : List (Graph Token)} :
    (load convention files name).result.1 = .ok graphs ↔
      (read (Text.withUnifiedNewlines text) >>= List.mapM fun s ↦
        s.toGraph convention >>= fun x ↦ .ok x.1) = .ok graphs := by
  have hread := (yields_readGraphs convention (Text.withUnifiedNewlines text)).mapFault
    LoadFault.invalid
  have heq : readFile convention files name =
      (readGraphs convention (Text.withUnifiedNewlines text)).mapFault .invalid := by
    rw [readFile, hfile]
  rw [← heq] at hread
  rw [(yields_load hread).result_fst, mapError_eq_ok_iff]

end Load

section

variable {convention : Convention} {graphs : List (Graph Token)}

theorem yields_readGraphs_renderGraphs (hclean : ∀ g ∈ graphs, IsCleanGraph g)
    (hkey : IsFeaturePart convention.chunkKey)
    (hsize : ∀ g ∈ graphs, g.vertices.length < 10 ^ Text.maxNumeralDigits) :
    (readGraphs convention (Text.withUnifiedNewlines (renderGraphs convention graphs))).Yields
      (.ok (graphs.map Sentence.rereadOf)) := by
  have hread : read (Text.withUnifiedNewlines (renderGraphs convention graphs)) =
      .ok (graphs.map fun g ↦ (Sentence.ofGraph convention g).reread) := by
    have hwritable : ∀ s ∈ graphs.map (Sentence.ofGraph convention), s.Writable := by
      intro s hs
      obtain ⟨g, hg, rfl⟩ := List.mem_map.1 hs
      exact Sentence.writable_ofGraph (hclean g hg) hkey (hsize g hg)
    have hrender := read_render hwritable
    rw [List.map_map, List.map_map] at hrender
    exact hrender
  have hgraphs : (graphs.map fun g ↦ (Sentence.ofGraph convention g).reread).mapM
      (fun s ↦ s.toGraph convention >>= fun x ↦ .ok x.1) = .ok (graphs.map Sentence.rereadOf) := by
    rw [List.mapM_map]
    refine mapM_eq_ok fun g hg ↦ ?_
    rw [Function.comp_apply, Sentence.toGraph_reread_ofGraph (hclean g hg)]
    rfl
  have hyields := yields_readGraphs convention
    (Text.withUnifiedNewlines (renderGraphs convention graphs))
  rwa [hread, ok_bind, hgraphs] at hyields

/-- **Graphs that are written are read.** From a file that holds the text of clean graphs, as many
graphs are loaded, in their order, and each has the vertices and the edges of the one written.

The words are counted in numerals, and `hsize` says no more than that these are not too long to be
read; a graph that it excludes would have words whose numbers have thousands of digits. -/
theorem load_renderGraphs {column : TagColumn} {files : Files} {name : String}
    (hclean : ∀ g ∈ graphs, IsCleanGraph g)
    (hsize : ∀ g ∈ graphs, g.vertices.length < 10 ^ Text.maxNumeralDigits)
    (hfile : files name = .ok (renderGraphs ⟨column, Convention.standardChunkKey⟩ graphs)) :
    ∃ loaded, (load ⟨column, Convention.standardChunkKey⟩ files name).result.1 = .ok loaded ∧
      List.Forall₂ Reread graphs loaded := by
  have hkey : IsFeaturePart Convention.standardChunkKey := by decide
  have hread : (readFile ⟨column, Convention.standardChunkKey⟩ files name).Yields
      (.ok (graphs.map Sentence.rereadOf)) := by
    rw [readFile, hfile]
    exact (yields_readGraphs_renderGraphs hclean hkey hsize).mapFault LoadFault.invalid
  have hload : (load ⟨column, Convention.standardChunkKey⟩ files name).Yields
      (.ok (graphs.map Sentence.rereadOf) >>= .ok) :=
    (hread.tryCatch _).bind fun loaded ↦
      (Journaled.yields_write _).bind fun _ ↦ Journaled.yields_pure loaded
  refine ⟨_, hload.result_fst, List.forall₂_map_right_iff.2 ?_⟩
  exact List.forall₂_same.2 fun g hg ↦ Sentence.reread_rereadOf (hclean g hg)

end

/-- Two sentences: one of two words that depend on each other, and one of a word that depends on
itself. -/
def sampleGraphs : List (Graph Token) :=
  let city : Token := ⟨"New York", "PROPN", "B-NP", "New York", 0⟩
  let verb : Token := ⟨"sleeps", "_", "O", "sleep", 1⟩
  let mark : Token := ⟨"=", "PUNCT", "O", "#", 0⟩
  [.within [city, verb] [⟨city, verb, "nsubj"⟩, ⟨verb, city, "comes after"⟩],
    .within [mark] [⟨mark, mark, "_"⟩]]

theorem load_renderGraphs_sample :
    ((∀ g ∈ sampleGraphs, IsCleanGraph g) ∧
      ∀ g ∈ sampleGraphs, g.vertices.length < 10 ^ Text.maxNumeralDigits) ∧
    ∃ loaded, (load ⟨.specific, Convention.standardChunkKey⟩
        (fun _ ↦ .ok (renderGraphs ⟨.specific, Convention.standardChunkKey⟩ sampleGraphs))
        "out.conllu").result.1 = .ok loaded ∧ List.Forall₂ Reread sampleGraphs loaded := by
  have hclean : ∀ g ∈ sampleGraphs, IsCleanGraph g := by decide +kernel
  have hsize : ∀ g ∈ sampleGraphs, g.vertices.length < 10 ^ Text.maxNumeralDigits := by
    decide +kernel
  exact ⟨⟨hclean, hsize⟩, load_renderGraphs hclean hsize rfl⟩

end Motif.Conllu
