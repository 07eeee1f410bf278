import Motif.Proofs.Conllu.RoundTrip
import Motif.Proofs.Document.Graph

/-!
# Parsed documents that are exported

The graphs of the sentences of a document are written in order to be loaded again. The structure of
the graphs takes care of itself: positions begin at zero in every sentence, a word has one head at
most, and a head outside the sentence makes no edge. What matters are the texts of the words. If
they are *plain*, so that no separator tears them apart, then the same graphs are loaded exactly if
every word has a tag and a lemma that the reader does not take for a missing one
(`load_renderGraphs_graph_iff`).

Documents also have words that are not plain. A line break is a word of its own, and a row that
contains it is torn apart (`load_brokenDocument`).
-/

namespace Motif

open Conllu

/-! ## Sentences -/

namespace Document

variable {d : Document} {s : Span} {spans : List Span} {i : Nat} {w : Word} {e : Edge Token}

/-- If a division into sentences is given, every sentence begins at a word and has it. -/
def WellDivided (d : Document) : Prop :=
  ∀ spans ∈ d.division, ∀ s ∈ spans, s.start < s.stop ∧ s.start < d.words.length

instance : Decidable d.WellDivided :=
  inferInstanceAs (Decidable
    (∀ spans ∈ d.division, ∀ s ∈ spans, s.start < s.stop ∧ s.start < d.words.length))

private theorem nonempty_of_mem_spansFrom {stop : Nat} {starts : List Nat}
    (hsorted : starts.Pairwise (· < ·)) (hstarts : ∀ i ∈ starts, i < stop) :
    ∀ s ∈ spansFrom stop starts, s.start < s.stop ∧ s.start < stop := by
  induction starts using spansFrom.induct with
  | case1 => simp [spansFrom]
  | case2 start =>
    have hstart := hstarts start List.mem_cons_self
    intro s hs
    obtain rfl := List.mem_singleton.1 hs
    exact ⟨hstart, hstart⟩
  | case3 start next rest ih =>
    obtain ⟨hnext, hsorted⟩ := List.pairwise_cons.1 hsorted
    obtain ⟨hstart, hstarts⟩ := List.forall_mem_cons.1 hstarts
    intro s hs
    rcases List.mem_cons.1 hs with rfl | hs
    · exact ⟨hnext next List.mem_cons_self, hstart⟩
    · exact ih hsorted hstarts s hs

theorem WellDivided.nonempty (h : d.WellDivided) (hspans : d.sentences? = some spans) :
    ∀ s ∈ spans, s.start < s.stop ∧ s.start < d.words.length := by
  rw [sentences?] at hspans
  cases hdivision : d.division with
  | some given =>
    rw [hdivision] at hspans
    obtain rfl := Option.some_inj.1 hspans
    exact h given hdivision
  | none =>
    rw [hdivision] at hspans
    dsimp only at hspans
    split at hspans
    · obtain rfl := Option.some_inj.1 hspans
      refine nonempty_of_mem_spansFrom ?_ fun i hi ↦ ?_
      · exact List.pairwise_lt_range.filter _
      · exact List.mem_range.1 (List.mem_of_mem_filter hi)
    · cases hspans

end Document

/-! ## Plain words -/

def Word.tagText (w : Word) : String := if w.tag = "" then w.category else w.tag

def Word.lemmaText (w : Word) : String :=
  if w.lemmaForm = "" then Text.lower w.form else w.lemmaForm

/-- The texts of a word that are not missing are kept by the cells that they are written to, and the
word is no underscore. -/
@[mk_iff]
structure Word.IsPlain (w : Word) : Prop where
  form : IsClean w.form
  form_ne : Text.lower w.form ≠ unspecified
  tag : w.tagText = "" ∨ IsClean w.tagText
  lemmaForm : IsClean w.lemmaText
  relation : w.relation = "" ∨ IsClean w.relation

instance (w : Word) : Decidable w.IsPlain := decidable_of_iff' _ (Word.isPlain_iff w)

/-- The word has a tag, and a lemma that does not stand for a missing one. -/
@[mk_iff]
structure Word.IsSpecified (w : Word) : Prop where
  tag_ne : w.tagText ≠ ""
  lemmaForm_ne : w.lemmaText ≠ unspecified

instance (w : Word) : Decidable w.IsSpecified := decidable_of_iff' _ (Word.isSpecified_iff w)

namespace Document

variable {d : Document} {s : Span} {spans : List Span} {i : Nat} {w : Word} {e : Edge Token}

@[simp] theorem lemmaForm_token : (d.token s i w).lemmaForm = w.lemmaText := by
  have hlemma : (d.token s i w).lemmaForm =
      (if w.lemmaForm = "" then none else some w.lemmaForm).getD (Text.lower w.form) := rfl
  rw [hlemma, Word.lemmaText]
  split <;> rfl

private theorem isFeaturePart_chunk (x : Option ChunkTag) :
    IsFeaturePart ((x.map ChunkTag.text).getD outsideChunk) := by
  cases x with
  | none => decide
  | some tag => cases tag <;> decide

private theorem isCleanToken_token (h : w.IsPlain) (hspecified : w.IsSpecified) :
    IsCleanToken (d.token s i w) where
  form := h.form
  tag := h.tag.resolve_left hspecified.tag_ne
  lemmaForm := lemmaForm_token ▸ h.lemmaForm
  lemmaForm_ne := lemmaForm_token ▸ hspecified.lemmaForm_ne
  chunk := (isFeaturePart_chunk _).toIsClean
  chunk_isPart := isFeaturePart_chunk _

private theorem relation_ne (hw : (i, w) ∈ d.wordsIn s) (h : d.headOf i ≠ i) : w.relation ≠ "" := by
  intro hrelation
  apply h
  rw [headOf, (mem_wordsIn.1 hw).1]
  exact if_pos hrelation

/-- The graph of a sentence of plain words is clean if all of them are specified. -/
theorem isCleanGraph_graph (hplain : ∀ w ∈ d.words, w.IsPlain)
    (hspecified : ∀ x ∈ d.wordsIn s, x.2.IsSpecified) (hstop : s.start < s.stop)
    (hlength : s.start < d.words.length) : IsCleanGraph (d.graph s) := by
  have htoken : ∀ t ∈ (d.graph s).vertices, IsCleanToken t := by
    intro t ht
    obtain ⟨i, w, hw, rfl⟩ := mem_vertices_graph.1 ht
    have hword := hplain w (List.mem_of_getElem? (mem_wordsIn.1 hw).1)
    exact isCleanToken_token hword (hspecified _ hw)
  refine ⟨⟨?vertices_ne_nil, fun _ hk ↦ position_getElem_vertices hk,
    fun t ht ↦ (htoken t ht).toIsLegibleToken, ?label⟩,
    fun _ he _ hf hdest ↦ eq_of_dest_eq he hf hdest, htoken⟩
  case vertices_ne_nil =>
    rw [vertices_graph]
    intro hnil
    have hpositions : (d.wordsIn s).map Prod.fst = [] := by
      rw [List.map_eq_nil_iff.1 hnil]
      rfl
    rw [map_fst_wordsIn, List.range'_eq_nil_iff] at hpositions
    omega
  case label =>
    intro e he
    obtain ⟨i, w, hw, hedge⟩ := mem_edges_graph.1 he
    obtain ⟨hne, v, -, rfl⟩ := edgeTo?_eq_some_iff.1 hedge
    have hword := hplain w (List.mem_of_getElem? (mem_wordsIn.1 hw).1)
    exact hword.relation.resolve_left (relation_ne hw hne)

private theorem governing?_graph (hw : (i, w) ∈ d.wordsIn s) (h : IsCleanGraph (d.graph s)) :
    Sentence.governing? (d.graph s) (d.token s i w) = d.edgeTo? s i w := by
  refine Option.ext fun e ↦ ?_
  rw [Sentence.governing?_eq_some_iff h]
  constructor
  · rintro ⟨he, hdest⟩
    exact edgeTo?_of_mem_edges hw he hdest
  · intro hedge
    exact ⟨mem_edges_graph.2 ⟨i, w, hw, hedge⟩, dest_of_edgeTo? hedge⟩

private theorem rereadOf_graph (h : IsCleanGraph (d.graph s)) :
    Sentence.rereadOf (d.graph s) = d.graph s := by
  have hedges : ((d.wordsIn s).map fun x ↦ d.token s x.1 x.2).filterMap
      (Sentence.governing? (d.graph s)) =
        (d.wordsIn s).filterMap fun x ↦ d.edgeTo? s x.1 x.2 := by
    rw [List.filterMap_map]
    exact List.filterMap_congr fun x hx ↦ governing?_graph hx h
  rw [Sentence.rereadOf, vertices_graph, hedges]
  rfl

end Document

/-! ## Export -/

namespace Conllu

variable {convention : Convention} {files : Files} {name : String}

/-! ### What is missing in tokens that are read -/

/-- Nothing is missing in the token: it has a tag, and its lemma is not unspecified, unless this is
the word in lower case. -/
structure IsComplete (t : Token) : Prop where
  tag_ne : t.tag ≠ ""
  lower_eq : t.lemmaForm = unspecified → Text.lower t.form = unspecified

private theorem Row.tag_ne_empty (r : Row) (column : TagColumn) : r.tag column ≠ "" := by
  rw [Row.tag]
  cases htag : ((r.tagIn column).filter (· ≠ "")).or ((r.tagIn column.other).filter (· ≠ "")) with
  | none => decide
  | some t =>
    rw [Option.getD_some]
    rcases Option.or_eq_some_iff.1 htag with h | ⟨-, h⟩
    · exact of_decide_eq_true (Option.filter_eq_some_iff.1 h).2
    · exact of_decide_eq_true (Option.filter_eq_some_iff.1 h).2

private theorem Row.isComplete_of_token {r : Row} {n : Nat} {t : Token}
    (h : r.token convention n = .ok t) : IsComplete t := by
  rw [Row.token] at h
  split at h
  · cases h
  · next form hform =>
    obtain rfl := Except.ok.inj h
    refine ⟨r.tag_ne_empty convention.tagColumn, fun hlemma ↦ ?_⟩
    cases hgiven : r.lemmaForm.filter (· ≠ unspecified) with
    | none =>
      rw [hgiven] at hlemma
      exact hlemma
    | some given =>
      rw [hgiven] at hlemma
      exact absurd hlemma (of_decide_eq_true (Option.filter_eq_some_iff.1 hgiven).2)

theorem Sentence.isComplete_of_toGraph {s : Sentence} {g : Graph Token} {records : List Record}
    (h : s.toGraph convention = .ok (g, records)) : ∀ t ∈ g.vertices, IsComplete t := by
  obtain ⟨ws, -, h⟩ := bind_eq_ok_iff.1 h
  obtain ⟨ts, hts, h⟩ := bind_eq_ok_iff.1 h
  obtain ⟨es, hes, rfl⟩ := bind_pure_eq_ok_iff.1 hts
  obtain ⟨rfl, -⟩ := Prod.mk.inj (Except.ok.inj h)
  intro t ht
  obtain ⟨⟨n, t⟩, hentry, rfl⟩ := List.mem_map.1 (mem_distinct.1 ht)
  obtain ⟨w, -, hw⟩ := exists_of_mem_mapM hes (InsertionMap.mem_of_mem_ofList hentry)
  obtain ⟨u, hu, heq⟩ := bind_pure_eq_ok_iff.1 hw
  obtain ⟨-, rfl⟩ := Prod.mk.inj heq
  exact Row.isComplete_of_token hu

private theorem isComplete_of_mapM_toGraph {ss : List Sentence} {graphs : List (Graph Token)}
    (h : (ss.mapM fun s ↦ s.toGraph convention >>= fun x ↦ .ok x.1) = .ok graphs) :
    ∀ g ∈ graphs, ∀ t ∈ g.vertices, IsComplete t := by
  intro g hg
  obtain ⟨s, -, hs⟩ := exists_of_mem_mapM h hg
  obtain ⟨⟨g, records⟩, hgraph, heq⟩ := bind_eq_ok_iff.1 hs
  obtain rfl := Except.ok.inj heq
  exact Sentence.isComplete_of_toGraph hgraph

theorem isComplete_of_load {graphs : List (Graph Token)}
    (h : (load convention files name).result.1 = .ok graphs) :
    ∀ g ∈ graphs, ∀ t ∈ g.vertices, IsComplete t := by
  cases hfile : files name with
  | error fault => exact absurd h (load_ne_ok hfile graphs)
  | ok text =>
    obtain ⟨ss, -, hgraphs⟩ := bind_eq_ok_iff.1 ((load_eq_ok_iff hfile).1 h)
    exact isComplete_of_mapM_toGraph hgraphs

end Conllu

namespace Document

variable {d : Document} {spans : List Span} {files : Files} {name : String}

theorem load_graph_of_isSpecified (hdivided : d.WellDivided) (hspans : d.sentences? = some spans)
    (hplain : ∀ w ∈ d.words, w.IsPlain)
    (hsize : d.words.length < 10 ^ Text.maxNumeralDigits)
    (hfile : files name = .ok (renderGraphs .standard (spans.map d.graph)))
    (hspecified : ∀ s ∈ spans, ∀ x ∈ d.wordsIn s, x.2.IsSpecified) :
    (load .standard files name).result.1 = .ok (spans.map d.graph) := by
  have hclean : ∀ g ∈ spans.map d.graph, IsCleanGraph g := by
    intro g hg
    obtain ⟨s, hs, rfl⟩ := List.mem_map.1 hg
    obtain ⟨hstop, hlength⟩ := hdivided.nonempty hspans s hs
    exact isCleanGraph_graph hplain (hspecified s hs) hstop hlength
  have hsizes : ∀ g ∈ spans.map d.graph, g.vertices.length < 10 ^ Text.maxNumeralDigits := by
    intro g hg
    obtain ⟨s, hs, rfl⟩ := List.mem_map.1 hg
    refine Nat.lt_of_le_of_lt ?_ hsize
    have hpositions := congrArg List.length (map_fst_wordsIn (d := d) (s := s))
    rw [List.length_map, List.length_range'] at hpositions
    rw [vertices_graph, List.length_map, hpositions]
    omega
  have hreread : (spans.map d.graph).map Sentence.rereadOf = spans.map d.graph := by
    rw [List.map_map]
    refine List.map_congr_left fun s hs ↦ rereadOf_graph ?_
    exact hclean _ (List.mem_map_of_mem hs)
  have hread : (readFile .standard files name).Yields (.ok (spans.map d.graph)) := by
    rw [readFile, hfile]
    have hkey : IsFeaturePart Convention.standard.chunkKey := by decide
    have hyields := yields_readGraphs_renderGraphs hclean hkey hsizes
    rw [hreread] at hyields
    exact hyields.mapFault LoadFault.invalid
  exact (yields_load hread).result_fst

/-- Graphs that are loaded are those of specified words, whatever file they are loaded from. -/
theorem isSpecified_of_load (hplain : ∀ w ∈ d.words, w.IsPlain)
    (hload : (load .standard files name).result.1 = .ok (spans.map d.graph)) :
    ∀ s ∈ spans, ∀ x ∈ d.wordsIn s, x.2.IsSpecified := by
  intro s hs x hx
  have hvertex : d.token s x.1 x.2 ∈ (d.graph s).vertices :=
    mem_vertices_graph.2 ⟨x.1, x.2, hx, rfl⟩
  obtain ⟨htag, hlower⟩ :=
    isComplete_of_load hload _ (List.mem_map_of_mem hs) _ hvertex
  have hword := hplain x.2 (List.mem_of_getElem? (mem_wordsIn.1 hx).1)
  refine ⟨htag, fun hlemma ↦ hword.form_ne (hlower ?_)⟩
  rw [lemmaForm_token]
  exact hlemma

/-- **Parsed documents are exported and loaded again.** The file to which the graphs of the
sentences of plain words are written gives the same graphs exactly if all words are specified. -/
theorem load_renderGraphs_graph_iff (hdivided : d.WellDivided)
    (hspans : d.sentences? = some spans) (hplain : ∀ w ∈ d.words, w.IsPlain)
    (hsize : d.words.length < 10 ^ Text.maxNumeralDigits)
    (hfile : files name = .ok (renderGraphs .standard (spans.map d.graph))) :
    (load .standard files name).result.1 = .ok (spans.map d.graph) ↔
      ∀ s ∈ spans, ∀ x ∈ d.wordsIn s, x.2.IsSpecified :=
  ⟨isSpecified_of_load hplain, load_graph_of_isSpecified hdivided hspans hplain hsize hfile⟩

/-- Two sentences: `He sleeps`, and `It rains` with one tag and one lemma missing and with a word
that depends on the first sentence. -/
def plainDocument : Document where
  words := [⟨"He", "PRP", "PRON", "he", 1, "nsubj"⟩, ⟨"sleeps", "VBZ", "VERB", "sleep", 1, "ROOT"⟩,
    ⟨"It", "", "PRON", "", 3, "nsubj"⟩, ⟨"rains", "VBZ", "VERB", "rain", 1, "conj"⟩]
  chunking := .found [⟨0, 1⟩, ⟨2, 3⟩]
  division := some [⟨0, 2⟩, ⟨2, 4⟩]

/-- A file with the graphs of its sentences. -/
def plainFiles : Files := fun _ ↦
  .ok (renderGraphs .standard ([⟨0, 2⟩, ⟨2, 4⟩].map plainDocument.graph))

theorem load_renderGraphs_graph_iff_plain :
    (plainDocument.WellDivided ∧ plainDocument.sentences? = some [⟨0, 2⟩, ⟨2, 4⟩] ∧
      (∀ w ∈ plainDocument.words, w.IsPlain) ∧
      plainDocument.words.length < 10 ^ Text.maxNumeralDigits ∧
      ∀ s ∈ [⟨0, 2⟩, ⟨2, 4⟩], ∀ x ∈ plainDocument.wordsIn s, x.2.IsSpecified) ∧
    (load .standard plainFiles "out.conllu").result.1 =
      .ok ([⟨0, 2⟩, ⟨2, 4⟩].map plainDocument.graph) := by
  have hdivided : plainDocument.WellDivided := by decide
  have hplain : ∀ w ∈ plainDocument.words, w.IsPlain := by decide +kernel
  have hsize : plainDocument.words.length < 10 ^ Text.maxNumeralDigits := by decide +kernel
  have hspecified : ∀ s ∈ [⟨0, 2⟩, ⟨2, 4⟩], ∀ x ∈ plainDocument.wordsIn s, x.2.IsSpecified := by
    decide +kernel
  have hfile : plainFiles "out.conllu" =
      .ok (renderGraphs .standard ([⟨0, 2⟩, ⟨2, 4⟩].map plainDocument.graph)) := rfl
  exact ⟨⟨hdivided, rfl, hplain, hsize, hspecified⟩,
    (load_renderGraphs_graph_iff hdivided rfl hplain hsize hfile).2 hspecified⟩

/-- A sentence with a line break between its two other words. -/
def brokenDocument : Document where
  words := [⟨"Hello", "UH", "INTJ", "hello", 0, "ROOT"⟩, ⟨"\n", "_SP", "SPACE", "\n", 0, "dep"⟩,
    ⟨"world", "NN", "NOUN", "world", 0, "npadvmod"⟩]
  chunking := .found []
  division := none

def brokenText : String :=
  "# text = Hello \n world\n1\tHello\thello\tUH\t_\t_\t0\troot\t_\t_\n" ++
    "2\t\n\t\n\t_SP\t_\t_\t1\tdep\t_\t_\n3\tworld\tworld\tNN\t_\t_\t1\tnpadvmod\t_\t_\n\n"

private theorem renderGraphs_brokenDocument :
    renderGraphs .standard [brokenDocument.graph ⟨0, 3⟩] = brokenText := by
  have horder : Sentence.inOrder (brokenDocument.graph ⟨0, 3⟩) =
      (brokenDocument.graph ⟨0, 3⟩).vertices :=
    List.mergeSort_of_pairwise (by decide +kernel)
  rw [renderGraphs, List.map_singleton, Sentence.ofGraph, horder]
  decide +kernel

/-- The line break tears its row apart, and the file cannot be loaded. -/
theorem load_brokenDocument :
    brokenDocument.sentences? = some [⟨0, 3⟩] ∧
    (load .standard (fun _ ↦ .ok (renderGraphs .standard [brokenDocument.graph ⟨0, 3⟩]))
        "out.conllu").result.1.map List.length = .error (.invalid .singleColumn) ∧
    (load .standard (fun _ ↦ .ok (renderGraphs .standard [brokenDocument.graph ⟨0, 3⟩]))
        "out.conllu").result.1 ≠ .ok [brokenDocument.graph ⟨0, 3⟩] := by
  have hlength : (load .standard (fun _ ↦ .ok brokenText)
      "out.conllu").result.1.map List.length = .error (.invalid .singleColumn) := by
    decide +kernel
  rw [renderGraphs_brokenDocument]
  refine ⟨by decide +kernel, hlength, fun hload ↦ ?_⟩
  rw [hload] at hlength
  exact nomatch hlength

end Document

end Motif
