import Motif.Proofs.Conllu.RoundTrip
import Motif.Proofs.Conllu.WordGraph
import Motif.Proofs.Overwriting

/-!
# The numbers of a written sentence

Any graph of tokens is written as a sentence, whatever the positions of its tokens are: they may be
out of order, far apart, negative or repeated. The words are sorted (`InSentenceOrder`) and counted
from one, so the numbers in a sentence are not the positions in the graph, and every head has to be
renumbered together with its dependent.

A row has room for one head. A pass over the edges enters the head of each destination in a table
and overwrites what an earlier edge has entered there, so of several edges into a word the last one
is written (`get?_headTable`). Where no word has two edges into it nothing is overwritten, and the
rows with a head are the edges of the graph.
-/

namespace Motif.Conllu

/-! ## What a well-numbered sentence is -/

/-- The words of a graph as a sentence has them: sorted by position, and in the order of the graph
where several stand at one position. -/
structure InSentenceOrder (g : Graph Token) (words : List Token) : Prop where
  /-- The words are the vertices. -/
  perm : words.Perm g.vertices
  /-- They are sorted. -/
  sorted : words.Pairwise fun t u ↦ t.position ≤ u.position
  /-- Sorting is stable. -/
  stable : ∀ i : Int, words.filter (fun t ↦ t.position = i) =
    g.vertices.filter fun t ↦ t.position = i

/-- A row has the texts of a word. The column that is not in use says that it is unspecified, and
the chunk is left out if there is none. -/
structure Row.HasTexts (convention : Convention) (t : Token) (r : Row) : Prop where
  form : r.form = some t.form
  lemmaForm : r.lemmaForm = some t.lemmaForm
  tag : r.tagIn convention.tagColumn = some t.tag
  otherTag : r.tagIn convention.tagColumn.other = some unspecified
  chunk : r.misc.entries =
    if t.chunk = outsideChunk then [] else [(convention.chunkKey, some t.chunk)]

/-- The table of heads that a pass over the edges fills: the head of each word that an edge leads
to, by its number in an order, and the relation to it. -/
def headTable (order : List Token) (edges : List (Edge Token)) :
    InsertionMap Token (Nat × String) :=
  .ofList (edges.map fun e ↦ (e.dest, Sentence.numberIn order e.source, e.label))

/-- A row has the head of a word, by the number that the head has among the words. -/
structure Row.HasHead (g : Graph Token) (words : List Token) (t : Token) (r : Row) : Prop where
  /-- The head is zero exactly if no edge leads to the word. -/
  zero_iff : r.head = some 0 ↔ ∀ e ∈ g.edges, e.dest ≠ t
  /-- Such a word is a root. -/
  root : (∀ e ∈ g.edges, e.dest ≠ t) → r.relation = some "root"
  /-- Otherwise the last edge into the word counts: its source is the head. -/
  governed : (∃ e ∈ g.edges, e.dest = t) → ∃ e, LastWith (fun f ↦ f.dest = t) g.edges e ∧
    r.relation = some e.label ∧
      ∃ i : Nat, words[i]? = some e.source ∧ r.head = some ((i + 1 : Nat) : Int)
  /-- This is what the table of heads has for the word. -/
  tabulated : ∃ n label, ((headTable words g.edges).get? t).getD (0, "root") = (n, label) ∧
    r.head = some (n : Int) ∧ r.relation = some label

/-- A row says that there is an edge between two words, which it gives by their numbers. -/
def Row.Denotes (words : List Token) (r : Row) (e : Edge Token) : Prop :=
  ∃ i j : Nat, words[i]? = some e.source ∧ words[j]? = some e.dest ∧
    r.head = some ((i + 1 : Nat) : Int) ∧ r.id = some (.word (j + 1)) ∧ r.relation = some e.label

/-- A sentence has the given words of a graph, counted from one. -/
structure Sentence.WellNumbered (convention : Convention) (g : Graph Token) (words : List Token)
    (s : Sentence) : Prop where
  /-- The words are in order. -/
  ordered : InSentenceOrder g words
  /-- There are as many rows as vertices. -/
  length_rows : s.rows.length = g.vertices.length
  /-- The rows are those of the words, numbered from one. -/
  row : ∀ i t, words[i]? = some t → ∃ r : Row, s.rows[i]? = some r ∧ r.id = some (.word (i + 1)) ∧
    r.HasTexts convention t ∧ r.HasHead g words t
  /-- If no word has two edges into it, the rows with a head are the edges, one row for each. -/
  edges : (∀ e ∈ g.edges, ∀ f ∈ g.edges, e.dest = f.dest → e = f) →
    ∃ es, List.Perm es g.edges ∧
      List.Forall₂ (Row.Denotes words) (s.rows.filter fun r ↦ r.head ≠ some 0) es

namespace Sentence

variable {convention : Convention} {g : Graph Token} {t : Token} {e : Edge Token}

/-! ## Sorting -/

theorem perm_inOrder (g : Graph Token) : (inOrder g).Perm g.vertices := List.mergeSort_perm _ _

theorem nodup_inOrder (g : Graph Token) : (inOrder g).Nodup :=
  (perm_inOrder g).nodup_iff.2 g.vertices_nodup

private theorem le_trans_position (t u v : Token) (htu : decide (t.position ≤ u.position) = true)
    (huv : decide (u.position ≤ v.position) = true) :
    decide (t.position ≤ v.position) = true :=
  decide_eq_true (Int.le_trans (of_decide_eq_true htu) (of_decide_eq_true huv))

private theorem le_total_position (t u : Token) :
    (decide (t.position ≤ u.position) || decide (u.position ≤ t.position)) = true := by
  rw [Bool.or_eq_true, decide_eq_true_iff, decide_eq_true_iff]
  exact Int.le_total _ _

theorem inSentenceOrder_inOrder (g : Graph Token) : InSentenceOrder g (inOrder g) where
  perm := perm_inOrder g
  sorted := (List.pairwise_mergeSort le_trans_position le_total_position g.vertices).imp
    of_decide_eq_true
  stable i := by
    -- The vertices at one position are sorted as they are, so sorting leaves them in their order.
    have hlevel : (g.vertices.filter fun t ↦ t.position = i).Pairwise
        fun t u ↦ decide (t.position ≤ u.position) = true := by
      refine List.Pairwise.imp_of_mem (R := fun _ _ ↦ True) ?_ (List.pairwise_of_forall ?_)
      · intro t u ht hu _
        have hti := of_decide_eq_true (List.mem_filter.1 ht).2
        have hui := of_decide_eq_true (List.mem_filter.1 hu).2
        exact decide_eq_true (by omega)
      · exact fun _ _ ↦ trivial
    have hsublist := (List.sublist_mergeSort le_trans_position le_total_position hlevel
      List.filter_sublist).filter fun t ↦ t.position = i
    rw [List.filter_filter] at hsublist
    simp only [Bool.and_self] at hsublist
    have hlength := ((perm_inOrder g).filter fun t ↦ t.position = i).length_eq
    exact (hsublist.eq_of_length hlength.symm).symm

/-! ## The last edge into a word -/

private theorem governing?_eq_some_iff_lastWith :
    governing? g t = some e ↔ LastWith (fun f ↦ f.dest = t) g.edges e := lastWith_iff_find?.symm

theorem governing?_eq_none_iff : governing? g t = none ↔ ∀ e ∈ g.edges, e.dest ≠ t := by
  rw [governing?, List.find?_eq_none]
  simp

theorem get?_headTable (order : List Token) (g : Graph Token) (t : Token) :
    (headTable order g.edges).get? t =
      (governing? g t).map fun e ↦ (numberIn order e.source, e.label) :=
  InsertionMap.get?_ofList_map Edge.dest (fun e ↦ (numberIn order e.source, e.label)) g.edges t

/-! ## Rows -/

theorem getElem?_numberIn {order : List Token} (ht : t ∈ order) :
    order[order.idxOf t]? = some t := by
  rw [List.getElem?_eq_getElem (List.idxOf_lt_length_of_mem ht), List.getElem_idxOf]

private theorem numberIn_of_getElem? {order : List Token} (horder : order.Nodup) {i : Nat}
    (ht : order[i]? = some t) : numberIn order t = i + 1 := by
  obtain ⟨hi, rfl⟩ := List.getElem?_eq_some_iff.1 ht
  rw [numberIn, horder.idxOf_getElem]

private theorem hasTexts_rowOf (convention : Convention) (g : Graph Token) (order : List Token)
    (t : Token) : (rowOf convention g order t).HasTexts convention t where
  form := rfl
  lemmaForm := rfl
  tag := by
    obtain ⟨_ | _, key⟩ := convention <;> rfl
  otherTag := by
    obtain ⟨_ | _, key⟩ := convention <;> rfl
  chunk := by
    rw [rowOf]
    dsimp only
    split <;> rfl

theorem head_rowOf_of_none (convention : Convention) (order : List Token)
    (h : governing? g t = none) :
    (rowOf convention g order t).head = some 0 ∧
      (rowOf convention g order t).relation = some "root" := by
  simp [rowOf, h]

theorem head_rowOf_of_some (convention : Convention) (order : List Token)
    (h : governing? g t = some e) :
    (rowOf convention g order t).head = some (numberIn order e.source : Int) ∧
      (rowOf convention g order t).relation = some e.label := by
  simp [rowOf, h]

theorem hasHead_rowOf (convention : Convention) (g : Graph Token) (t : Token) :
    (rowOf convention g (inOrder g) t).HasHead g (inOrder g) t := by
  cases hgoverning : governing? g t with
  | none =>
    obtain ⟨hhead, hrelation⟩ := head_rowOf_of_none convention (inOrder g) hgoverning
    have hfree := governing?_eq_none_iff.1 hgoverning
    refine ⟨iff_of_true hhead hfree, fun _ ↦ hrelation, ?_, 0, "root", ?_, hhead, hrelation⟩
    · rintro ⟨e, he, hdest⟩
      exact absurd hdest (hfree e he)
    · rw [get?_headTable, hgoverning]
      rfl
  | some e =>
    obtain ⟨hhead, hrelation⟩ := head_rowOf_of_some convention (inOrder g) hgoverning
    obtain ⟨he, hdest⟩ := mem_edges_of_governing? hgoverning
    have hnot : ¬ ∀ f ∈ g.edges, f.dest ≠ t := fun h ↦ h e he hdest
    have hsource : e.source ∈ inOrder g := (perm_inOrder g).mem_iff.2 (g.ends_mem e he).1
    refine ⟨iff_of_false ?_ hnot, fun h ↦ absurd h hnot, fun _ ↦ ?_, _, e.label, ?_, hhead,
      hrelation⟩
    · rw [hhead]
      intro hzero
      have := Option.some_inj.1 hzero
      rw [numberIn] at this
      omega
    · exact ⟨e, governing?_eq_some_iff_lastWith.1 hgoverning, hrelation, _,
        getElem?_numberIn hsource, hhead⟩
    · rw [get?_headTable, hgoverning]
      rfl

/-! ## Edges -/

/-- The edges that are written, in the order of the words. -/
def writtenEdges (g : Graph Token) : List (Edge Token) := (inOrder g).filterMap (governing? g)

/-- If no word has two edges into it, all edges are written, each of them once. -/
theorem perm_writtenEdges (h : ∀ e ∈ g.edges, ∀ f ∈ g.edges, e.dest = f.dest → e = f) :
    (writtenEdges g).Perm g.edges := by
  have hnodup : (writtenEdges g).Nodup := by
    refine List.Nodup.filterMap ?_ (nodup_inOrder g)
    intro t u e ht hu
    exact (mem_edges_of_governing? ht).2.symm.trans (mem_edges_of_governing? hu).2
  refine (List.perm_ext_iff_of_nodup hnodup g.edges_nodup).2 fun e ↦ ?_
  rw [writtenEdges, List.mem_filterMap]
  constructor
  · rintro ⟨t, -, ht⟩
    exact (mem_edges_of_governing? ht).1
  · intro he
    have hne : governing? g e.dest ≠ none := fun hnone ↦ governing?_eq_none_iff.1 hnone e he rfl
    obtain ⟨f, hf⟩ := Option.ne_none_iff_exists'.1 hne
    obtain ⟨hmem, hdest⟩ := mem_edges_of_governing? hf
    refine ⟨e.dest, (perm_inOrder g).mem_iff.2 (g.ends_mem e he).2, ?_⟩
    rw [hf, h f hmem e he hdest]

private theorem forall₂_denotes_writtenEdges (convention : Convention) (g : Graph Token) :
    List.Forall₂ (Row.Denotes (inOrder g))
      ((ofGraph convention g).rows.filter fun r ↦ r.head ≠ some 0) (writtenEdges g) := by
  rw [ofGraph, List.filter_map, List.forall₂_map_left_iff]
  refine forall₂_filter_filterMap fun t ht ↦ ?_
  rw [Function.comp_apply]
  cases hgoverning : governing? g t with
  | none =>
    have hhead := (head_rowOf_of_none convention (inOrder g) hgoverning).1
    exact .inl ⟨by simp [hhead], rfl⟩
  | some e =>
    obtain ⟨hhead, hrelation⟩ := head_rowOf_of_some convention (inOrder g) hgoverning
    obtain ⟨he, rfl⟩ := mem_edges_of_governing? hgoverning
    have hsource : e.source ∈ inOrder g := (perm_inOrder g).mem_iff.2 (g.ends_mem e he).1
    have hzero : (rowOf convention g (inOrder g) e.dest).head ≠ some 0 := by
      intro hzero
      exact (hasHead_rowOf convention g e.dest).zero_iff.1 hzero e he rfl
    exact .inr ⟨decide_eq_true hzero, e, rfl, _, _, getElem?_numberIn hsource,
      getElem?_numberIn ht, hhead, rfl, hrelation⟩

/-- **A written sentence is well numbered**, whatever the positions of the words and whatever the
edges are. -/
theorem exists_wellNumbered_ofGraph (convention : Convention) (g : Graph Token) :
    ∃ words, (ofGraph convention g).WellNumbered convention g words := by
  refine ⟨inOrder g, inSentenceOrder_inOrder g, ?_, fun i t ht ↦ ?_, fun h ↦ ?_⟩
  · rw [ofGraph, List.length_map, (perm_inOrder g).length_eq]
  · refine ⟨rowOf convention g (inOrder g) t, ?_, ?_, hasTexts_rowOf convention g _ t,
      hasHead_rowOf convention g t⟩
    · rw [ofGraph, List.getElem?_map, ht]
      rfl
    · rw [← numberIn_of_getElem? (nodup_inOrder g) ht]
      rfl
  · exact ⟨_, perm_writtenEdges h, forall₂_denotes_writtenEdges convention g⟩

/-- Three words of which two stand at one position, with a word that depends on itself and two
edges into another one. -/
def crowdedGraph : Graph Token :=
  let word (form : String) (position : Int) : Token := ⟨form, "X", "O", form, position⟩
  .within [word "c" 7, word "b" (-2), word "a" 7]
    [⟨word "c" 7, word "b" (-2), "x"⟩, ⟨word "a" 7, word "a" 7, "y"⟩,
      ⟨word "a" 7, word "b" (-2), "z"⟩]

example : (ofGraph .standard crowdedGraph).rows.map
    (fun r ↦ (r.form, r.id, r.head, r.relation)) =
      [(some "b", some (.word 1), some 3, some "z"),
        (some "c", some (.word 2), some 0, some "root"),
        (some "a", some (.word 3), some 3, some "y")] := by cbv

end Sentence

end Motif.Conllu
