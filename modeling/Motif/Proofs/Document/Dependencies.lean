import Mathlib.Data.List.Perm.Subperm
import Motif.Proofs.Document.Graph
import Motif.Proofs.Graph.Construction
import Motif.Proofs.Outcome

/-!
# Words and their heads

In a parsed document every word has one head: another word, or itself if it is a root. The graph of
a span is exactly what is left of this inside the span (`Describes`). It has the words as vertices,
at positions that are counted from the beginning of the span, while heads are positions in the
document; and it has an edge for every word whose head is another word of the span.

Words, tags and relations repeat, but a token knows its position. So no two words are one vertex, no
two heads are one edge, and the edges can be counted: there is one for each word that is neither a
root nor attached to a word outside.
-/

namespace Motif

/-! ## Steps towards sources -/

private theorem Graph.length_up_le_one {V : Type} [DecidableEq V] {g : Graph V}
    (h : ∀ e ∈ g.edges, ∀ f ∈ g.edges, e.dest = f.dest → e = f) (v : V) :
    ((g.incident v).filter fun c ↦ c.direction = .up).length ≤ 1 := by
  have hup {c : Step V} (hc : c ∈ (g.incident v).filter fun c ↦ c.direction = .up) :
      c.edge ∈ g.edges ∧ c.edge.dest = v ∧ c = ⟨c.edge, .up⟩ := by
    obtain ⟨hmem, hdirection⟩ := List.mem_filter.1 hc
    obtain ⟨hedge, hstart⟩ := Graph.mem_incident.1 hmem
    obtain ⟨e, direction⟩ := c
    obtain rfl : direction = .up := of_decide_eq_true hdirection
    exact ⟨hedge, hstart, rfl⟩
  have hnodup := (g.nodup_incident v).filter fun c ↦ decide (c.direction = .up)
  cases hsteps : (g.incident v).filter fun c ↦ c.direction = .up with
  | nil => exact Nat.zero_le 1
  | cons c cs =>
    rw [hsteps] at hup hnodup
    obtain ⟨hc, hcdest, hceq⟩ := hup List.mem_cons_self
    have hsubset : c :: cs ⊆ [c] := by
      intro c' hc'
      obtain ⟨hedge, hdest, heq⟩ := hup hc'
      rw [List.mem_singleton, heq, hceq, h _ hedge _ hc (hdest.trans hcdest.symm)]
    exact (List.subperm_of_subset hnodup hsubset).length_le

/-! ## What a span describes -/

/-- The token has the texts of the word. -/
structure Word.IsTokenOf (w : Word) (t : Token) : Prop where
  form : t.form = w.form
  tag : t.tag = if w.tag = "" then w.category else w.tag
  lemmaForm : t.lemmaForm = if w.lemmaForm = "" then Text.lower w.form else w.lemmaForm

namespace Document

def positionsIn (d : Document) (s : Span) : List Nat :=
  List.range' s.start (min s.stop d.words.length - s.start)

/-- The head of the word at a position is another word of the span. -/
def dependsIn (d : Document) (s : Span) (i : Nat) : Bool :=
  d.headOf i ≠ i && d.headOf i ∈ d.positionsIn s

/-- The edge leads from the head of the word at a position to the word. -/
structure IsHeadEdge (d : Document) (s : Span) (ts : List Token) (i : Nat) (e : Edge Token) :
    Prop where
  source : ts[d.headOf i - s.start]? = some e.source
  dest : ts[i - s.start]? = some e.dest
  label : d.words[i]?.map Word.relation = some e.label

/-- The tokens are the words of a span in order, and the edges lead to those of them whose head is
another one, in order. -/
structure Describes (d : Document) (s : Span) (ts : List Token) (es : List (Edge Token)) :
    Prop where
  /-- There is a token for every word. -/
  tokens : List.Forall₂ (fun i t ↦ ∃ w, d.words[i]? = some w ∧ w.IsTokenOf t) (d.positionsIn s) ts
  /-- They stand at the positions from zero on. -/
  positions : ts.map Token.position = (List.range ts.length).map Int.ofNat
  /-- There is an edge for every word that depends on another one. -/
  edges : List.Forall₂ (d.IsHeadEdge s ts) ((d.positionsIn s).filter (d.dependsIn s)) es

variable {d : Document} {s : Span} {i j : Nat} {w : Word} {e : Edge Token}

private theorem mem_positionsIn : i ∈ d.positionsIn s ↔ ∃ w, (i, w) ∈ d.wordsIn s := by
  rw [positionsIn, ← map_fst_wordsIn, List.mem_map]
  exact ⟨fun ⟨x, hx, hi⟩ ↦ ⟨x.2, hi ▸ hx⟩, fun ⟨w, hw⟩ ↦ ⟨(i, w), hw, rfl⟩⟩

private theorem isTokenOf_token (d : Document) (s : Span) (i : Nat) (w : Word) :
    w.IsTokenOf (d.token s i w) where
  form := rfl
  tag := rfl
  lemmaForm := by
    rw [token, Token.ofForm]
    dsimp only
    split <;> rfl

private theorem getElem?_vertices_graph (h : (i, w) ∈ d.wordsIn s) :
    (d.graph s).vertices[i - s.start]? = some (d.token s i w) := by
  have hstart : s.start ≤ i := (Span.covers_eq_true_iff.1 (mem_wordsIn.1 h).2).1
  rw [getElem?_vertices_graph_iff, Nat.add_sub_cancel' hstart]
  exact ⟨w, h, rfl⟩

private theorem dependsIn_eq_true_iff :
    d.dependsIn s i = true ↔ d.headOf i ≠ i ∧ ∃ v, (d.headOf i, v) ∈ d.wordsIn s := by
  rw [dependsIn, Bool.and_eq_true, decide_eq_true_iff, decide_eq_true_iff, mem_positionsIn]

theorem isHeadEdge_of_mem_wordsIn (h : (i, w) ∈ d.wordsIn s) :
    (d.dependsIn s i = false ∧ d.edgeTo? s i w = none) ∨ (d.dependsIn s i = true ∧
      ∃ e, d.edgeTo? s i w = some e ∧ d.IsHeadEdge s (d.graph s).vertices i e) := by
  by_cases hdepends : d.dependsIn s i = true
  · obtain ⟨hne, v, hv⟩ := dependsIn_eq_true_iff.1 hdepends
    refine .inr ⟨hdepends, _, edgeTo?_eq_some_iff.2 ⟨hne, v, hv, rfl⟩, ?_, ?_, ?_⟩
    · exact getElem?_vertices_graph hv
    · exact getElem?_vertices_graph h
    · rw [(mem_wordsIn.1 h).1]
      rfl
  · refine .inl ⟨eq_false_of_ne_true hdepends, Option.eq_none_iff_forall_ne_some.2 ?_⟩
    intro e he
    obtain ⟨hne, v, hv, -⟩ := edgeTo?_eq_some_iff.1 he
    exact hdepends (dependsIn_eq_true_iff.2 ⟨hne, v, hv⟩)

theorem describes_graph (d : Document) (s : Span) :
    d.Describes s (d.graph s).vertices (d.graph s).edges where
  tokens := by
    rw [vertices_graph, positionsIn, ← map_fst_wordsIn, List.forall₂_map_left_iff,
      List.forall₂_map_right_iff, List.forall₂_same]
    intro x hx
    exact ⟨x.2, (mem_wordsIn.1 hx).1, isTokenOf_token d s x.1 x.2⟩
  positions := by
    apply List.ext_getElem
    · rw [List.length_map, List.length_map, List.length_range]
    · intro k hk _
      rw [List.length_map] at hk
      rw [List.getElem_map, List.getElem_map, List.getElem_range]
      exact position_getElem_vertices hk
  edges := by
    rw [edges_graph, positionsIn, ← map_fst_wordsIn, List.filter_map, List.forall₂_map_left_iff]
    exact forall₂_filter_filterMap fun x hx ↦ isHeadEdge_of_mem_wordsIn hx

/-- **Every word has at most one head.** The words and heads of a span make a graph without a fault
and without a loss: its vertices are the words and its edges are the heads. So at most one edge
leads to a word, and there are as many edges as words, less the roots and the words with a head
outside of the span. -/
theorem exists_describes_graph (d : Document) (s : Span) :
    ∃ ts es, d.Describes s ts es ∧ Graph.ofLists ts es = .ok (d.graph s) ∧
      (d.graph s).vertices = ts ∧ (d.graph s).edges = es ∧
      (∀ v ∈ ts, ∃ cs, (d.graph s).incident? v = .ok cs ∧
        (cs.filter fun c ↦ c.direction = .up).length ≤ 1) ∧
      es.length + ((d.positionsIn s).filter fun i ↦
        d.headOf i = i ∨ d.headOf i ∉ d.positionsIn s).length = ts.length := by
  have hdescribes := describes_graph d s
  refine ⟨_, _, hdescribes, ?_, rfl, rfl, fun v hv ↦ ?_, ?_⟩
  · rw [vertices_graph, edges_graph]
    exact Graph.ofLists_eq_within ends_mem_of_edgeTo?
  · refine ⟨(d.graph s).incident v, if_pos hv, ?_⟩
    exact Graph.length_up_le_one (fun e he f hf ↦ eq_of_dest_eq he hf) v
  · have hnot : (fun i ↦ decide (d.headOf i = i ∨ d.headOf i ∉ d.positionsIn s)) =
        fun i ↦ !d.dependsIn s i := by
      funext i
      rw [dependsIn, Bool.not_and, decide_not, Bool.not_not, ← decide_not, Bool.decide_or]
    rw [← hdescribes.tokens.length_eq, ← hdescribes.edges.length_eq, hnot]
    exact (List.length_eq_length_filter_add _).symm

end Document

end Motif
