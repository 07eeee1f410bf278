import Mathlib.Data.List.Nodup
import Motif.Document.Graph

/-!
# What the graph of a span holds

The words of a span stand at consecutive positions, so the position of a token tells which word it
is made of, and no two words make the same token. The vertices of the graph are therefore the tokens
of the words in order (`vertices_graph`), each at its position (`position_getElem_vertices`), and
every word has at most the one edge into it that comes from its own head (`edges_graph`).
-/

namespace Motif

theorem Span.covers_eq_true_iff {s : Span} {i : Nat} :
    s.covers i = true ↔ s.start ≤ i ∧ i < s.stop := by
  rw [covers, Bool.and_eq_true, decide_eq_true_iff, decide_eq_true_iff]

private theorem filter_covers_range (s : Span) (n : Nat) :
    (List.range n).filter s.covers = List.range' s.start (min s.stop n - s.start) := by
  induction n with
  | zero => simp
  | succ n ih =>
    rw [List.range_succ, List.filter_append, ih]
    cases hn : s.covers n with
    | true =>
      obtain ⟨hstart, hstop⟩ := Span.covers_eq_true_iff.1 hn
      have hlength : min s.stop (n + 1) - s.start = min s.stop n - s.start + 1 := by omega
      have hlast : s.start + (min s.stop n - s.start) = n := by omega
      rw [hlength, List.range'_1_concat, hlast]
      simp [hn]
    | false =>
      have houtside : s.start ≤ n → s.stop ≤ n := by simpa [Span.covers] using hn
      have hlength : min s.stop (n + 1) - s.start = min s.stop n - s.start := by omega
      rw [hlength]
      simp [hn]

namespace Document

variable {d : Document} {s : Span} {i j : Nat} {w v : Word} {e : Edge Token}

/-! ## Words -/

@[simp] theorem mem_wordsIn : (i, w) ∈ d.wordsIn s ↔ d.words[i]? = some w ∧ s.covers i = true := by
  have hmem : (i, w) ∈ d.words.zipIdx.map (fun x ↦ (x.2, x.1)) ↔ d.words[i]? = some w := by
    rw [← List.mem_zipIdx_iff_getElem? (x := (w, i))]
    constructor
    · intro h
      obtain ⟨⟨v, j⟩, hv, heq⟩ := List.mem_map.1 h
      obtain ⟨rfl, rfl⟩ := Prod.mk.inj heq
      exact hv
    · exact fun h ↦ List.mem_map.2 ⟨(w, i), h, rfl⟩
  rw [wordsIn, List.mem_filter]
  exact and_congr_left fun _ ↦ hmem

@[simp] theorem map_fst_wordsIn :
    (d.wordsIn s).map Prod.fst = List.range' s.start (min s.stop d.words.length - s.start) := by
  have hpositions : (d.words.zipIdx.map fun x ↦ (x.2, x.1)).map Prod.fst =
      List.range d.words.length := by
    rw [List.map_map, List.range_eq_range']
    exact List.zipIdx_map_snd 0 d.words
  rw [← filter_covers_range, ← hpositions, List.filter_map]
  rfl

theorem nodup_map_fst_wordsIn (d : Document) (s : Span) : ((d.wordsIn s).map Prod.fst).Nodup := by
  rw [map_fst_wordsIn]
  exact List.nodup_range'

theorem fst_getElem_wordsIn {k : Nat} (hk : k < (d.wordsIn s).length) :
    (d.wordsIn s)[k].1 = s.start + k := by
  have hget : ((d.wordsIn s).map Prod.fst)[k]? = some (d.wordsIn s)[k].1 := by
    rw [List.getElem?_map, List.getElem?_eq_getElem hk]
    rfl
  rw [map_fst_wordsIn] at hget
  obtain ⟨hlt, hvalue⟩ := List.getElem?_eq_some_iff.1 hget
  rw [← hvalue, List.getElem_range', Nat.one_mul]

/-! ## Tokens -/

theorem eq_of_token_eq (h : d.token s i w = d.token s j v) : i = j := by
  have hposition : (i : Int) - s.start = (j : Int) - s.start := congrArg Token.position h
  omega

theorem token_inj (hi : (i, w) ∈ d.wordsIn s) (hj : (j, v) ∈ d.wordsIn s)
    (h : d.token s i w = d.token s j v) : i = j ∧ w = v := by
  obtain rfl := eq_of_token_eq h
  have hword := (mem_wordsIn.1 hi).1
  rw [(mem_wordsIn.1 hj).1] at hword
  exact ⟨rfl, (Option.some_inj.1 hword).symm⟩

@[simp] theorem vertices_graph :
    (d.graph s).vertices = (d.wordsIn s).map fun x ↦ d.token s x.1 x.2 := by
  refine distinctBy_eq_self id ?_
  rw [List.map_id]
  exact (nodup_map_fst_wordsIn d s).of_map _ |>.map_on fun x hx y hy heq ↦
    Prod.ext (token_inj hx hy heq).1 (token_inj hx hy heq).2

theorem mem_vertices_graph {t : Token} :
    t ∈ (d.graph s).vertices ↔ ∃ i w, (i, w) ∈ d.wordsIn s ∧ d.token s i w = t := by
  rw [vertices_graph, List.mem_map]
  exact Prod.exists

theorem getElem?_vertices_graph_iff {k : Nat} {t : Token} :
    (d.graph s).vertices[k]? = some t ↔
      ∃ w, (s.start + k, w) ∈ d.wordsIn s ∧ d.token s (s.start + k) w = t := by
  rw [vertices_graph, List.getElem?_map, Option.map_eq_some_iff]
  constructor
  · rintro ⟨x, hx, rfl⟩
    obtain ⟨hk, rfl⟩ := List.getElem?_eq_some_iff.1 hx
    rw [← fst_getElem_wordsIn hk]
    exact ⟨_, List.getElem_mem hk, rfl⟩
  · rintro ⟨w, hw, rfl⟩
    obtain ⟨j, hj, hget⟩ := List.mem_iff_getElem.1 hw
    have hfirst := fst_getElem_wordsIn hj
    rw [hget] at hfirst
    obtain rfl : k = j := Nat.add_left_cancel hfirst
    exact ⟨_, List.getElem?_eq_some_iff.2 ⟨hj, hget⟩, rfl⟩

theorem position_getElem_vertices {k : Nat} (hk : k < (d.graph s).vertices.length) :
    (d.graph s).vertices[k].position = k := by
  have hlt : k < (d.wordsIn s).length := by
    rw [vertices_graph, List.length_map] at hk
    exact hk
  have hposition : ((d.wordsIn s)[k].1 : Int) - s.start = k := by
    rw [fst_getElem_wordsIn hlt]
    omega
  simp only [vertices_graph, List.getElem_map]
  exact hposition

/-! ## Edges -/

theorem edgeTo?_eq_some_iff : d.edgeTo? s i w = some e ↔ d.headOf i ≠ i ∧
    ∃ v, (d.headOf i, v) ∈ d.wordsIn s ∧
      ⟨d.token s (d.headOf i) v, d.token s i w, w.relation⟩ = e := by
  rw [edgeTo?]
  unfold guard
  by_cases hne : d.headOf i = i
  · simp [hne]
  · by_cases hcovers : s.covers (d.headOf i) = true
    · cases hhead : d.words[d.headOf i]? <;> simp [hne, hcovers, hhead, mem_wordsIn]
    · simp [hne, hcovers, mem_wordsIn]

theorem ends_mem_of_edgeTo? : ∀ e ∈ (d.wordsIn s).filterMap fun x ↦ d.edgeTo? s x.1 x.2,
    e.source ∈ (d.wordsIn s).map (fun x ↦ d.token s x.1 x.2) ∧
      e.dest ∈ (d.wordsIn s).map fun x ↦ d.token s x.1 x.2 := by
  intro e he
  obtain ⟨x, hx, hedge⟩ := List.mem_filterMap.1 he
  obtain ⟨-, v, hv, rfl⟩ := edgeTo?_eq_some_iff.1 hedge
  exact ⟨List.mem_map.2 ⟨_, hv, rfl⟩, List.mem_map.2 ⟨_, hx, rfl⟩⟩

theorem dest_of_edgeTo? (h : d.edgeTo? s i w = some e) : e.dest = d.token s i w := by
  obtain ⟨-, v, -, rfl⟩ := edgeTo?_eq_some_iff.1 h
  rfl

/-- The edges of the graph are those to its words, in the order of the words. Each leads to the
token of its own word, so none of them is lost among the others. -/
@[simp] theorem edges_graph :
    (d.graph s).edges = (d.wordsIn s).filterMap fun x ↦ d.edgeTo? s x.1 x.2 := by
  rw [graph, Graph.edges_within ends_mem_of_edgeTo?]
  apply distinctBy_eq_self id
  rw [List.map_id]
  apply (List.pairwise_map.1 (nodup_map_fst_wordsIn d s)).filterMap
  intro x y hne e he f hf heq
  apply hne
  apply eq_of_token_eq (d := d) (s := s) (w := x.2) (v := y.2)
  rw [← dest_of_edgeTo? he, ← dest_of_edgeTo? hf, heq]

theorem mem_edges_graph :
    e ∈ (d.graph s).edges ↔ ∃ i w, (i, w) ∈ d.wordsIn s ∧ d.edgeTo? s i w = some e := by
  rw [edges_graph, List.mem_filterMap]
  exact Prod.exists

theorem edgeTo?_of_mem_edges (h : (i, w) ∈ d.wordsIn s) (he : e ∈ (d.graph s).edges)
    (hdest : e.dest = d.token s i w) : d.edgeTo? s i w = some e := by
  obtain ⟨j, v, hv, hedge⟩ := mem_edges_graph.1 he
  rw [dest_of_edgeTo? hedge] at hdest
  obtain ⟨rfl, rfl⟩ := token_inj hv h hdest
  exact hedge

theorem eq_of_dest_eq (he : e ∈ (d.graph s).edges) {f : Edge Token} (hf : f ∈ (d.graph s).edges)
    (hdest : e.dest = f.dest) : e = f := by
  obtain ⟨i, w, hw, hedge⟩ := mem_edges_graph.1 he
  have hother := edgeTo?_of_mem_edges hw hf (hdest.symm.trans (dest_of_edgeTo? hedge))
  exact Option.some_inj.1 (hedge.symm.trans hother)

end Document

end Motif
