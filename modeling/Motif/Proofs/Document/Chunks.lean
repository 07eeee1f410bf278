import Mathlib.Data.List.Induction
import Motif.Proofs.Document.Graph
import Motif.Proofs.Overwriting

/-!
# Chunk tags

Noun chunks are found in any order. They can overlap, contain each other and repeat, and each
overwrites the tags that earlier ones have left on its words. `TaggedBy` says what is left when some
chunks have been gone through: the last chunk that covers a position decides its tag. One more chunk
keeps this so (`TaggedBy.concat`), and hence it holds of every list of chunks.

A chunk can therefore lose its beginning to a later one, but a word inside never comes without a
tagged word before it: the chunk that decides the tag of a word covers the words between its own
beginning and that word as well, so that each of them has a tag, whichever chunk decides it
(`TaggedBy.exists_before_further`).
-/

namespace Motif

/-- The tag that a chunk gives to a word that it covers. -/
def Span.tagAt (c : Span) (i : Nat) : ChunkTag := if i = c.start then .first else .further

/-- The tags of positions are those that a list of chunks gives them. -/
structure TaggedBy (chunks : List Span) (tag? : Nat → Option ChunkTag) : Prop where
  /-- The last chunk that covers a position decides. -/
  some_iff : ∀ i tag, tag? i = some tag ↔
    ∃ c, LastWith (fun c ↦ c.covers i) chunks c ∧ c.tagAt i = tag
  /-- A position that no chunk covers has no tag. -/
  none_iff : ∀ i, tag? i = none ↔ ∀ c ∈ chunks, c.covers i = false

/-- The chunk tags of the words from a position on are those that a list of chunks gives them. -/
structure HasChunkTags (chunks : List Span) (start : Nat) (ts : List Token) : Prop where
  /-- The first word of a chunk begins it. -/
  first_iff : ∀ k t, ts[k]? = some t → (t.chunk = "B-NP" ↔
    ∃ c, LastWith (fun c ↦ c.covers (start + k)) chunks c ∧ start + k = c.start)
  /-- The other words of a chunk continue it. -/
  further_iff : ∀ k t, ts[k]? = some t → (t.chunk = "I-NP" ↔
    ∃ c, LastWith (fun c ↦ c.covers (start + k)) chunks c ∧ start + k ≠ c.start)
  /-- Words that no chunk covers are outside. -/
  outside_iff : ∀ k t, ts[k]? = some t →
    (t.chunk = outsideChunk ↔ ∀ c ∈ chunks, c.covers (start + k) = false)
  /-- Before a word that continues a chunk there is a word that begins or continues one. -/
  preceded : ∀ k t, ts[k]? = some t → t.chunk = "I-NP" →
    ∃ j u, k = j + 1 ∧ ts[j]? = some u ∧ (u.chunk = "B-NP" ∨ u.chunk = "I-NP")

/-! ## The tags of one chunk -/

section Chunk

variable {c : Span} {i : Nat} {chunks : List Span} {tag? : Nat → Option ChunkTag}
  {tags : InsertionMap Nat ChunkTag}

@[simp] private theorem Span.mem_positions_iff : i ∈ c.positions ↔ c.covers i = true := by
  rw [positions, List.mem_range'_1, covers_eq_true_iff]
  omega

private theorem Span.tagAt_eq_first_iff : c.tagAt i = .first ↔ i = c.start := by
  by_cases h : i = c.start <;> simp [tagAt, h]

theorem Span.tagAt_eq_further_iff : c.tagAt i = .further ↔ i ≠ c.start := by
  by_cases h : i = c.start <;> simp [tagAt, h]

theorem Span.lastOf_chunkTags (c : Span) (i : Nat) :
    InsertionMap.lastOf i c.chunkTags = if c.covers i = true then some (c.tagAt i) else none := by
  have htags : c.chunkTags = (c.positions.map fun i ↦ (i, ())).map
      fun x ↦ (x.1, c.tagAt x.1) := by
    rw [List.map_map]
    rfl
  rw [htags, InsertionMap.lastOf_mapValues fun i _ ↦ c.tagAt i]
  by_cases h : c.covers i = true
  · have hkeys : i ∈ (c.positions.map fun i ↦ (i, ())).map Prod.fst := by
      rw [List.map_map]
      exact List.mem_map.2 ⟨i, mem_positions_iff.2 h, rfl⟩
    obtain ⟨_, ha⟩ := InsertionMap.exists_lastOf hkeys
    rw [ha, if_pos h]
    rfl
  · have hkeys : i ∉ (c.positions.map fun i ↦ (i, ())).map Prod.fst := by
      intro hmem
      rw [List.map_map, List.mem_map] at hmem
      obtain ⟨j, hj, rfl⟩ := hmem
      exact h (mem_positions_iff.1 hj)
    rw [InsertionMap.lastOf_eq_none hkeys, if_neg h]
    rfl

theorem get?_insertAll_chunkTags (tags : InsertionMap Nat ChunkTag) (c : Span) (i : Nat) :
    (tags.insertAll c.chunkTags).get? i =
      if c.covers i = true then some (c.tagAt i) else tags.get? i := by
  rw [InsertionMap.get?_insertAll, Span.lastOf_chunkTags]
  by_cases h : c.covers i = true
  · rw [if_pos h, if_pos h, Option.some_or]
  · rw [if_neg h, if_neg h, Option.none_or]

/-! ## The tags of some chunks -/

private theorem taggedBy_nil :
    TaggedBy [] (InsertionMap.empty : InsertionMap Nat ChunkTag).get? where
  some_iff i tag := by
    refine iff_of_false (fun h ↦ nomatch h) ?_
    rintro ⟨c, hc, -⟩
    exact List.not_mem_nil hc.mem
  none_iff i := iff_of_true rfl fun c hc ↦ absurd hc List.not_mem_nil

/-- **One more chunk.** The tags are those of the chunks so far and of one more after its words have
been tagged. -/
theorem TaggedBy.concat (h : TaggedBy chunks tags.get?) (c : Span) :
    TaggedBy (chunks ++ [c]) (tags.insertAll c.chunkTags).get? where
  some_iff i tag := by
    rw [get?_insertAll_chunkTags]
    by_cases hc : c.covers i = true
    · have hlast (x : Span) : LastWith (fun c ↦ c.covers i) (chunks ++ [c]) x ↔ x = c :=
        lastWith_concat_of_pos hc
      simp only [if_pos hc, hlast, exists_eq_left, Option.some_inj]
    · have hlast (x : Span) : LastWith (fun c ↦ c.covers i) (chunks ++ [c]) x ↔
          LastWith (fun c ↦ c.covers i) chunks x :=
        lastWith_concat_of_neg (eq_false_of_ne_true hc)
      simp only [if_neg hc, h.some_iff, hlast]
  none_iff i := by
    rw [get?_insertAll_chunkTags, List.forall_mem_append, List.forall_mem_singleton]
    by_cases hc : c.covers i = true
    · rw [if_pos hc]
      exact iff_of_false (fun hnone ↦ nomatch hnone) fun hnot ↦ absurd hc (by simp [hnot.2])
    · rw [if_neg hc, h.none_iff, and_iff_left (eq_false_of_ne_true hc)]

theorem taggedBy_ofList (chunks : List Span) :
    TaggedBy chunks (InsertionMap.ofList (chunks.flatMap Span.chunkTags)).get? := by
  induction chunks using List.reverseRecOn with
  | nil => exact taggedBy_nil
  | append_singleton chunks c ih =>
    rw [List.flatMap_append, List.flatMap_singleton, ← InsertionMap.empty_insertAll,
      InsertionMap.insertAll_append, InsertionMap.empty_insertAll]
    exact ih.concat c

/-- **No word inside without one before it.** A position whose tag says that it is not the first of
its chunk comes after a position of the same chunk, and that one has a tag. -/
theorem TaggedBy.exists_before_further (h : TaggedBy chunks tag?) (hi : tag? i = some .further) :
    ∃ c ∈ chunks, ∃ j, i = j + 1 ∧ c.start ≤ j ∧ tag? j ≠ none := by
  obtain ⟨c, hc, htag⟩ := (h.some_iff i .further).1 hi
  have hne := Span.tagAt_eq_further_iff.1 htag
  obtain ⟨hstart, hstop⟩ := Span.covers_eq_true_iff.1 hc.1
  refine ⟨c, hc.mem, i - 1, by omega, by omega, ?_⟩
  intro hnone
  have hcovers : c.covers (i - 1) = true := Span.covers_eq_true_iff.2 ⟨by omega, by omega⟩
  rw [(h.none_iff (i - 1)).1 hnone c hc.mem] at hcovers
  exact nomatch hcovers

end Chunk

/-! ## The tags of a graph -/

namespace Document

variable {d : Document} {s : Span} {i k : Nat} {w : Word} {t : Token}

theorem chunk_token (d : Document) (s : Span) (i : Nat) (w : Word) : (d.token s i w).chunk =
    (((d.chunkTags s).get? i).map ChunkTag.text).getD outsideChunk := rfl

theorem taggedBy_chunkTags (d : Document) (s : Span) :
    TaggedBy (d.chunksIn s) (d.chunkTags s).get? := taggedBy_ofList _

@[simp] private theorem chunk_token_eq_iff (tag : ChunkTag) :
    (d.token s i w).chunk = tag.text ↔ (d.chunkTags s).get? i = some tag := by
  rw [chunk_token]
  cases (d.chunkTags s).get? i with
  | none => cases tag <;> decide
  | some tag' => cases tag <;> cases tag' <;> decide

theorem chunk_token_eq_outsideChunk_iff :
    (d.token s i w).chunk = outsideChunk ↔ (d.chunkTags s).get? i = none := by
  rw [chunk_token]
  cases (d.chunkTags s).get? i with
  | none => decide
  | some tag => cases tag <;> decide

private theorem start_le_of_mem_chunksIn {c : Span} (h : c ∈ d.chunksIn s) : s.start ≤ c.start := by
  rw [chunksIn] at h
  split at h
  · have hinside := (List.mem_filter.1 h).2
    rw [Span.inside, Bool.and_eq_true, decide_eq_true_iff] at hinside
    exact hinside.1
  · exact absurd h List.not_mem_nil

private theorem hasChunkTags_graph (d : Document) (s : Span) :
    HasChunkTags (d.chunksIn s) s.start (d.graph s).vertices := by
  have htagged := taggedBy_chunkTags d s
  constructor
  case first_iff =>
    intro k t ht
    obtain ⟨w, -, rfl⟩ := getElem?_vertices_graph_iff.1 ht
    exact (chunk_token_eq_iff .first).trans ((htagged.some_iff _ _).trans
      (exists_congr fun c ↦ and_congr_right fun _ ↦ Span.tagAt_eq_first_iff))
  case further_iff =>
    intro k t ht
    obtain ⟨w, -, rfl⟩ := getElem?_vertices_graph_iff.1 ht
    exact (chunk_token_eq_iff .further).trans ((htagged.some_iff _ _).trans
      (exists_congr fun c ↦ and_congr_right fun _ ↦ Span.tagAt_eq_further_iff))
  case outside_iff =>
    intro k t ht
    obtain ⟨w, -, rfl⟩ := getElem?_vertices_graph_iff.1 ht
    rw [chunk_token_eq_outsideChunk_iff, htagged.none_iff]
  case preceded =>
    intro k t ht hfurther
    obtain ⟨w, hw, rfl⟩ := getElem?_vertices_graph_iff.1 ht
    obtain ⟨c, hc, j, hj, hstart, htag⟩ :=
      htagged.exists_before_further ((chunk_token_eq_iff .further).1 hfurther)
    have hspan := start_le_of_mem_chunksIn hc
    obtain ⟨k, rfl⟩ : ∃ k', k = k' + 1 := ⟨k - 1, by omega⟩
    obtain rfl : j = s.start + k := by omega
    have hk : k < (d.graph s).vertices.length :=
      Nat.lt_of_succ_lt (List.getElem?_eq_some_iff.1 ht).1
    have hu := List.getElem?_eq_getElem hk
    refine ⟨k, _, rfl, hu, ?_⟩
    obtain ⟨v, -, htoken⟩ := getElem?_vertices_graph_iff.1 hu
    obtain ⟨tag, htag⟩ := Option.ne_none_iff_exists'.1 htag
    rw [← htoken, (chunk_token_eq_iff tag).2 htag]
    cases tag with
    | first => exact .inl rfl
    | further => exact .inr rfl

/-- **Chunk tags are well-formed.** Whatever chunks are found in a span, and in whatever order, the
last one that covers a word decides its tag and words that none covers have no tag. In the graph a
word that continues a chunk therefore never comes without a tagged word before it. -/
theorem chunkTags_wellFormed (d : Document) (s : Span) (chunks : List Span)
    (hfound : d.chunking = .found chunks) (hinside : ∀ c ∈ chunks, c.inside s = true) :
    TaggedBy chunks (d.chunkTags s).get? ∧
      HasChunkTags chunks s.start (d.graph s).vertices := by
  have hchunks : d.chunksIn s = chunks := by
    rw [chunksIn, hfound]
    exact List.filter_eq_self.2 hinside
  rw [← hchunks]
  exact ⟨taggedBy_chunkTags d s, hasChunkTags_graph d s⟩

/-- Chunks that overlap, contain each other and repeat: the first one loses its beginning and a word
in the middle to others. -/
def overlappingChunks : List Span := [⟨1, 5⟩, ⟨0, 2⟩, ⟨3, 4⟩, ⟨0, 2⟩]

/-- A document in which the chunks are found. -/
def overlappingDocument : Document where
  words := ["the", "old", "stone", "bridge", "tower", "fell"].map fun form ↦
    ⟨form, "NN", "NOUN", form, 5, "dep"⟩
  chunking := .found overlappingChunks
  division := none

theorem chunkTags_wellFormed_overlapping :
    overlappingDocument.chunking = .found overlappingChunks ∧
      (∀ c ∈ overlappingChunks, c.inside overlappingDocument.whole = true) ∧
      HasChunkTags overlappingChunks 0
        (overlappingDocument.graph overlappingDocument.whole).vertices :=
  have hinside : ∀ c ∈ overlappingChunks, c.inside overlappingDocument.whole = true := by decide
  ⟨rfl, hinside, (chunkTags_wellFormed _ overlappingDocument.whole _ rfl hinside).2⟩

example : (overlappingDocument.graph overlappingDocument.whole).vertices.map Token.chunk =
    ["B-NP", "I-NP", "I-NP", "B-NP", "I-NP", "O"] := by
  cbv

end Document

end Motif
