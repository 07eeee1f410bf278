import Motif.Proofs.Conllu.RoundTrip
import Motif.Proofs.Conllu.WordGraph

/-!
# Tags in two columns

The tag of a word is looked for in one column, and in the other one if the first is empty. What it
means to be empty is where the columns differ. An underscore stands for what is not specified, and
the reader of rows knows this of the column for specific tags only: in the other one an underscore
is a text, and so it is a tag. The tag in the other column is then passed over, and this is the only
case in which it is (`tag_fallback_exact`).

The writer fills the column that it does not use with underscores. So tags are found again by either
choice of columns, except where specific tags are written and universal ones are read: every tag
becomes an underscore then.
-/

namespace Motif.Conllu

/-- A column does not say what the tag is: it is missing, it is empty, or it has an underscore. -/
def IsUnspecified (x : Option String) : Prop := x = none ∨ x = some "" ∨ x = some unspecified

/-! ## Rows -/

namespace Row

variable {r r' : Row} {column : TagColumn} {t : String}

/-- Where the preferred column does not say what the tag is, the other column does, unless an
underscore is delivered as a text. -/
theorem tag_eq_iff_of_isUnspecified (h : IsUnspecified (r.tagIn column))
    (hother : r.tagIn column.other = some t) (hne : t ≠ "") (hspecified : t ≠ unspecified) :
    r.tag column = t ↔ r.tagIn column ≠ some unspecified := by
  constructor
  · intro htag hunderscore
    exact hspecified (htag.symm.trans (tag_of_preferred hunderscore (by decide)))
  · intro hunderscore
    have hempty : r.tagIn column = none ∨ r.tagIn column = some "" :=
      h.imp_right fun h ↦ h.resolve_right hunderscore
    exact tag_of_other hempty hother hne

private theorem map_specified?_ne (cell : List Char) :
    (specified? cell).map String.ofList ≠ some unspecified := by
  intro h
  obtain ⟨cs, hcs, hunderscore⟩ := Option.map_eq_some_iff.1 h
  obtain rfl : cs = ['_'] := String.toList_ofList.symm.trans (congrArg String.toList hunderscore)
  rw [specified?] at hcs
  split at hcs
  · cases hcs
  · next hnot =>
    obtain rfl := Option.some_inj.1 hcs
    exact hnot (.inr rfl)

private theorem tag_of_token {convention : Convention} {number : Nat} {token : Token}
    (h : r.token convention number = .ok token) : token.tag = r.tag convention.tagColumn := by
  rw [Row.token] at h
  split at h
  · cases h
  · obtain rfl := Except.ok.inj h
    rfl

/-- Storing a cell makes no underscore a specific tag: the cells that go to that column are read as
unspecified, and the others leave it as it is. -/
private theorem specificTag_ne_of_store {name : String} {cell : List Char}
    (h : r.specificTag ≠ some unspecified) (hstore : r.store name cell = .ok r') :
    r'.specificTag ≠ some unspecified := by
  unfold store at hstore
  split at hstore
  case h_5 =>
    obtain rfl := Except.ok.inj hstore
    exact map_specified?_ne cell
  case h_1 | h_6 | h_8 =>
    obtain ⟨_, -, rfl⟩ := bind_pure_eq_ok_iff.1 hstore
    exact h
  all_goals
    obtain rfl := Except.ok.inj hstore
    exact h

private theorem specificTag_ne_of_foldlM {named : List (String × List Char)} {names : List String}
    (h : r.specificTag ≠ some unspecified)
    (hfold : named.foldlM (fun r (column, cell) ↦ r.store (countedName names column) cell) r =
      .ok r') : r'.specificTag ≠ some unspecified := by
  induction named generalizing r with
  | nil =>
    obtain rfl : r = r' := Except.ok.inj hfold
    exact h
  | cons cell named ih =>
    obtain ⟨r₁, hstore, hfold⟩ := bind_eq_ok_iff.1 hfold
    exact ih (specificTag_ne_of_store h hstore) hfold

theorem specificTag_ne_of_readRow {columns : List String} {line : List Char}
    (hread : readRow columns line = .ok r) : r.specificTag ≠ some unspecified := by
  have hblank : blank.specificTag ≠ some unspecified := by decide
  rw [readRow] at hread
  split at hread
  · cases hread
  · exact specificTag_ne_of_foldlM hblank hread

end Row

private theorem exists_readRow_of_readParagraphs {columns : List String}
    {paragraphs : List (List (List Char))} {sentences : List Sentence}
    (h : readParagraphs columns paragraphs = .ok sentences) :
    ∀ s ∈ sentences, ∀ r ∈ s.rows, ∃ columns line, readRow columns line = .ok r := by
  induction paragraphs generalizing columns sentences with
  | nil =>
    obtain rfl : [] = sentences := Except.ok.inj h
    exact fun s hs ↦ absurd hs List.not_mem_nil
  | cons lines rest ih =>
    rw [readParagraphs] at h
    obtain ⟨rows, hrows, h⟩ := bind_eq_ok_iff.1 h
    obtain ⟨others, hothers, rfl⟩ := bind_pure_eq_ok_iff.1 h
    refine List.forall_mem_cons.2 ⟨fun r hr ↦ ?_, ih hothers⟩
    obtain ⟨line, -, hread⟩ := exists_of_mem_mapM hrows hr
    exact ⟨_, line, hread⟩

/-! ## Sentences -/

/-- What becomes of a sentence whose rows are read as they are written. -/
def Sentence.readBack (s : Sentence) : Sentence := { s with rows := s.rows.map Row.readBack }

namespace Sentence

variable {g : Graph Token} {convention : Convention}

private theorem wordRows_readBack_ofGraph (h : IsLegibleGraph g) :
    (ofGraph convention g).readBack.wordRows =
      g.vertices.map fun t ↦
        (numberIn g.vertices t, (rowOf convention g g.vertices t).readBack) := by
  rw [wordRows, readBack, ofGraph, inOrder_eq h.position_eq, List.map_map, List.filterMap_map,
    ← List.filterMap_eq_map]
  rfl

theorem readRows_ofGraph (h : IsLegibleGraph g) (hkey : IsClean convention.chunkKey)
    (hsize : g.vertices.length < 10 ^ Text.maxNumeralDigits) :
    (ofGraph convention g).readRows = .ok (ofGraph convention g).readBack := by
  have hrows : ((ofGraph convention g).rows.mapM fun r ↦
      readRow standardColumns r.render.toList) =
        .ok ((ofGraph convention g).rows.map Row.readBack) := by
    refine mapM_eq_ok fun r hr ↦ ?_
    rw [ofGraph, inOrder_eq h.position_eq] at hr
    obtain ⟨t, ht, rfl⟩ := List.mem_map.1 hr
    obtain ⟨k, hhead, hk⟩ := exists_head_rowOf convention g t
    exact (legible_rowOf h hkey ht).readRow_render rfl hhead ((numberIn_le ht).trans_lt hsize)
      (hk.trans_lt hsize)
  rw [readRows, hrows]
  rfl

private theorem length_lt_of_readRows (h : IsLegibleGraph g) (hkey : IsClean convention.chunkKey)
    {s : Sentence} (hread : (ofGraph convention g).readRows = .ok s) :
    g.vertices.length < 10 ^ Text.maxNumeralDigits := by
  have hpos := List.length_pos_of_ne_nil h.vertices_ne_nil
  have hlast : g.vertices.length - 1 < g.vertices.length := by omega
  have hmem : g.vertices[g.vertices.length - 1] ∈ g.vertices := List.getElem_mem hlast
  have hnumber : numberIn g.vertices g.vertices[g.vertices.length - 1] = g.vertices.length := by
    rw [numberIn, g.vertices_nodup.idxOf_getElem]
    omega
  obtain ⟨rows, hrows, -⟩ := bind_eq_ok_iff.1 hread
  rw [ofGraph, inOrder_eq h.position_eq] at hrows
  obtain ⟨r, hr⟩ := exists_eq_ok_of_mapM hrows _ (List.mem_map_of_mem hmem)
  exact hnumber ▸ (legible_rowOf h hkey hmem).lt_of_readRow rfl hr

theorem isSome_of_mem_rows {r : Row} (hr : r ∈ (ofGraph convention g).readBack.rows) :
    r.id.isSome = true ∧ r.form.isSome = true := by
  rw [readBack, ofGraph, List.map_map] at hr
  obtain ⟨t, -, rfl⟩ := List.mem_map.1 hr
  exact ⟨rfl, rfl⟩

theorem toGraph_readBack_ofGraph (reader : Convention) :
    (ofGraph convention g).readBack.toGraph reader =
      .ok ((ofGraph convention g).readBack.wordGraph reader,
        (ofGraph convention g).readBack.reports reader) :=
  toGraph_eq_ok (fun _ hr ↦ (isSome_of_mem_rows hr).1) fun _ hr ↦ (isSome_of_mem_rows hr).2

private theorem map_tag_wordGraph (h : IsLegibleGraph g) (writer reader : Convention) :
    ((ofGraph writer g).readBack.wordGraph reader).vertices.map Token.tag =
      g.vertices.map fun t ↦
        if writer.tagColumn = .specific ∧ reader.tagColumn = .universal then unspecified
        else t.tag := by
  have hform : ∀ r ∈ (ofGraph writer g).readBack.rows, r.form.isSome = true :=
    fun _ hr ↦ (isSome_of_mem_rows hr).2
  have hnodup : ((ofGraph writer g).readBack.wordRows.map Prod.fst).Nodup := by
    rw [wordRows_readBack_ofGraph h, List.map_map]
    exact List.Nodup.map_on (fun t ht u _ heq ↦ (numberIn_inj ht).1 heq) g.vertices_nodup
  rw [vertices_wordGraph reader hform, tokenMap, InsertionMap.values, InsertionMap.entries_ofList,
    wordRows_readBack_ofGraph h, List.map_map, List.map_map, List.map_map]
  · refine List.map_congr_left fun t ht ↦ ?_
    exact tag_reread_rowOf_eq (g := g) (h.token t ht).tag.ne_empty reader.tagColumn
  · rw [List.map_map]
    exact hnodup

end Sentence

/-! ## Files -/

section Files

variable {writer reader : Convention} {files : Files} {name : String}
  {graphs loaded : List (Graph Token)}

/-- The second graph has as many vertices as the first, and the same tags in the same order. -/
def SameTags (g h : Graph Token) : Prop := h.vertices.map Token.tag = g.vertices.map Token.tag

/-- The tags of a graph survive if they are not written to the one column and looked for in the
other, or if there are none. -/
theorem sameTags_iff {g h : Graph Token} (htags : h.vertices.map Token.tag = g.vertices.map fun t ↦
      if writer.tagColumn = .specific ∧ reader.tagColumn = .universal then unspecified else t.tag) :
    SameTags g h ↔ (writer.tagColumn = .specific → reader.tagColumn = .universal →
      ∀ t ∈ g.vertices, t.tag = unspecified) := by
  rw [SameTags, htags, List.map_inj_left]
  by_cases hcross : writer.tagColumn = .specific ∧ reader.tagColumn = .universal
  · simp only [hcross.1, hcross.2, forall_const]
    exact forall₂_congr fun t _ ↦ eq_comm
  · simp only [if_neg hcross, implies_true, true_iff]
    exact fun hwriter hreader ↦ absurd ⟨hwriter, hreader⟩ hcross

/-- Reading a text of legible graphs is reading their rows and making graphs of the sentences. -/
theorem load_renderGraphs_eq_ok_iff (hlegible : ∀ g ∈ graphs, IsLegibleGraph g)
    (hkey : IsClean writer.chunkKey) (hfile : files name = .ok (renderGraphs writer graphs)) :
    (load reader files name).result.1 = .ok loaded ↔
      ((graphs.mapM fun g ↦ (Sentence.ofGraph writer g).readRows) >>= List.mapM fun s ↦
        s.toGraph reader >>= fun x ↦ .ok x.1) = .ok loaded := by
  have hsentences : ∀ s ∈ graphs.map (Sentence.ofGraph writer), s.Legible := by
    intro s hs
    obtain ⟨g, hg, rfl⟩ := List.mem_map.1 hs
    exact Sentence.legible_ofGraph (hlegible g hg) hkey
  have hread := read_render_of_legible hsentences
  rw [List.map_map, List.mapM_map] at hread
  rw [load_eq_ok_iff hfile, renderGraphs]
  exact hread ▸ Iff.rfl

theorem load_renderGraphs_of_size (hlegible : ∀ g ∈ graphs, IsLegibleGraph g)
    (hkey : IsClean writer.chunkKey) (hfile : files name = .ok (renderGraphs writer graphs))
    (hsize : ∀ g ∈ graphs, g.vertices.length < 10 ^ Text.maxNumeralDigits) :
    (load reader files name).result.1 =
      .ok (graphs.map fun g ↦ (Sentence.ofGraph writer g).readBack.wordGraph reader) := by
  have hrows : (graphs.mapM fun g ↦ (Sentence.ofGraph writer g).readRows) =
      .ok (graphs.map fun g ↦ (Sentence.ofGraph writer g).readBack) :=
    mapM_eq_ok fun g hg ↦ Sentence.readRows_ofGraph (hlegible g hg) hkey (hsize g hg)
  rw [load_renderGraphs_eq_ok_iff hlegible hkey hfile, hrows, ok_bind, List.mapM_map]
  refine mapM_eq_ok fun g _ ↦ ?_
  rw [Function.comp_apply, Sentence.toGraph_readBack_ofGraph]
  rfl

private theorem size_of_load (hlegible : ∀ g ∈ graphs, IsLegibleGraph g)
    (hkey : IsClean writer.chunkKey) (hfile : files name = .ok (renderGraphs writer graphs))
    (hload : (load reader files name).result.1 = .ok loaded) :
    ∀ g ∈ graphs, g.vertices.length < 10 ^ Text.maxNumeralDigits := by
  intro g hg
  rw [load_renderGraphs_eq_ok_iff hlegible hkey hfile] at hload
  obtain ⟨sentences, hrows, -⟩ := bind_eq_ok_iff.1 hload
  obtain ⟨s, hs⟩ := exists_eq_ok_of_mapM hrows g hg
  exact Sentence.length_lt_of_readRows (hlegible g hg) hkey hs

/-- The tags of a file survive exactly if its words can be numbered and no tag is written to the
column for specific tags and looked for in the other one. -/
theorem load_sameTags_iff (hlegible : ∀ g ∈ graphs, IsLegibleGraph g)
    (hkey : IsClean writer.chunkKey) (hfile : files name = .ok (renderGraphs writer graphs)) :
    (∃ loaded, (load reader files name).result.1 = .ok loaded ∧
      List.Forall₂ SameTags graphs loaded) ↔
    (∀ g ∈ graphs, g.vertices.length < 10 ^ Text.maxNumeralDigits) ∧
      (writer.tagColumn = .specific → reader.tagColumn = .universal →
        ∀ g ∈ graphs, ∀ t ∈ g.vertices, t.tag = unspecified) := by
  have htags : List.Forall₂ SameTags graphs
      (graphs.map fun g ↦ (Sentence.ofGraph writer g).readBack.wordGraph reader) ↔
        (writer.tagColumn = .specific → reader.tagColumn = .universal →
          ∀ g ∈ graphs, ∀ t ∈ g.vertices, t.tag = unspecified) := by
    rw [List.forall₂_map_right_iff, List.forall₂_same]
    have hgraph (g : Graph Token) (hg : g ∈ graphs) :=
      sameTags_iff (Sentence.map_tag_wordGraph (hlegible g hg) writer reader)
    constructor
    · intro h hwriter hreader g hg
      exact (hgraph g hg).1 (h g hg) hwriter hreader
    · exact fun h g hg ↦ (hgraph g hg).2 fun hwriter hreader ↦ h hwriter hreader g hg
  constructor
  · rintro ⟨loaded, hload, hsame⟩
    have hsize := size_of_load hlegible hkey hfile hload
    rw [load_renderGraphs_of_size hlegible hkey hfile hsize] at hload
    obtain rfl := Except.ok.inj hload
    exact ⟨hsize, htags.1 hsame⟩
  · rintro ⟨hsize, hcolumns⟩
    exact ⟨_, load_renderGraphs_of_size hlegible hkey hfile hsize, htags.2 hcolumns⟩

end Files

/-- **Tags from the other column.** Where the preferred column of a row does not say what the tag
is, the token has the tag of the other column, unless the preferred one is delivered with an
underscore as its text; the reader never does so for the column for specific tags. And tags that are
written are read, by either choice of columns, in every file whose words can be numbered, unless
there is a tag that was written to the column for specific tags and is looked for in the other
one. -/
theorem tag_fallback_exact (writer reader : TagColumn) :
    (∀ (chunkKey : String) (r : Row) (number : Nat) (token : Token) (t : String),
      r.token ⟨reader, chunkKey⟩ number = .ok token → IsUnspecified (r.tagIn reader) →
      r.tagIn reader.other = some t → t ≠ "" → t ≠ unspecified →
      (token.tag = t ↔ r.tagIn reader ≠ some unspecified)) ∧
    (∀ text sentences, read text = .ok sentences → ∀ s ∈ sentences, ∀ r ∈ s.rows,
      r.tagIn .specific ≠ some unspecified) ∧
    (∀ (files : Files) (name : String) (graphs : List (Graph Token)),
      (∀ g ∈ graphs, IsLegibleGraph g) →
      files name = .ok (renderGraphs ⟨writer, Convention.standardChunkKey⟩ graphs) →
      ((∃ loaded, (load ⟨reader, Convention.standardChunkKey⟩ files name).result.1 = .ok loaded ∧
          List.Forall₂ SameTags graphs loaded) ↔
        (∀ g ∈ graphs, g.vertices.length < 10 ^ Text.maxNumeralDigits) ∧
          (writer = .specific → reader = .universal →
            ∀ g ∈ graphs, ∀ t ∈ g.vertices, t.tag = unspecified))) := by
  refine ⟨?row, ?column, ?file⟩
  case row =>
    intro chunkKey r number token t htoken hunspecified hother hne hspecified
    rw [Row.tag_of_token htoken]
    exact Row.tag_eq_iff_of_isUnspecified hunspecified hother hne hspecified
  case column =>
    intro text sentences hread s hs r hr
    obtain ⟨columns, line, hrow⟩ := exists_readRow_of_readParagraphs hread s hs r hr
    exact Row.specificTag_ne_of_readRow hrow
  case file =>
    intro files name graphs hlegible hfile
    have hkey : IsClean Convention.standardChunkKey := by decide
    exact load_sameTags_iff hlegible hkey hfile

/-- A word whose tag is in the column for specific tags. -/
def specificText : String := "1\tdog\tdog\t_\tNN\t_\t0\troot\t_\t_\n\n"

/-- A row without a column for universal tags. -/
def specificRow : Row := { Row.blank with form := some "dog", specificTag := some "NN" }

/-- A verb on which two words depend, one of them in two ways. -/
def taggedGraph : Graph Token :=
  let noun : Token := ⟨"dog", "NN", "_", "dog", 0⟩
  let verb : Token := ⟨"barks", "_", "O", "_", 1⟩
  .within [noun, verb] [⟨verb, noun, "nsubj"⟩, ⟨noun, noun, "dep"⟩, ⟨verb, verb, "dep"⟩]

/-- The specific tag of a row that has no universal one is found, a text is read, and the tags of a
graph are written to the one column and found from the other. -/
theorem tag_fallback_exact_specific :
    (∃ token, specificRow.token .standard 1 = .ok token ∧
      IsUnspecified (specificRow.tagIn .universal) ∧ specificRow.tagIn .specific = some "NN" ∧
      token.tag = "NN") ∧
    (∃ sentences, read specificText = .ok sentences ∧ ∀ s ∈ sentences, ∀ r ∈ s.rows,
      r.tagIn .specific ≠ some unspecified) ∧
    (∀ g ∈ [taggedGraph], IsLegibleGraph g) ∧
    ∃ loaded, (load ⟨.specific, Convention.standardChunkKey⟩
        (fun _ ↦ .ok (renderGraphs ⟨.universal, Convention.standardChunkKey⟩ [taggedGraph]))
        "out.conllu").result.1 = .ok loaded ∧ List.Forall₂ SameTags [taggedGraph] loaded := by
  obtain ⟨hrow, hcolumn, -⟩ := tag_fallback_exact .universal .universal
  obtain ⟨-, -, hfile⟩ := tag_fallback_exact .universal .specific
  have hlegible : ∀ g ∈ [taggedGraph], IsLegibleGraph g := by decide +kernel
  have hsize : ∀ g ∈ [taggedGraph], g.vertices.length < 10 ^ Text.maxNumeralDigits := by
    decide +kernel
  refine ⟨⟨_, rfl, .inl rfl, rfl, ?row⟩, ?text, hlegible,
    (hfile _ "out.conllu" _ hlegible rfl).2 ⟨hsize, nofun⟩⟩
  case row =>
    exact (hrow Convention.standardChunkKey specificRow 1 _ "NN" rfl (.inl rfl) rfl (by decide)
      (by decide)).2 nofun
  have hread : (read specificText).isOk = true := by decide +kernel
  cases h : read specificText with
  | error fault => simp [h, Except.isOk, Except.toBool] at hread
  | ok sentences => exact ⟨sentences, rfl, hcolumn _ _ h⟩

/-- An underscore in the column for universal tags hides the tag in the other column. -/
theorem tag_hidden_by_underscore :
    ∃ sentences, read specificText = .ok sentences ∧ ∃ s ∈ sentences, ∃ r ∈ s.rows, ∃ token,
      r.token .standard 1 = .ok token ∧ IsUnspecified (r.tagIn Convention.standard.tagColumn) ∧
      r.tagIn Convention.standard.tagColumn.other = some "NN" ∧ token.tag = "_" := by
  have hfound : ∃ sentences ∈ (read specificText).toOption, ∃ s ∈ sentences, ∃ r ∈ s.rows,
      ∃ token ∈ (r.token .standard 1).toOption, r.universalTag = some unspecified ∧
        r.specificTag = some "NN" ∧ token.tag = "_" := by
    decide +kernel
  obtain ⟨sentences, hread, s, hs, r, hr, token, htoken, huniversal, hspecific, htag⟩ := hfound
  exact ⟨sentences, toOption_eq_some_iff.1 hread, s, hs, r, hr, token,
    toOption_eq_some_iff.1 htoken, .inr (.inr huniversal), hspecific, htag⟩

end Motif.Conllu
