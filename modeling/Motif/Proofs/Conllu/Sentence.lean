import Motif.Proofs.Conllu.Row

/-!
# Sentences that are written and read

A sentence is written with a comment for its text in front of its rows and an empty line after them.
The comment begins with `#` and a row with a digit, so the lines are told apart again, and the first
line declares no columns.
-/

namespace Motif.Conllu

/-! ## Comments -/

theorem toList_renderComment_text {text : String} (h : text ≠ "") :
    (renderComment ("text", text)).toList =
      '#' :: ([' ', 't', 'e', 'x', 't', ' '] ++ '=' :: ([' '] ++ (text.toList ++ []))) := by
  rw [renderComment, if_neg h]
  simp [String.toList_append]

private theorem readComment_text {text : String} (hne : text.toList ≠ [])
    (h : Text.Trimmed text.toList) :
    readComment ([' ', 't', 'e', 'x', 't', ' '] ++ '=' :: ([' '] ++ (text.toList ++ []))) =
      some ("text", text) := by
  have hkey : Text.trim [' ', 't', 'e', 'x', 't', ' '] = ['t', 'e', 'x', 't'] := by decide
  have hvalue : Text.trim ([' '] ++ (text.toList ++ [])) = text.toList :=
    Text.trim_append (List.forall_mem_singleton.2 rfl) h (by simp)
  rw [readComment, Text.cut_append_cons (by decide)]
  dsimp only
  rw [hkey, hvalue, if_neg (by simp [hne]), String.ofList_toList]

/-! ## Sentences that are read back -/

/-- The lines of the sentence are told apart again: its one comment is its text, and the lines of
its rows are divided into their cells again. -/
structure Sentence.Legible (s : Sentence) : Prop where
  comments : ∃ text, s.comments = .ofList [("text", text)] ∧ Text.PlainLine text.toList
  rows : ∀ r ∈ s.rows, r.Legible

/-- The sentence can be written and read: what is more, its rows can be written and read. -/
structure Sentence.Writable (s : Sentence) : Prop extends s.Legible where
  rows_writable : ∀ r ∈ s.rows, r.Writable

/-- What becomes of a sentence that is written and read. -/
def Sentence.reread (s : Sentence) : Sentence := { s with rows := s.rows.map Row.reread }

/-- What is read from the lines of a sentence, row by row. -/
def Sentence.readRows (s : Sentence) : Except Fault Sentence := do
  let rows ← s.rows.mapM fun r ↦ readRow standardColumns r.render.toList
  pure { s with rows := rows }

namespace Sentence.Legible

variable {s : Sentence}

theorem exists_lines_eq (h : s.Legible) :
    ∃ text, s.comments = .ofList [("text", text)] ∧ Text.PlainLine text.toList ∧
      s.lines.map String.toList = (renderComment ("text", text)).toList ::
        s.rows.map fun r ↦ r.render.toList := by
  obtain ⟨text, hcomments, htext⟩ := h.comments
  refine ⟨text, hcomments, htext, ?_⟩
  have hentries : (InsertionMap.ofList [("text", text)]).entries = [("text", text)] := rfl
  rw [lines, hcomments, hentries, List.map_singleton, List.singleton_append, List.map_cons,
    List.map_map]
  rfl

private theorem plainLine_comment {text : String} (h : Text.PlainLine text.toList) :
    Text.PlainLine (renderComment ("text", text)).toList := by
  have hne : text ≠ "" := fun heq ↦ h.ne_nil (String.toList_eq_nil_iff.2 heq)
  have hend : (renderComment ("text", text)).toList =
      ['#', ' ', 't', 'e', 'x', 't', ' ', '=', ' '] ++ text.toList := by
    simp [toList_renderComment_text hne]
  have hmark : Text.Trimmed ['#'] := by decide
  have hnot {c : Char} (hfirst : c ∉ ['#', ' ', 't', 'e', 'x', 't', ' ', '=', ' '])
      (htext : c ∉ text.toList) : c ∉ (renderComment ("text", text)).toList := by
    rw [hend, List.mem_append]
    exact not_or.2 ⟨hfirst, htext⟩
  exact ⟨by simp [hend], hnot (by decide) h.newline_not_mem, hnot (by decide) h.return_not_mem,
    .of_ends hmark h.trimmed (by simp) h.ne_nil hend hend⟩

theorem plainLines (h : s.Legible) :
    s.lines.map String.toList ≠ [] ∧
      ∀ line ∈ s.lines.map String.toList, Text.PlainLine line := by
  obtain ⟨text, -, htext, hlines⟩ := h.exists_lines_eq
  rw [hlines]
  refine ⟨by simp, List.forall_mem_cons.2 ⟨plainLine_comment htext, fun line hline ↦ ?_⟩⟩
  obtain ⟨r, hr, rfl⟩ := List.mem_map.1 hline
  exact (h.rows r hr).plainLine_render

private theorem declaredColumns?_lines (h : s.Legible) :
    declaredColumns? (s.lines.map String.toList) = none := by
  obtain ⟨text, -, htext, hlines⟩ := h.exists_lines_eq
  have hne : text ≠ "" := fun heq ↦ htext.ne_nil (String.toList_eq_nil_iff.2 heq)
  have hmark : columnsMark.toList.isPrefixOf (renderComment ("text", text)).toList = false := by
    rw [toList_renderComment_text hne]
    rfl
  rw [declaredColumns?, hlines, List.head?_cons, Option.bind_eq_bind, Option.bind_some, hmark]
  rfl

theorem head?_row_ne (h : s.Legible) {r : Row} (hr : r ∈ s.rows) :
    r.render.toList.head? ≠ some '#' := by
  obtain ⟨c, cs, hcons, hdigit⟩ := (h.rows r hr).exists_render_eq_cons
  rw [hcons, List.head?_cons]
  intro heq
  rw [Option.some_inj.1 heq] at hdigit
  exact absurd hdigit (by decide)

private theorem rowLines_lines (h : s.Legible) :
    rowLines (s.lines.map String.toList) = s.rows.map fun r ↦ r.render.toList := by
  obtain ⟨text, -, htext, hlines⟩ := h.exists_lines_eq
  have hne : text ≠ "" := fun heq ↦ htext.ne_nil (String.toList_eq_nil_iff.2 heq)
  have htrim : (s.lines.map String.toList).map Text.trim = s.lines.map String.toList :=
    List.map_congr_left (fun line hline ↦ (h.plainLines.2 line hline).trim_eq) |>.trans
      (List.map_id _)
  rw [rowLines, htrim, hlines, toList_renderComment_text hne, List.filter_cons_of_neg (by simp),
    List.filter_eq_self]
  intro line hline
  obtain ⟨r, hr, rfl⟩ := List.mem_map.1 hline
  exact decide_eq_true (h.head?_row_ne hr)

private theorem readComments_lines (h : s.Legible) :
    .ofList (readComments (s.lines.map String.toList)) = s.comments := by
  obtain ⟨text, hcomments, htext, hlines⟩ := h.exists_lines_eq
  have hne : text ≠ "" := fun heq ↦ htext.ne_nil (String.toList_eq_nil_iff.2 heq)
  have hhead : (renderComment ("text", text)).toList.head? = some '#' := by
    rw [toList_renderComment_text hne]
    rfl
  have hoff : ∀ line ∈ s.rows.map fun r ↦ r.render.toList, line.head? ≠ some '#' := by
    intro line hline
    obtain ⟨r, hr, rfl⟩ := List.mem_map.1 hline
    exact h.head?_row_ne hr
  have hplain := h.plainLines.2
  rw [hlines] at hplain ⊢
  obtain ⟨hcomment, hrows⟩ := List.forall_mem_cons.1 hplain
  generalize (s.rows.map fun r ↦ r.render.toList) = rows at hoff hrows ⊢
  have hdented : rows.filter (fun line ↦ decide (line.head? = some '#')) = [] :=
    List.filter_eq_nil_iff.2 fun line hline ↦ by simpa using hoff line hline
  have hindented : rows.filter (fun line ↦ !decide (line.head? = some '#')) = rows :=
    List.filter_eq_self.2 fun line hline ↦ by simpa using hoff line hline
  rw [readComments]
  dsimp only
  rw [List.filter_cons_of_pos (by simp [hhead]), hdented, List.filter_cons_of_neg (by simp [hhead]),
    hindented, List.singleton_append, @List.filterMap_cons_some _ _ _ _ _ ("text", text)]
  · rw [List.filterMap_eq_nil_iff.2, hcomments]
    intro line hline
    rw [(hrows line hline).trim_eq]
    split
    · exact absurd rfl (hoff _ hline)
    · rfl
  · rw [hcomment.trim_eq, toList_renderComment_text hne]
    exact readComment_text htext.ne_nil htext.trimmed

end Sentence.Legible

theorem readParagraphs_lines {ss : List Sentence} (h : ∀ s ∈ ss, s.Legible) :
    readParagraphs standardColumns (ss.map fun s ↦ s.lines.map String.toList) =
      ss.mapM Sentence.readRows := by
  induction ss with
  | nil => rfl
  | cons s ss ih =>
    obtain ⟨hs, hss⟩ := List.forall_mem_cons.1 h
    rw [List.map_cons, readParagraphs, hs.declaredColumns?_lines, Option.getD_none,
      hs.rowLines_lines, List.mapM_map, ih hss, hs.readComments_lines, List.mapM_cons,
      Sentence.readRows, bind_assoc]
    rfl

private theorem toList_join_render (ss : List Sentence) :
    (String.join (ss.map Sentence.render)).toList =
      (ss.map fun s ↦ s.lines.map String.toList).flatMap fun lines ↦
        ['\n'].intercalate lines ++ ['\n', '\n'] := by
  rw [String.toList_join, List.flatMap_map, List.flatMap_map]
  refine congrArg (List.flatMap · ss) (funext fun s ↦ ?_)
  rw [Sentence.render, String.toList_append, String.toList_intercalate]
  rfl

/-- The text of legible sentences is read row by row, whatever line ends are allowed for. -/
theorem read_render_of_legible {ss : List Sentence} (h : ∀ s ∈ ss, s.Legible) :
    read (Text.withUnifiedNewlines (String.join (ss.map Sentence.render))) =
      ss.mapM Sentence.readRows := by
  have hplain : ∀ lines ∈ ss.map fun s ↦ s.lines.map String.toList,
      lines ≠ [] ∧ ∀ line ∈ lines, Text.PlainLine line := by
    intro lines hlines
    obtain ⟨s, hs, rfl⟩ := List.mem_map.1 hlines
    exact (h s hs).plainLines
  rw [read, Text.withUnifiedNewlines, String.toList_ofList, toList_join_render,
    Text.unifyNewlines_eq_self (Text.return_not_mem_flatMap fun lines hl ↦ (hplain lines hl).2),
    Text.paragraphs_flatMap hplain, readParagraphs_lines h]

/-- **Sentences are read back**, whatever line ends are allowed for. -/
theorem read_render {ss : List Sentence} (h : ∀ s ∈ ss, s.Writable) :
    read (Text.withUnifiedNewlines (String.join (ss.map Sentence.render))) =
      .ok (ss.map Sentence.reread) := by
  rw [read_render_of_legible fun s hs ↦ (h s hs).toLegible]
  refine mapM_eq_ok fun s hs ↦ ?_
  have hrows : (s.rows.mapM fun r ↦ readRow standardColumns r.render.toList) =
      .ok (s.rows.map Row.reread) :=
    mapM_eq_ok fun r hr ↦ ((h s hs).rows_writable r hr).readRow_render
  rw [Sentence.readRows, hrows]
  rfl

end Motif.Conllu
