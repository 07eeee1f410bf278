import Motif.Text.Lines

/-!
# Paragraphs that are written line by line

A text that ends every line with a line feed and every paragraph with an empty line is divided into
these paragraphs again, provided that the lines are neither blank nor have blanks around them.
-/

namespace Motif.Text

instance (cs : List Char) : Decidable (Trimmed cs) :=
  decidable_of_iff (cs.head?.all (fun c ↦ !isBlank c) = true ∧
      cs.getLast?.all (fun c ↦ !isBlank c) = true) <| by
    simp only [Trimmed, Option.all_eq_true, Bool.not_eq_true', Option.mem_def]

/-- A text has no blanks around it if what it begins and ends with has none. -/
theorem Trimmed.of_ends {cs first last rest before : List Char} (hfirst : Trimmed first)
    (hlast : Trimmed last) (hfirst' : first ≠ []) (hlast' : last ≠ []) (hbegin : cs = first ++ rest)
    (hend : cs = before ++ last) : Trimmed cs := by
  constructor
  · rw [hbegin, List.head?_append, List.head?_eq_some_head hfirst', Option.some_or,
      ← List.head?_eq_some_head]
    exact hfirst.1
  · rw [hend, List.getLast?_append, List.getLast?_eq_some_getLast hlast', Option.some_or,
      ← List.getLast?_eq_some_getLast]
    exact hlast.2

theorem Trimmed.of_forall {cs : List Char} (h : ∀ c ∈ cs, isBlank c = false) : Trimmed cs :=
  ⟨fun c hc ↦ h c (List.mem_of_mem_head? hc), fun c hc ↦ h c (List.mem_of_mem_getLast? hc)⟩

theorem mem_intercalate {sep : List Char} {pieces : List (List Char)} {c : Char}
    (h : c ∈ sep.intercalate pieces) : c ∈ sep ∨ ∃ piece ∈ pieces, c ∈ piece := by
  induction pieces with
  | nil => exact absurd h (by simp)
  | cons piece pieces ih =>
    cases pieces with
    | nil =>
      rw [List.intercalate_singleton] at h
      exact .inr ⟨piece, List.mem_cons_self, h⟩
    | cons piece' pieces =>
      rw [List.intercalate_cons_cons, List.append_assoc, List.mem_append, List.mem_append] at h
      rcases h with h | h | h
      · exact .inr ⟨piece, List.mem_cons_self, h⟩
      · exact .inl h
      · exact (ih h).imp_right fun ⟨p, hp, hc⟩ ↦ ⟨p, List.mem_cons_of_mem piece hp, hc⟩

theorem exists_intercalate_cons (sep first : List Char) (pieces : List (List Char)) :
    ∃ after, sep.intercalate (first :: pieces) = first ++ after := by
  cases pieces with
  | nil => exact ⟨[], by rw [List.intercalate_singleton, List.append_nil]⟩
  | cons piece pieces =>
    exact ⟨sep ++ sep.intercalate (piece :: pieces),
      by rw [List.intercalate_cons_cons, List.append_assoc]⟩

theorem exists_intercalate_concat (sep : List Char) (pieces : List (List Char))
    (last : List Char) : ∃ before, sep.intercalate (pieces ++ [last]) = before ++ last := by
  induction pieces with
  | nil => exact ⟨[], List.intercalate_singleton⟩
  | cons piece pieces ih =>
    obtain ⟨before, h⟩ := ih
    refine ⟨piece ++ sep ++ before, ?_⟩
    rw [List.cons_append, List.intercalate_cons_of_ne_nil (by simp), h, List.append_assoc,
      List.append_assoc, List.append_assoc]

/-- A line that stays as it is when a text is divided into paragraphs. -/
structure PlainLine (line : List Char) : Prop where
  /-- There is something in it. -/
  ne_nil : line ≠ []
  /-- It is one line. -/
  newline_not_mem : '\n' ∉ line
  /-- It is one line also where lines end in other ways. -/
  return_not_mem : '\r' ∉ line
  /-- There are no blanks around it. -/
  trimmed : Trimmed line

theorem PlainLine.trim_eq {line : List Char} (h : PlainLine line) : trim line = line :=
  trim_of_trimmed h.trimmed

private theorem split_append_cons {sep : Char} {piece : List Char} (h : sep ∉ piece)
    (rest : List Char) :
    split sep (piece ++ sep :: rest) = piece :: split sep rest := by
  induction piece with
  | nil => rw [List.nil_append, split, if_pos rfl]
  | cons c piece ih =>
    rw [List.mem_cons, not_or] at h
    rw [List.cons_append, split, if_neg fun hc ↦ h.1 hc.symm, ih h.2]

theorem split_of_not_mem {sep : Char} {cs : List Char} (h : sep ∉ cs) : split sep cs = [cs] := by
  induction cs with
  | nil => rfl
  | cons c cs ih =>
    rw [List.mem_cons, not_or] at h
    rw [split, if_neg fun hc ↦ h.1 hc.symm, ih h.2]

theorem split_paragraph {lines : List (List Char)} (hne : lines ≠ [])
    (h : ∀ line ∈ lines, '\n' ∉ line) (rest : List Char) :
    split '\n' (['\n'].intercalate lines ++ '\n' :: '\n' :: rest) =
      lines ++ [] :: split '\n' rest := by
  induction lines with
  | nil => exact absurd rfl hne
  | cons line lines ih =>
    obtain ⟨hline, hlines⟩ := List.forall_mem_cons.1 h
    cases lines with
    | nil =>
      rw [List.intercalate_singleton, split_append_cons hline, split, if_pos rfl]
      rfl
    | cons line' lines =>
      rw [List.intercalate_cons_cons, List.append_assoc, List.append_assoc, List.singleton_append,
        split_append_cons hline, ih (by simp) hlines]
      rfl

private theorem trimEnds_eq_self {lines : List (List Char)} (h : ∀ line ∈ lines, PlainLine line) :
    trimEnds lines = lines := by
  have hleft (line : List Char) (hline : line ∈ lines) : trimLeft line = line :=
    trimLeft_eq_self (h line hline).trimmed.1
  have hright (line : List Char) (hline : line ∈ lines) : trimRight line = line :=
    trimRight_eq_self (h line hline).trimmed.2
  have hhead : lines.modifyHead trimLeft = lines := by
    cases lines with
    | nil => rfl
    | cons line lines => rw [List.modifyHead_cons, hleft line List.mem_cons_self]
  rw [trimEnds, hhead]
  cases hlast : lines.getLast? with
  | none =>
    rw [List.getLast?_eq_none_iff.1 hlast]
    rfl
  | some line =>
    obtain ⟨before, rfl⟩ := List.getLast?_eq_some_iff.1 hlast
    rw [List.dropLast_concat, Option.map_some, hright line (by simp)]
    rfl

private theorem paragraphsFrom_append {lines : List (List Char)}
    (h : ∀ line ∈ lines, PlainLine line)
    (block rest : List (List Char)) (hblock : ∀ line ∈ block, PlainLine line)
    (hne : block ≠ [] ∨ lines ≠ []) :
    paragraphsFrom block (lines ++ [] :: rest) =
      (block.reverse ++ lines) :: paragraphsFrom [] rest := by
  induction lines generalizing block with
  | nil =>
    have hblock' : ∀ line ∈ block.reverse, PlainLine line :=
      fun line hline ↦ hblock line (List.mem_reverse.1 hline)
    have htrim : trim [] = [] := rfl
    rw [List.nil_append, paragraphsFrom, if_pos htrim, if_neg (hne.resolve_right (by simp)),
      trimEnds_eq_self hblock', List.append_nil]
  | cons line lines ih =>
    obtain ⟨hline, hlines⟩ := List.forall_mem_cons.1 h
    have hblank : trim line ≠ [] := by
      rw [hline.trim_eq]
      exact hline.ne_nil
    rw [List.cons_append, paragraphsFrom, if_neg hblank,
      ih hlines (line :: block) (List.forall_mem_cons.2 ⟨hline, hblock⟩) (.inl (by simp)),
      List.reverse_cons, List.append_assoc, List.singleton_append]

/-- **Paragraphs are found again.** -/
theorem paragraphs_flatMap {ps : List (List (List Char))}
    (h : ∀ lines ∈ ps, lines ≠ [] ∧ ∀ line ∈ lines, PlainLine line) :
    paragraphs (ps.flatMap fun lines ↦ ['\n'].intercalate lines ++ ['\n', '\n']) = ps := by
  rw [paragraphs]
  induction ps with
  | nil => rfl
  | cons lines ps ih =>
    obtain ⟨⟨hne, hlines⟩, hps⟩ := List.forall_mem_cons.1 h
    rw [List.flatMap_cons, List.append_assoc]
    have hsplit := split_paragraph hne (fun line hline ↦ (hlines line hline).newline_not_mem)
      (ps.flatMap fun lines ↦ ['\n'].intercalate lines ++ ['\n', '\n'])
    rw [List.cons_append, List.singleton_append, hsplit,
      paragraphsFrom_append hlines [] _ (by simp) (.inr hne), ih hps]
    rfl

theorem return_not_mem_flatMap {ps : List (List (List Char))}
    (h : ∀ lines ∈ ps, ∀ line ∈ lines, PlainLine line) :
    '\r' ∉ ps.flatMap fun lines ↦ ['\n'].intercalate lines ++ ['\n', '\n'] := by
  rw [List.mem_flatMap]
  rintro ⟨lines, hlines, hmem⟩
  rcases List.mem_append.1 hmem with hmem | hmem
  · rcases mem_intercalate hmem with hmem | ⟨line, hline, hmem⟩
    · exact absurd hmem (by decide)
    · exact (h lines hlines line hline).return_not_mem hmem
  · exact absurd hmem (by decide)

end Motif.Text
