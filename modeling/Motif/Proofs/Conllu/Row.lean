import Mathlib.Algebra.Group.Nat.Defs
import Mathlib.Data.List.Chain
import Motif.Conllu.Printer
import Motif.Conllu.Reader
import Motif.Proofs.Outcome
import Motif.Proofs.Text.Lines

/-!
# Rows that are written and read

A row is written with tabs between its cells, and it is read by dividing its line at tabs and at
runs of spaces. A cell is found again if its only blanks are single spaces (`Unbroken`), and the
line keeps its ends if the first and the last cell have no blanks around them (`IsClean`). What the
cells say is found again too: numerals denote their numbers, and a feature is divided into its key
and its value.
-/

namespace Motif.Conllu

/-! ## Cells -/

/-- No two neighbours are spaces. -/
def SinglySpaced (cs : List Char) : Prop := cs.IsChain fun c d ↦ ¬ (c = ' ' ∧ d = ' ')

/-- The text ends neither a cell nor a line: its only blanks are single spaces. -/
@[mk_iff]
structure Unbroken (cs : List Char) : Prop where
  eq_space : ∀ c ∈ cs, Text.isBlank c = true → c = ' '
  singlySpaced : SinglySpaced cs

instance (cs : List Char) : Decidable (Unbroken cs) :=
  decidable_of_iff (cs.all (fun c ↦ !Text.isBlank c || c = ' ') = true ∧
      cs.IsChain fun c d ↦ ¬ (c = ' ' ∧ d = ' ')) <| by
    rw [unbroken_iff, List.all_eq_true]
    simp [SinglySpaced, Classical.or_iff_not_imp_left]

theorem Unbroken.not_mem {cs : List Char} (h : Unbroken cs) {c : Char}
    (hc : Text.isBlank c = true) (hne : c ≠ ' ') : c ∉ cs :=
  fun hmem ↦ hne (h.eq_space c hmem hc)

theorem Unbroken.tail {c : Char} {cs : List Char} (h : Unbroken (c :: cs)) : Unbroken cs :=
  ⟨fun d hd ↦ h.eq_space d (List.mem_cons_of_mem c hd), h.singlySpaced.tail⟩

private theorem Unbroken.of_forall {cs : List Char} (h : ∀ c ∈ cs, Text.isBlank c = false) :
    Unbroken cs := by
  have hspace : ∀ c ∈ cs, c ≠ ' ' := fun c hc heq ↦ absurd (h c hc) (by rw [heq]; decide)
  have hpairwise : cs.Pairwise fun c d ↦ ¬ (c = ' ' ∧ d = ' ') :=
    List.pairwise_of_forall_mem_list fun c hc _ _ heq ↦ hspace c hc heq.1
  exact ⟨fun c hc hblank ↦ absurd ((h c hc).symm.trans hblank) Bool.false_ne_true,
    hpairwise.isChain⟩

private theorem Unbroken.append_cons {cs ds : List Char} (hcs : Unbroken cs) (hds : Unbroken ds)
    {c : Char} (hc : Text.isBlank c = false) : Unbroken (cs ++ c :: ds) := by
  have hne : c ≠ ' ' := fun heq ↦ absurd hc (by rw [heq]; decide)
  refine ⟨fun d hd hblank ↦ ?_, List.isChain_append.2 ⟨hcs.singlySpaced, ?_, ?_⟩⟩
  · rcases List.mem_append.1 hd with hd | hd
    · exact hcs.eq_space d hd hblank
    rcases List.mem_cons.1 hd with rfl | hd
    · exact absurd (hc.symm.trans hblank) Bool.false_ne_true
    · exact hds.eq_space d hd hblank
  · exact List.isChain_cons.2 ⟨fun d _ h ↦ hne h.1, hds.singlySpaced⟩
  · intro x _ y hy h
    obtain rfl : c = y := by simpa using hy
    exact hne h.2

theorem cells_cons {c : Char} {cs rest : List Char} (h : Unbroken (c :: cs))
    (hrest : ∀ d ∈ rest.head?, d = '\t') {w : List Char} {ws : List (List Char)}
    (hcells : cells (cs ++ rest) = w :: ws) : cells (c :: cs ++ rest) = (c :: w) :: ws := by
  rw [List.cons_append, cells]
  · rw [hcells]
  · rintro rfl
    exact h.not_mem (by decide) (by decide) List.mem_cons_self
  · rintro after rfl hafter
    cases cs with
    | nil =>
      rw [List.nil_append] at hafter
      exact absurd (hrest ' ' (by rw [hafter]; rfl)) (by decide)
    | cons d cs =>
      obtain ⟨rfl, -⟩ := List.cons_eq_cons.1 hafter
      exact (List.isChain_cons_cons.1 h.singlySpaced).1 ⟨rfl, rfl⟩

private theorem cells_of_unbroken {cs : List Char} (h : Unbroken cs) : cells cs = [cs] := by
  induction cs with
  | nil => rw [cells]
  | cons c cs ih =>
    have hcells := @cells_cons c cs [] h (by simp) cs [] (by rw [List.append_nil]; exact ih h.tail)
    rwa [List.append_nil] at hcells

private theorem cells_append {cs : List Char} (h : Unbroken cs) (rest : List Char) :
    cells (cs ++ '\t' :: rest) = cs :: cells rest := by
  induction cs with
  | nil => rw [List.nil_append, cells]
  | cons c cs ih => exact cells_cons h (by simp) (ih h.tail)

theorem cells_intercalate {ws : List (List Char)} (hne : ws ≠ []) (h : ∀ w ∈ ws, Unbroken w) :
    cells (['\t'].intercalate ws) = ws := by
  induction ws with
  | nil => exact absurd rfl hne
  | cons w ws ih =>
    obtain ⟨hw, hws⟩ := List.forall_mem_cons.1 h
    cases ws with
    | nil => rw [List.intercalate_singleton, cells_of_unbroken hw]
    | cons w' ws =>
      rw [List.intercalate_cons_cons, List.append_assoc, List.singleton_append, cells_append hw,
        ih (by simp) hws]

/-! ## Numbers -/

theorem isDigit_of_mem_repr {n : Nat} {c : Char} (h : c ∈ n.repr.toList) : isDigit c = true := by
  rw [Nat.toList_repr] at h
  have hdigit := Nat.isDigit_of_mem_toDigits (by decide) (by decide) h
  simpa [Char.isDigit, isDigit, Char.le_def] using hdigit

theorem exists_toDigits_eq_cons {n : Nat} (h : 0 < n) :
    ∃ c cs, Nat.toDigits 10 n = c :: cs ∧ c ≠ '0' := by
  induction n using Nat.strongRecOn with
  | ind n ih =>
    by_cases hn : n < 10
    · refine ⟨n.digitChar, [], Nat.toDigits_of_lt_base hn, ?_⟩
      have hchar : ∀ m < 10, 0 < m → m.digitChar ≠ '0' := by decide
      exact hchar n hn h
    · obtain ⟨c, cs, hcs, hc⟩ := ih (n / 10) (by omega) (by omega)
      exact ⟨c, cs ++ [(n % 10).digitChar],
        by rw [Nat.toDigits_of_base_le (by decide) (by omega), hcs, List.cons_append], hc⟩

theorem isCounting_repr {n : Nat} (h : 0 < n) : isCounting n.repr.toList = true := by
  have hdigits : ∀ c ∈ n.repr.toList, isDigit c = true := fun c ↦ isDigit_of_mem_repr
  obtain ⟨c, cs, hcs, hc⟩ := exists_toDigits_eq_cons h
  rw [Nat.toList_repr, hcs] at hdigits ⊢
  obtain ⟨hfirst, hrest⟩ := List.forall_mem_cons.1 hdigits
  simpa [isCounting, hfirst, hc] using hrest

theorem numberOf_repr {n : Nat} (h : n < 10 ^ Text.maxNumeralDigits) :
    numberOf n.repr.toList = .ok n := by
  have hlength : n.repr.toList.length ≤ Text.maxNumeralDigits := by
    rw [Nat.toList_repr]
    exact (Nat.length_toDigits_le_iff (by decide) (by decide)).2 h
  have hvalue : Text.ofDigitValues (n.repr.toList.map fun c ↦ c.toNat - '0'.toNat) = n := by
    rw [Text.ofDigitValues, List.foldl_map, Nat.toList_repr]
    exact Nat.ofDigitChars_toDigits (by decide) (by decide)
  rw [numberOf, if_pos hlength, hvalue]

private theorem not_mem_repr {n : Nat} {c : Char} (hc : isDigit c = false) : c ∉ n.repr.toList :=
  fun hmem ↦ Bool.false_ne_true (hc.symm.trans (isDigit_of_mem_repr hmem))

theorem repr_ne_cons {n : Nat} {c : Char} (hc : isDigit c = false) (cs : List Char) :
    n.repr.toList ≠ c :: cs := fun h ↦ not_mem_repr hc (h ▸ List.mem_cons_self)

private theorem isBlank_of_isDigit {c : Char} (h : isDigit c = true) : Text.isBlank c = false := by
  have hrange : ∀ n < 58, 48 ≤ n → Text.blankRuns.has n = false := by decide
  have hbounds : '0'.toNat ≤ c.toNat ∧ c.toNat ≤ '9'.toNat := by
    simpa [isDigit, Char.le_def, UInt32.le_iff_toNat_le] using h
  exact hrange c.toNat (Nat.lt_succ_of_le hbounds.2) hbounds.1

theorem specified?_of_ne {cs : List Char} (hne : cs ≠ []) (h : cs ≠ ['_']) :
    specified? cs = some cs := if_neg (not_or.2 ⟨hne, h⟩)

theorem readId_repr_eq {n : Nat} (h : 0 < n) :
    readId "id" n.repr.toList = .word <$> numberOf n.repr.toList := by
  obtain ⟨c, cs, hcs, -⟩ := exists_toDigits_eq_cons h
  have hne : n.repr.toList ≠ [] := by simp [Nat.toList_repr, hcs]
  have hspecified := specified?_of_ne hne (repr_ne_cons rfl [])
  have hnone : ¬ (specified? n.repr.toList).isNone = true := by rw [hspecified]; exact nofun
  rw [readId, if_neg hnone, if_pos (.inl (isCounting_repr h))]

private theorem readId_repr {n : Nat} (h : 0 < n) (hlt : n < 10 ^ Text.maxNumeralDigits) :
    readId "id" n.repr.toList = .ok (.word n) := by
  rw [readId_repr_eq h, numberOf_repr hlt]
  rfl

private theorem lt_of_readId {n : Nat} {rowId : RowId} (h : readId "id" n.repr.toList = .ok rowId) :
    n < 10 ^ Text.maxNumeralDigits := by
  rcases Nat.eq_zero_or_pos n with rfl | hpos
  · exact Nat.pow_pos (by decide)
  rw [readId_repr_eq hpos, numberOf] at h
  split at h
  · next hlength =>
    rw [Nat.toList_repr] at hlength
    exact (Nat.length_toDigits_le_iff (by decide) (by decide)).1 hlength
  · exact nomatch h

private theorem readHead_repr {n : Nat} (hlt : n < 10 ^ Text.maxNumeralDigits) :
    readHead n.repr.toList = .ok (some n) := by
  rw [readHead]
  · rw [if_neg (repr_ne_cons rfl [])]
    rcases Nat.eq_zero_or_pos n with rfl | h
    · rfl
    · obtain ⟨c, cs, hcs, hc⟩ := exists_toDigits_eq_cons h
      have hzero : n.repr.toList ≠ ['0'] := by
        rw [Nat.toList_repr, hcs]
        exact fun heq ↦ hc (List.cons_eq_cons.1 heq).1
      rw [if_neg hzero, if_pos (isCounting_repr h), numberOf_repr hlt]
      rfl
  · exact fun ds ↦ repr_ne_cons rfl ds

/-! ## Rows -/

private theorem readRow_of_cells
    {line id form lem universal specific features head relation relations
    misc : List Char} {rowId : RowId} {rowHead : Option Int}
    (h : cells line =
      [id, form, lem, universal, specific, features, head, relation, relations, misc])
    (hid : readId "id" id = .ok rowId) (hhead : readHead head = .ok rowHead)
    (hrelations : checkRelations relations = .ok ()) :
    readRow standardColumns line = .ok {
      id := some rowId
      form := some (String.ofList form)
      lemmaForm := some (String.ofList lem)
      universalTag := some (String.ofList universal)
      specificTag := (specified? specific).map String.ofList
      head := rowHead
      relation := some (String.ofList relation)
      misc := readFeatures misc } := by
  simp [readRow, h, standardColumns, countedName, Row.store, Row.blank, hid, hhead, hrelations]

private theorem exists_readId_of_readRow {line id : List Char} {rest : List (List Char)} {r : Row}
    (h : cells line = id :: rest) (hne : rest ≠ []) (hread : readRow standardColumns line = .ok r) :
    ∃ rowId, readId "id" id = .ok rowId := by
  obtain ⟨cell, rest, rfl⟩ := List.exists_cons_of_ne_nil hne
  have hcolumn (names : List String) : countedName names "id" = "id" := by simp [countedName]
  rw [readRow, h, standardColumns] at hread
  dsimp only [List.zip_cons_cons] at hread
  rw [List.foldlM_cons] at hread
  obtain ⟨first, hfirst, -⟩ := bind_eq_ok_iff.1 hread
  rw [hcolumn] at hfirst
  obtain ⟨rowId, hid, -⟩ := bind_pure_eq_ok_iff.1 hfirst
  exact ⟨rowId, hid⟩

/-! ## Texts that a cell keeps as they are -/

/-- The text is not empty, and its only blanks are single spaces inside it. -/
@[mk_iff]
structure IsClean (s : String) : Prop where
  ne_empty : s ≠ ""
  unbroken : Unbroken s.toList
  trimmed : Text.Trimmed s.toList

instance (s : String) : Decidable (IsClean s) := decidable_of_iff' _ (isClean_iff s)

section Clean

variable {s : String}

theorem IsClean.toList_ne_nil (h : IsClean s) : s.toList ≠ [] := by
  rw [Ne, String.toList_eq_nil_iff]
  exact h.ne_empty

theorem isClean_unspecified : IsClean unspecified := by decide

private theorem isClean_repr (n : Nat) : IsClean n.repr := by
  have hblank : ∀ c ∈ n.repr.toList, Text.isBlank c = false :=
    fun c hc ↦ isBlank_of_isDigit (isDigit_of_mem_repr hc)
  refine ⟨fun heq ↦ ?_, .of_forall hblank, .of_forall hblank⟩
  have hlength := congrArg (List.length ∘ String.toList) heq
  simp [Nat.toList_repr] at hlength

theorem IsClean.append_cons {s t u : String} (hs : IsClean s) (ht : IsClean t) {c : Char}
    (hc : Text.isBlank c = false) (h : u.toList = s.toList ++ c :: t.toList) : IsClean u := by
  have hend : u.toList = (s.toList ++ [c]) ++ t.toList := by simp [h]
  refine ⟨fun heq ↦ ?_, h ▸ hs.unbroken.append_cons ht.unbroken hc,
    .of_ends hs.trimmed ht.trimmed hs.toList_ne_nil ht.toList_ne_nil h hend⟩
  simp [heq] at h

/-- Texts with separators between them make one line, without blanks around it. -/
theorem plainLine_intercalate {sep : Char} (hsep : sep ≠ '\n') (hsep' : sep ≠ '\r')
    {ss : List String} (hne : ss ≠ []) (h : ∀ s ∈ ss, IsClean s) :
    Text.PlainLine ([sep].intercalate (ss.map String.toList)) := by
  have hnot {c : Char} (hc : sep ≠ c) (hblank : Text.isBlank c = true) (hspace : c ≠ ' ') :
      c ∉ [sep].intercalate (ss.map String.toList) := by
    intro hmem
    rcases Text.mem_intercalate hmem with hmem | ⟨w, hw, hmem⟩
    · exact hc (List.mem_singleton.1 hmem).symm
    · obtain ⟨s, hs, rfl⟩ := List.mem_map.1 hw
      exact (h s hs).unbroken.not_mem hblank hspace hmem
  obtain ⟨first, rest, rfl⟩ := List.exists_cons_of_ne_nil hne
  obtain ⟨before, last, hlast⟩ := List.eq_nil_or_concat' (first :: rest) |>.resolve_left hne
  have hfirst := h first List.mem_cons_self
  have hlast' := h last (hlast ▸ by simp)
  obtain ⟨after, hbegin⟩ := Text.exists_intercalate_cons [sep] first.toList
    (rest.map String.toList)
  obtain ⟨front, hend⟩ := Text.exists_intercalate_concat [sep] (before.map String.toList)
    last.toList
  rw [← List.map_cons] at hbegin
  rw [← List.map_singleton, ← List.map_append, ← hlast] at hend
  refine ⟨?_, hnot hsep (by decide) (by decide), hnot hsep' (by decide) (by decide),
    .of_ends hfirst.trimmed hlast'.trimmed hfirst.toList_ne_nil hlast'.toList_ne_nil hbegin hend⟩
  rw [hbegin]
  exact List.append_ne_nil_of_left_ne_nil hfirst.toList_ne_nil after

/-- The key or the value of a feature. -/
@[mk_iff]
structure IsFeaturePart (s : String) : Prop extends IsClean s where
  ne_unspecified : s ≠ unspecified
  bar_not_mem : '|' ∉ s.toList
  equals_not_mem : '=' ∉ s.toList

instance (s : String) : Decidable (IsFeaturePart s) := decidable_of_iff' _ (isFeaturePart_iff s)

private theorem IsFeaturePart.specified? (h : IsFeaturePart s) :
    specified? s.toList = some s.toList := by
  refine specified?_of_ne h.toList_ne_nil fun heq ↦ h.ne_unspecified ?_
  exact String.toList_inj.1 heq

theorem toList_renderFeatures {key value : String} (hvalue : value ≠ "") :
    (renderFeatures (.ofList [(key, some value)])).toList =
      key.toList ++ '=' :: value.toList := by
  have hentries : (InsertionMap.ofList [(key, some value)]).entries = [(key, some value)] := rfl
  rw [renderFeatures, hentries, if_neg (by simp), List.map_singleton, String.toList_intercalate,
    List.map_singleton, List.intercalate_singleton, renderFeature, Option.getD_some, if_neg hvalue]
  simp [String.toList_append]

theorem readFeatures_renderFeatures {key value : String} (hkey : IsFeaturePart key)
    (hvalue : IsFeaturePart value) :
    readFeatures (renderFeatures (.ofList [(key, some value)])).toList =
      .ofList [(key, some value)] := by
  have hbar : '|' ∉ key.toList ++ '=' :: value.toList := by
    rw [List.mem_append, List.mem_cons]
    rintro (h | h | h)
    · exact hkey.bar_not_mem h
    · exact absurd h (by decide)
    · exact hvalue.bar_not_mem h
  have hspecified : Conllu.specified? (key.toList ++ '=' :: value.toList) =
      some (key.toList ++ '=' :: value.toList) := by
    refine specified?_of_ne (by simp) fun heq ↦ ?_
    have hmem : '=' ∈ ['_'] := heq ▸ List.mem_append_right _ List.mem_cons_self
    exact absurd hmem (by decide)
  have hfeature : readFeature (key.toList ++ '=' :: value.toList) = some (key, some value) := by
    rw [readFeature, Text.cut_append_cons hkey.equals_not_mem]
    dsimp only
    rw [hkey.specified?, Text.cut_of_not_mem hvalue.equals_not_mem, hvalue.specified?]
    simp
  rw [toList_renderFeatures hvalue.ne_empty, readFeatures, hspecified]
  dsimp only
  rw [Text.split_of_not_mem hbar, List.filterMap_cons, hfeature]
  rfl

end Clean

/-! ## Rows that are read back -/

/-- There are no features, or there is one whose key and value are found again. -/
def WritableFeatures (misc : Features) : Prop :=
  misc = .empty ∨ ∃ key value, misc = .ofList [(key, some value)] ∧
    IsFeaturePart key ∧ IsFeaturePart value

/-- The line of the row is divided into its cells again: the row stands for a word, all columns that
are written are given, and the texts in them are clean. -/
structure Row.Legible (r : Row) : Prop where
  id : ∃ n, r.id = some (.word n) ∧ 0 < n
  form : ∃ s, r.form = some s ∧ IsClean s
  lemmaForm : ∃ s, r.lemmaForm = some s ∧ IsClean s
  universalTag : ∃ s, r.universalTag = some s ∧ IsClean s
  specificTag : ∃ s, r.specificTag = some s ∧ IsClean s
  head : ∃ n : Nat, r.head = some (n : Int)
  relation : ∃ s, r.relation = some s ∧ IsClean s
  misc : IsClean (renderFeatures r.misc)

/-- The row can be written and read: what is more, its numerals are not too long to be read, and its
features are found again. -/
structure Row.Writable (r : Row) : Prop extends r.Legible where
  id_lt : ∀ n, r.id = some (.word n) → n < 10 ^ Text.maxNumeralDigits
  head_lt : ∀ k : Nat, r.head = some (k : Int) → k < 10 ^ Text.maxNumeralDigits
  features : WritableFeatures r.misc

/-- What becomes of a row that is written and read: the column for specific tags can say that the
tag is not specified. -/
def Row.reread (r : Row) : Row := { r with specificTag := r.specificTag.filter (· ≠ unspecified) }

/-- What becomes of a row whose features need not be found again: they are read as they are
written. -/
def Row.readBack (r : Row) : Row :=
  { r.reread with misc := readFeatures (renderFeatures r.misc).toList }

theorem filter_ne {s t : String} (h : s ≠ t) : (some s).filter (· ≠ t) = some s := by
  rw [Option.filter_some, if_pos (decide_eq_true h)]

private theorem map_specified? {s : String} (h : IsClean s) :
    (specified? s.toList).map String.ofList = (some s).filter (· ≠ unspecified) := by
  by_cases hs : s = unspecified
  · subst hs
    rfl
  · have hne : s.toList ≠ ['_'] := fun heq ↦ hs (String.toList_inj.1 heq)
    rw [specified?_of_ne h.toList_ne_nil hne, Option.map_some, String.ofList_toList, filter_ne hs]

theorem Row.toList_render (r : Row) :
    r.render.toList = ['\t'].intercalate (r.cells.map String.toList) := by
  rw [render, String.toList_intercalate]
  rfl

theorem WritableFeatures.readFeatures_render {misc : Features} (h : WritableFeatures misc) :
    readFeatures (renderFeatures misc).toList = misc := by
  obtain rfl | ⟨key, value, rfl, hkey, hvalue⟩ := h
  · rfl
  · exact readFeatures_renderFeatures hkey hvalue

/-- A feature makes a clean text if its key and its value do, whether or not they are found
again. -/
theorem isClean_renderFeatures {key value : String} (hkey : IsClean key) (hvalue : IsClean value) :
    IsClean (renderFeatures (.ofList [(key, some value)])) :=
  hkey.append_cons hvalue (by decide) (toList_renderFeatures hvalue.ne_empty)

private theorem isClean_getD {x : Option String} (h : ∃ s, x = some s ∧ IsClean s) :
    IsClean (x.getD unspecified) := by
  obtain ⟨s, rfl, hs⟩ := h
  exact hs

namespace Row.Legible

variable {r : Row} {n k : Nat}

theorem isClean_cells (h : r.Legible) : ∀ cell ∈ r.cells, IsClean cell := by
  obtain ⟨n, hid, -⟩ := h.id
  obtain ⟨k, hhead⟩ := h.head
  rw [cells, hid, hhead]
  simp only [List.forall_mem_cons, List.not_mem_nil, false_imp_iff, implies_true, and_true]
  exact ⟨isClean_repr n, isClean_getD h.form, isClean_getD h.lemmaForm, isClean_getD h.universalTag,
    isClean_getD h.specificTag, isClean_unspecified, isClean_repr k, isClean_getD h.relation,
    isClean_unspecified, h.misc⟩

theorem cells_render (h : r.Legible) :
    Conllu.cells r.render.toList = r.cells.map String.toList := by
  rw [toList_render]
  refine cells_intercalate (by simp [Row.cells]) fun w hw ↦ ?_
  obtain ⟨cell, hcell, rfl⟩ := List.mem_map.1 hw
  exact (h.isClean_cells cell hcell).unbroken

/-- A row is read cell by cell, if its numerals are not too long to be read. -/
theorem readRow_render (h : r.Legible) (hid : r.id = some (.word n))
    (hhead : r.head = some (k : Int)) (hn : n < 10 ^ Text.maxNumeralDigits)
    (hk : k < 10 ^ Text.maxNumeralDigits) :
    readRow standardColumns r.render.toList = .ok r.readBack := by
  have hcells := h.cells_render
  have hpos : 0 < n := by
    obtain ⟨m, hm, hpos⟩ := h.id
    obtain rfl := RowId.word.inj (Option.some_inj.1 (hid.symm.trans hm))
    exact hpos
  obtain ⟨form, hform, -⟩ := h.form
  obtain ⟨lem, hlem, -⟩ := h.lemmaForm
  obtain ⟨universal, huniversal, -⟩ := h.universalTag
  obtain ⟨specific, hspecific, hclean⟩ := h.specificTag
  obtain ⟨relation, hrelation, -⟩ := h.relation
  rw [Row.cells, hid, hform, hlem, huniversal, hspecific, hhead, hrelation] at hcells
  rw [readRow_of_cells hcells (readId_repr hpos hn) (readHead_repr hk) rfl]
  obtain ⟨rowId, _, _, _, _, _, _, _⟩ := r
  dsimp only at hid hform hlem huniversal hspecific hhead hrelation
  subst hid hform hlem huniversal hspecific hhead hrelation
  simp [readBack, reread, map_specified? hclean]

theorem lt_of_readRow (h : r.Legible) (hid : r.id = some (.word n)) {r' : Row}
    (hread : readRow standardColumns r.render.toList = .ok r') :
    n < 10 ^ Text.maxNumeralDigits := by
  have hcells := h.cells_render
  rw [Row.cells, hid, List.map_cons] at hcells
  obtain ⟨rowId, hrowId⟩ := exists_readId_of_readRow hcells (by simp) hread
  exact lt_of_readId hrowId

theorem exists_render_eq_cons (h : r.Legible) :
    ∃ c cs, r.render.toList = c :: cs ∧ isDigit c = true := by
  obtain ⟨n, hid, hn⟩ := h.id
  obtain ⟨c, cs, hcs, -⟩ := exists_toDigits_eq_cons hn
  rw [← Nat.toList_repr] at hcs
  have hrender := r.toList_render
  rw [Row.cells, hid, List.map_cons, List.map_cons, List.intercalate_cons_cons, List.append_assoc,
    Option.getD_some, RowId.render, hcs, List.cons_append] at hrender
  exact ⟨c, _, hrender, isDigit_of_mem_repr (hcs ▸ List.mem_cons_self)⟩

theorem plainLine_render (h : r.Legible) : Text.PlainLine r.render.toList := by
  rw [toList_render]
  exact plainLine_intercalate (by decide) (by decide) (by simp [Row.cells]) h.isClean_cells

end Row.Legible

/-- **Rows are read back.** -/
theorem Row.Writable.readRow_render {r : Row} (h : r.Writable) :
    readRow standardColumns r.render.toList = .ok r.reread := by
  obtain ⟨n, hid, -⟩ := h.id
  obtain ⟨k, hhead⟩ := h.head
  rw [h.toLegible.readRow_render hid hhead (h.id_lt n hid) (h.head_lt k hhead), readBack,
    h.features.readFeatures_render]
  rfl

end Motif.Conllu
