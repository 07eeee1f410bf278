import Motif.Proofs.Outcome
import Motif.Proofs.Pattern.Name

/-!
# Edges in pattern text

An edge matcher is *readable* when its text can stand in a pattern: a scan for the delimiter passes
over the text between the delimiters, a scan for the closing brace passes over the label, and the
label alone is read as what it is. Reading only makes readable matchers (`readable_of_readEdge`),
and a readable matcher is read back from its text, whatever follows
(`EdgeMatcher.Readable.exists_readEdge`).
-/

namespace Motif

open Pattern

/-! ## Labels -/

/-- The test of a label is read from its text. -/
structure LabelTest.Readable (t : LabelTest) : Prop where
  /-- The text is not empty and does not begin like a capture. -/
  begins : ∃ c cs, t.body.toList = c :: cs ∧ c ≠ '\x7b'
  /-- There are no blanks around the text. -/
  trimmed : Text.Trimmed t.body.toList
  /-- The text stands for the test, with or without blanks around it. -/
  reads : ∀ position cs, Text.trim cs = t.body.toList → readLabel position cs = .ok t

theorem betweenSlashes?_eq_some {cs source : List Char}
    (h : betweenSlashes? cs = some source) : cs = '/' :: source ++ ['/'] := by
  unfold betweenSlashes? at h
  split at h
  case h_2 => exact absurd h (by simp)
  rename_i cs'
  split at h
  case isFalse => exact absurd h (by simp)
  rename_i hlast
  obtain rfl := Option.some_inj.1 h
  obtain ⟨ys, rfl⟩ := List.getLast?_eq_some_iff.1 hlast
  rw [List.dropLast_concat, List.cons_append]

private theorem source_of_compile {source : String} {r : Regex} (h : Regex.compile source = .ok r) :
    r.source = source := by
  unfold Regex.compile at h
  split at h
  · rw [← Except.ok.inj h]
  · exact absurd h (by simp)

/-- What a label is read as depends on the text without the blanks around it. -/
theorem readLabel_congr {position position' : Nat} {cs cs' : List Char} {t : LabelTest}
    (htrim : Text.trim cs' = Text.trim cs) (h : readLabel position cs = .ok t) :
    readLabel position' cs' = .ok t := by
  unfold readLabel at h ⊢
  rw [htrim]
  dsimp only at h ⊢
  split at h
  · next hwild => rw [if_pos hwild, h]
  · next hwild =>
    rw [if_neg hwild]
    split at h
    · split at h
      · exact h
      · exact absurd h (by simp [refuse])
      · exact absurd h (by simp)
    · split at h
      · next hlabel => rw [if_pos hlabel, h]
      · exact absurd h (by simp [refuse])

theorem body_of_readLabel {position : Nat} {cs : List Char} {t : LabelTest}
    (h : readLabel position cs = .ok t) :
    t.body.toList = Text.trim cs ∧ ∃ c cs', Text.trim cs = c :: cs' ∧ c ≠ '\x7b' := by
  unfold readLabel at h
  dsimp only at h
  split at h
  · next hwild =>
    obtain rfl := Except.ok.inj h
    rw [hwild]
    exact ⟨rfl, '.', ['*'], rfl, by decide⟩
  split at h
  · rename_i source hsource
    have hlabel := betweenSlashes?_eq_some hsource
    split at h
    · rename_i r hcompile
      obtain rfl := Except.ok.inj h
      refine ⟨?_, '/', _, hlabel, by decide⟩
      rw [LabelTest.body, source_of_compile hcompile, hlabel]
      simp [String.toList_append]
    · exact absurd h (by simp [refuse])
    · exact absurd h (by simp)
  · split at h
    · next hchars =>
      obtain rfl := Except.ok.inj h
      refine ⟨String.toList_ofList, ?_⟩
      rw [Bool.and_eq_true, List.all_eq_true] at hchars
      cases htrim : Text.trim cs with
      | nil => exact absurd hchars.1 (by simp [htrim])
      | cons c cs' =>
        have hc := hchars.2 c (by rw [htrim]; exact List.mem_cons_self)
        exact ⟨c, cs', rfl, Text.ne_of_class hc (by decide)⟩
    · exact absurd h (by simp [refuse])

theorem LabelTest.readable_of_readLabel {position : Nat} {cs : List Char} {t : LabelTest}
    (h : readLabel position cs = .ok t) : t.Readable := by
  obtain ⟨hbody, hbegins⟩ := body_of_readLabel h
  refine ⟨by rwa [hbody], ?_, fun position' cs' hcs' ↦ readLabel_congr (hcs'.trans hbody) h⟩
  rw [hbody]
  exact Text.trimmed_trim cs

theorem LabelTest.readable_any : LabelTest.any.Readable :=
  @readable_of_readLabel 0 Pattern.wildcard .any rfl

theorem LabelTest.Readable.eq_any {t : LabelTest} (h : t.Readable)
    (hbody : t.body = LabelTest.wildcard) : t = .any := by
  have hany := LabelTest.readable_any.reads 0 t.body.toList
  have ht := h.reads 0 t.body.toList (Text.trim_of_trimmed h.trimmed)
  rw [hbody] at hany ht
  have hany' := hany (by decide)
  exact Except.ok.inj (ht.symm.trans hany')

/-! ## Edges -/

/-- The matcher of an edge is read from its text. -/
structure EdgeMatcher.Readable (m : EdgeMatcher) : Prop where
  /-- The delimiter demands the direction, and nothing else does. -/
  directions : directionsOf? m.symbol = some m.directions
  /-- The capture, if any, has a name. -/
  name : ∀ a ∈ m.name, isName a.toList = true
  /-- The label can be read. -/
  test : m.test.Readable
  /-- There is no delimiter in the text. -/
  body : Transparent (· == m.symbol) 0 m.body.toList
  /-- There is no closing brace in the text of a captured label. -/
  label : ∀ a ∈ m.name, Transparent (· == '\x7d') 0 m.test.body.toList

theorem symbol_of_directionsOf? {c : Char} {directions : List Direction} {a : Option String}
    {t : LabelTest} (h : directionsOf? c = some directions) :
    (⟨a, directions, t⟩ : EdgeMatcher).symbol = c := by
  unfold directionsOf? at h
  split at h
  · next hc =>
    obtain rfl := Option.some_inj.1 h
    exact hc.symm
  split at h
  · next hc =>
    obtain rfl := Option.some_inj.1 h
    exact hc.symm
  split at h
  · next hc =>
    obtain rfl := Option.some_inj.1 h
    exact hc.symm
  · exact absurd h (by simp)

theorem mem_of_directionsOf? {c : Char} {directions : List Direction}
    (h : directionsOf? c = some directions) : c ∈ ['<', '>', '-'] := by
  unfold directionsOf? at h
  split at h
  · next hc => rw [hc]; decide
  split at h
  · next hc => rw [hc]; decide
  split at h
  · next hc => rw [hc]; decide
  · exact absurd h (by simp)

theorem EdgeMatcher.Readable.length_directions_le {m : EdgeMatcher} (h : m.Readable) :
    m.directions.length ≤ 1 := by
  have hlength : ∀ c ∈ ['<', '>', '-'], ∀ ds ∈ directionsOf? c, ds.length ≤ 1 :=
    List.all_iff_forall_prop.1 (by decide)
  exact hlength m.symbol (mem_of_directionsOf? h.directions) _ h.directions

theorem EdgeMatcher.toList_body (m : EdgeMatcher) :
    m.body.toList =
      match m.name with
      | none => m.test.body.toList
      | some a =>
        if m.test.body = LabelTest.wildcard then '\x7b' :: a.toList ++ ['\x7d']
        else '\x7b' :: (a.toList ++ ':' :: m.test.body.toList) ++ ['\x7d'] := by
  rw [body]
  cases m.name with
  | none => rfl
  | some a =>
    dsimp only
    split <;> simp [String.toList_append]

private theorem Pattern.Transparent.of_braces {isDelimiter : Char → Bool} {cs : List Char}
    (h : Transparent isDelimiter 0 ('\x7b' :: cs ++ ['\x7d']))
    (hclosed : (ScanState.plain 0).run cs = ScanState.plain 0) : Transparent isDelimiter 1 cs :=
  ⟨(passes_append.1 h.passes.2).1, ScanState.run_plain_of_run_plain hclosed 1⟩

theorem Pattern.Transparent.braces {isDelimiter : Char → Bool} {cs : List Char}
    (hopen : isDelimiter '\x7b' = false) (hclose : isDelimiter '\x7d' = false)
    (h : Transparent isDelimiter 1 cs) :
    Transparent isDelimiter 0 ('\x7b' :: cs ++ ['\x7d']) :=
  .bracketed rfl rfl hopen hclose h

/-- If nothing but blanks follows the closing brace, the text ends with it. -/
theorem trimRight_braces {inner after : List Char}
    (h : inner.length + 2 = (Text.trimRight ('\x7b' :: (inner ++ '\x7d' :: after))).length) :
    Text.trimRight ('\x7b' :: (inner ++ '\x7d' :: after)) = '\x7b' :: inner ++ ['\x7d'] := by
  have h₁ := Text.trimRight_prefix ('\x7b' :: (inner ++ '\x7d' :: after))
  have h₂ : '\x7b' :: inner ++ ['\x7d'] <+: '\x7b' :: (inner ++ '\x7d' :: after) :=
    ⟨after, by simp⟩
  have hlen : (Text.trimRight ('\x7b' :: (inner ++ '\x7d' :: after))).length =
      ('\x7b' :: inner ++ ['\x7d']).length := by
    rw [← h]
    simp
  exact (List.prefix_of_prefix_length_le h₁ h₂ (Nat.le_of_eq hlen)).eq_of_length hlen

section Capture

variable {isDelimiter : Char → Bool}

/-- The inside of a captured edge is transparent at the depth it stands at, and on its own. -/
theorem transparent_inside {inside inner after : List Char} {d : Char}
    (h : Transparent isDelimiter 0 ('\x7b' :: inside))
    (hscan : scanTo (· == '\x7d') inside = some (inner, d, after))
    (hlen : inner.length + 2 = (Text.trimRight ('\x7b' :: inside)).length) :
    Transparent isDelimiter 1 inner ∧ Transparent (· == '\x7d') 0 inner := by
  obtain ⟨rfl, hpasses, hclosed, hd⟩ := scanTo_eq_some_iff.1 hscan
  obtain rfl : d = '\x7d' := by simpa using hd
  refine ⟨Transparent.of_braces ?_ hclosed, hpasses, hclosed⟩
  obtain ⟨bs, hbs, hblank, -⟩ := Text.exists_blanks_trimRight ('\x7b' :: (inner ++ '\x7d' :: after))
  rw [hbs] at h
  rw [← trimRight_braces hlen]
  exact h.of_append_isBlank hblank

theorem transparent_label {depth : Int} {name label : List Char}
    (hname : isName (Text.trim name) = true)
    (h : Transparent isDelimiter depth (name ++ ':' :: label)) :
    Transparent isDelimiter depth (Text.trim label) := by
  refine Transparent.trim ?_
  have hcolon : Transparent isDelimiter depth ([':'] ++ label) :=
    h.of_append (run_plain_of_isName hname depth)
  exact hcolon.of_append (ScanState.next_plain (by decide) depth)

end Capture

/-- Delimiters of edges are neither characters of words nor of any other use. -/
theorem ne_of_directionsOf? {c : Char} {directions : List Direction}
    (h : directionsOf? c = some directions) {d : Char}
    (hd : Text.isWord d = true ∨ d ∈ ['\x7b', '\x7d', ':', '.', '*']) : (d == c) = false := by
  have hclass : ∀ c ∈ ['<', '>', '-'],
      Text.isWord c = false ∧ c ∉ ['\x7b', '\x7d', ':', '.', '*'] :=
    List.all_iff_forall_prop.1 (by decide)
  obtain ⟨hword, hmem⟩ := hclass c (mem_of_directionsOf? h)
  refine beq_false_of_ne ?_
  rcases hd with hd | hd
  · exact Text.ne_of_class hd hword
  · rintro rfl
    exact hmem hd

theorem transparent_wildcard {isDelimiter : Char → Bool} (hdot : isDelimiter '.' = false)
    (hstar : isDelimiter '*' = false) (depth : Int) :
    Transparent isDelimiter depth LabelTest.any.body.toList :=
  .cons (by decide) hdot (.cons (by decide) hstar .nil)

private theorem EdgeMatcher.Readable.captured {c : Char} {directions : List Direction} {a : String}
    {t : LabelTest} (hdir : directionsOf? c = some directions) (ha : isName a.toList = true)
    (ht : t.Readable) (houter : Transparent (· == c) 1 t.body.toList)
    (hinner : Transparent (· == '\x7d') 0 t.body.toList) :
    (⟨some a, directions, t⟩ : EdgeMatcher).Readable := by
  have hsymbol : (⟨some a, directions, t⟩ : EdgeMatcher).symbol = c := symbol_of_directionsOf? hdir
  have hopen := ne_of_directionsOf? hdir (.inr (by decide) : _ ∨ '\x7b' ∈ _)
  have hclose := ne_of_directionsOf? hdir (.inr (by decide) : _ ∨ '\x7d' ∈ _)
  have hcolon := ne_of_directionsOf? hdir (.inr (by decide) : _ ∨ ':' ∈ _)
  have hname : Transparent (· == c) 1 a.toList :=
    transparent_of_isName (fun d hd ↦ ne_of_directionsOf? hdir (.inl hd)) ha 1
  refine ⟨by rw [hsymbol, hdir], by simpa using ha, ht, ?_, fun _ _ ↦ hinner⟩
  rw [hsymbol, toList_body]
  dsimp only
  split
  · exact .braces hopen hclose hname
  · exact .braces hopen hclose (hname.append (.cons (by decide) hcolon houter))

private theorem EdgeMatcher.Readable.uncaptured {c : Char} {directions : List Direction}
    {t : LabelTest} (hdir : directionsOf? c = some directions) (ht : t.Readable)
    (houter : Transparent (· == c) 0 t.body.toList) :
    (⟨none, directions, t⟩ : EdgeMatcher).Readable := by
  have hsymbol : (⟨none, directions, t⟩ : EdgeMatcher).symbol = c := symbol_of_directionsOf? hdir
  refine ⟨by rw [hsymbol, hdir], by simp, ht, ?_, by simp⟩
  rw [hsymbol]
  exact houter

/-- The inside of an edge that is read, and what it is read as: a label, or a name in braces with or
without a label. -/
inductive EdgeBody (directions : List Direction) (used : List String) (position : Nat) :
    List Char → EdgeMatcher → List String → Prop where
  /-- A label. -/
  | label {cs : List Char} {t : LabelTest}
      (ht : readLabel position (Text.trimRight cs) = .ok t) :
      EdgeBody directions used position cs ⟨none, directions, t⟩ used
  /-- A name in braces. -/
  | name {inside inner after : List Char} {d : Char} {a : String}
      (hscan : scanTo (· == '\x7d') inside = some (inner, d, after))
      (hlength : inner.length + 2 = (Text.trimRight ('\x7b' :: inside)).length)
      (ha : readName used (position + 1) inner = .ok a) :
      EdgeBody directions used position ('\x7b' :: inside) ⟨some a, directions, .any⟩ (a :: used)
  /-- A name, a colon and a label in braces. -/
  | captured {inside name label after : List Char} {d : Char} {a : String} {t : LabelTest}
      {position' : Nat}
      (hscan : scanTo (· == '\x7d') inside = some (name ++ ':' :: label, d, after))
      (hlength : (name ++ ':' :: label).length + 2 = (Text.trimRight ('\x7b' :: inside)).length)
      (ha : readName used (position + 1) name = .ok a) (ht : readLabel position' label = .ok t) :
      EdgeBody directions used position ('\x7b' :: inside) ⟨some a, directions, t⟩ (a :: used)

theorem edgeBody_of_readEdgeBody {directions : List Direction} {used used' : List String}
    {position : Nat} {cs : List Char} {m : EdgeMatcher}
    (h : readEdgeBody directions used position cs = .ok (m, used')) :
    EdgeBody directions used position cs m used' := by
  unfold readEdgeBody at h
  dsimp only at h
  split at h
  case h_2 =>
    obtain ⟨t, ht, h⟩ := bind_eq_ok_iff.1 h
    obtain ⟨rfl, rfl⟩ := Prod.mk.inj (Except.ok.inj h)
    exact .label ht
  split at h
  · exact absurd h (by simp [refuse])
  rename_i hscan
  split at h
  · exact absurd h (by simp [refuse])
  rename_i hlength
  split at h
  · next hcut =>
    obtain ⟨a, ha, h⟩ := bind_eq_ok_iff.1 h
    obtain ⟨rfl, rfl⟩ := Prod.mk.inj (Except.ok.inj h)
    obtain rfl := Text.cut_eq_none hcut
    exact .name hscan (Decidable.not_not.1 hlength) ha
  · next hcut =>
    obtain ⟨a, ha, h⟩ := bind_eq_ok_iff.1 h
    obtain ⟨t, ht, h⟩ := bind_eq_ok_iff.1 h
    obtain ⟨rfl, rfl⟩ := Prod.mk.inj (Except.ok.inj h)
    obtain ⟨rfl, -⟩ := Text.cut_eq_some hcut
    exact .captured hscan (Decidable.not_not.1 hlength) ha ht

/-- What reading the inside of an edge gives is readable, and uses a new name. -/
theorem readable_of_readEdgeBody {c : Char} {directions : List Direction}
    {used used' : List String} {position : Nat} {cs : List Char} {m : EdgeMatcher}
    (hdir : directionsOf? c = some directions) (hcs : Transparent (· == c) 0 cs)
    (h : readEdgeBody directions used position cs = .ok (m, used')) :
    m.Readable ∧ m.symbol = c ∧ (∀ a ∈ m.name, a ∉ used) ∧ used' = m.name.toList ++ used := by
  cases edgeBody_of_readEdgeBody h with
  | @label cs t ht =>
    have houter : Transparent (· == c) 0 t.body.toList := by
      obtain ⟨bs, hbs, hblank, -⟩ := Text.exists_blanks_trimRight cs
      rw [hbs] at hcs
      rw [(body_of_readLabel ht).1]
      exact (hcs.of_append_isBlank hblank).trim
    exact ⟨.uncaptured hdir (LabelTest.readable_of_readLabel ht) houter,
      symbol_of_directionsOf? hdir, by simp, rfl⟩
  | name hscan hlength hname =>
    obtain ⟨ha, hisName, hnew⟩ := readName_eq_ok_iff.1 hname
    refine ⟨.captured hdir (by rw [ha, hisName]) LabelTest.readable_any ?_ ?_,
      symbol_of_directionsOf? hdir, by simpa using hnew, rfl⟩
    · exact transparent_wildcard (ne_of_directionsOf? hdir (.inr (by decide)))
        (ne_of_directionsOf? hdir (.inr (by decide))) 1
    · exact transparent_wildcard rfl rfl 0
  | captured hscan hlength hname ht =>
    obtain ⟨houter, hinner⟩ := transparent_inside hcs hscan hlength
    obtain ⟨ha, hisName, hnew⟩ := readName_eq_ok_iff.1 hname
    have hbody := (body_of_readLabel ht).1
    refine ⟨.captured hdir (by rw [ha, hisName]) (LabelTest.readable_of_readLabel ht) ?_ ?_,
      symbol_of_directionsOf? hdir, by simpa using hnew, rfl⟩
    · rw [hbody]
      exact transparent_label hisName houter
    · rw [hbody]
      exact transparent_label hisName hinner

/-- **Edges that are read are readable**, and use a new name. -/
theorem readable_of_readEdge {used : List String} {position : Nat} {c : Char} {cs : List Char}
    {part : Part EdgeMatcher (cs.length + 1)} (h : readEdge used position c cs = .ok part) :
    part.value.Readable ∧ (∀ a ∈ part.value.name, a ∉ used) ∧
      part.used = part.value.name.toList ++ used := by
  unfold readEdge at h
  split at h
  · exact absurd h (by simp [refuse])
  rename_i directions hdir
  split at h
  · exact absurd h (by simp [refuse])
  rename_i inner d after hscan
  dsimp only at h
  split at h
  · exact absurd h (by simp [refuse])
  obtain ⟨⟨m, used'⟩, hbody, h⟩ := bind_eq_ok_iff.1 h
  obtain rfl := Except.ok.inj h
  obtain ⟨-, hpasses, hclosed, -⟩ := scanTo_eq_some_iff.1 hscan
  have hinside : Transparent (· == c) 0 (Text.trimLeft inner) := by
    obtain ⟨bs, hbs, hblank, -⟩ := Text.exists_blanks_trimLeft inner
    have hinner : Transparent (· == c) 0 inner := ⟨hpasses, hclosed⟩
    rw [hbs] at hinner
    exact hinner.of_isBlank_append hblank
  obtain ⟨hm, -, hnew, hused⟩ := readable_of_readEdgeBody hdir hinside hbody
  exact ⟨hm, hnew, hused⟩

/-! ## Reading back -/

theorem trimmed_braces (cs : List Char) : Text.Trimmed ('\x7b' :: cs ++ ['\x7d']) := by
  constructor
  · intro c hc
    obtain rfl : '\x7b' = c := by simpa using hc
    decide
  · intro c hc
    rw [List.getLast?_concat] at hc
    obtain rfl : '\x7d' = c := by simpa using hc
    decide

private theorem EdgeMatcher.Readable.trimmed_body {m : EdgeMatcher} (h : m.Readable) :
    Text.Trimmed m.body.toList ∧ m.body.toList ≠ [] := by
  rw [toList_body]
  cases m.name with
  | none =>
    obtain ⟨c, cs, hbody, -⟩ := h.test.begins
    exact ⟨h.test.trimmed, by simp [hbody]⟩
  | some a =>
    dsimp only
    split
    · exact ⟨trimmed_braces _, by simp⟩
    · exact ⟨trimmed_braces _, by simp⟩

theorem readName_toList {used : List String} {a : String} (ha : isName a.toList = true)
    (hnew : a ∉ used) (position : Nat) : readName used position a.toList = .ok a := by
  have htrim := Text.trim_of_trimmed (trimmed_of_isName ha)
  exact readName_eq_ok_iff.2 ⟨htrim.symm, by rw [htrim, ha], hnew⟩

theorem transparent_name {a : String} (ha : isName a.toList = true) :
    Transparent (· == '\x7d') 0 a.toList :=
  transparent_of_isName (fun d hd ↦ beq_false_of_ne (Text.ne_of_class hd (by decide))) ha 0

section Body

variable {directions : List Direction} {used : List String} {a : String} {t : LabelTest}

theorem readEdgeBody_of_readLabel {cs : List Char} {position' : Nat}
    (hhead : ∀ c ∈ cs.head?, Text.isBlank c = false) (h : readLabel position' cs = .ok t)
    (position : Nat) :
    readEdgeBody directions used position cs = .ok (⟨none, directions, t⟩, used) := by
  have htrim : Text.trimRight cs = Text.trim cs := by
    rw [Text.trim, Text.trimLeft_eq_self hhead]
  have hread : readLabel position (Text.trimRight cs) = .ok t := by
    refine readLabel_congr ?_ h
    rw [htrim]
    exact Text.trim_of_trimmed (Text.trimmed_trim cs)
  obtain ⟨-, c, cs', hlabel, hc⟩ := body_of_readLabel h
  have hprefix := Text.trimRight_prefix cs
  rw [htrim, hlabel] at hprefix
  rw [readEdgeBody.eq_def]
  dsimp only
  rw [hread]
  split
  · -- A brace at the front would be that of the label.
    exact absurd (List.cons_prefix_cons.1 hprefix).1 hc
  · rfl

theorem readEdgeBody_braces {inner : List Char} (h : Transparent (· == '\x7d') 0 inner)
    (position : Nat) :
    readEdgeBody directions used position ('\x7b' :: inner ++ ['\x7d']) =
      match Text.cut ':' inner with
      | (name, none) =>
        readName used (position + 1) name >>= fun a ↦ pure (⟨some a, directions, .any⟩, a :: used)
      | (name, some label) =>
        readName used (position + 1) name >>= fun a ↦
          readLabel (position + 1 + (inner.length - label.length)) label >>= fun t ↦
            pure (⟨some a, directions, t⟩, a :: used) := by
  have htrim := Text.trimRight_eq_self (trimmed_braces inner).2
  have hlen : inner.length + 2 = ('\x7b' :: inner ++ ['\x7d']).length := by simp
  rw [readEdgeBody.eq_def, htrim]
  have hscan := h.scanTo_append (beq_self_eq_true '\x7d') []
  simp only [List.cons_append, hscan, ne_eq] at hlen ⊢
  exact if_neg (not_not_intro hlen)

theorem readEdgeBody_braces_append {inner bs : List Char} (h : Transparent (· == '\x7d') 0 inner)
    (hbs : ∀ b ∈ bs, Text.isBlank b = true) (position : Nat) :
    readEdgeBody directions used position ('\x7b' :: inner ++ ['\x7d'] ++ bs) =
      readEdgeBody directions used position ('\x7b' :: inner ++ ['\x7d']) := by
  have hlen : inner.length + 2 = ('\x7b' :: inner ++ ['\x7d']).length := by simp
  have hscan := h.scanTo_append (beq_self_eq_true '\x7d') bs
  rw [readEdgeBody_braces h, readEdgeBody.eq_def,
    Text.trimRight_append hbs (trimmed_braces inner).2]
  simp only [List.cons_append, List.append_assoc, List.nil_append, hscan, ne_eq] at hlen ⊢
  exact if_neg (not_not_intro hlen)

private theorem readEdgeBody_name (ha : isName a.toList = true) (hnew : a ∉ used) (position : Nat) :
    readEdgeBody directions used position ('\x7b' :: a.toList ++ ['\x7d']) =
      .ok (⟨some a, directions, .any⟩, a :: used) := by
  rw [readEdgeBody_braces (transparent_name ha),
    Text.cut_of_not_mem (not_mem_of_isName ha (c := ':') (by decide))]
  dsimp only
  rw [readName_toList ha hnew]
  rfl

private theorem readEdgeBody_captured (ha : isName a.toList = true) (hnew : a ∉ used)
    (ht : t.Readable) (hlabel : Transparent (· == '\x7d') 0 t.body.toList) (position : Nat) :
    readEdgeBody directions used position
        ('\x7b' :: (a.toList ++ ':' :: t.body.toList) ++ ['\x7d']) =
      .ok (⟨some a, directions, t⟩, a :: used) := by
  have hinner : Transparent (· == '\x7d') 0 (a.toList ++ ':' :: t.body.toList) :=
    (transparent_name ha).append (.cons (by decide) (by decide) hlabel)
  rw [readEdgeBody_braces hinner,
    Text.cut_append_cons (not_mem_of_isName ha (c := ':') (by decide))]
  dsimp only
  rw [readName_toList ha hnew, ok_bind, ht.reads _ _ (Text.trim_of_trimmed ht.trimmed)]
  rfl

end Body

theorem EdgeMatcher.Readable.readEdgeBody_body {m : EdgeMatcher} {used : List String}
    (hm : m.Readable) (hnew : ∀ a ∈ m.name, a ∉ used) (position : Nat) :
    readEdgeBody m.directions used position m.body.toList = .ok (m, m.name.toList ++ used) := by
  obtain ⟨name, directions, t⟩ := m
  rw [toList_body]
  cases name with
  | none =>
    have htrimmed := hm.test.trimmed
    exact readEdgeBody_of_readLabel htrimmed.1
      (hm.test.reads 0 _ (Text.trim_of_trimmed htrimmed)) position
  | some a =>
    dsimp only
    split
    · next hwild =>
      obtain rfl := hm.test.eq_any hwild
      exact readEdgeBody_name (hm.name a rfl) (hnew a rfl) position
    · exact readEdgeBody_captured (hm.name a rfl) (hnew a rfl) hm.test (hm.label a rfl) position

/-- Between two equal delimiters, what is there is read as the body of an edge. -/
theorem exists_readEdge_eq {c : Char} {inner : List Char} {directions : List Direction}
    (hc : directionsOf? c = some directions) (hinner : Transparent (· == c) 0 inner)
    (hne : (Text.trimLeft inner).isEmpty = false) (after : List Char) :
    ∃ h : after.length < (inner ++ c :: after).length + 1, ∀ used position,
      readEdge used position c (inner ++ c :: after) =
        readEdgeBody directions used
            (position + 1 + (inner.length - (Text.trimLeft inner).length)) (Text.trimLeft inner) >>=
          fun body ↦ pure ⟨body.1, body.2, after, h⟩ := by
  have hscan := hinner.scanTo_append (beq_self_eq_true c) after
  refine ⟨by simp; omega, fun used position ↦ ?_⟩
  rw [readEdge, hc]
  dsimp only
  split
  · next h => exact absurd (hscan.symm.trans h) (by simp)
  · next inner' d after' h =>
    obtain ⟨rfl, rfl, rfl⟩ : inner = inner' ∧ c = d ∧ after = after' := by
      simpa using hscan.symm.trans h
    rw [hne, if_neg Bool.false_ne_true]

/-- **Readable edges are read back from their text**, whatever follows. -/
theorem EdgeMatcher.Readable.exists_readEdge {m : EdgeMatcher} {used : List String}
    (hm : m.Readable) (hnew : ∀ a ∈ m.name, a ∉ used) (position : Nat) (after : List Char) :
    ∃ h, readEdge used position m.symbol (m.body.toList ++ m.symbol :: after) =
      .ok ⟨m, m.name.toList ++ used, after, h⟩ := by
  obtain ⟨htrimmed, hne⟩ := hm.trimmed_body
  have hinside : Text.trimLeft m.body.toList = m.body.toList := Text.trimLeft_eq_self htrimmed.1
  have hinner : (Text.trimLeft m.body.toList).isEmpty = false := by
    rw [hinside]
    simpa using hne
  obtain ⟨hlt, hread⟩ := exists_readEdge_eq hm.directions hm.body hinner after
  refine ⟨hlt, ?_⟩
  rw [hread, hinside, hm.readEdgeBody_body hnew]
  rfl

end Motif
