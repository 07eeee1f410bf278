import Motif.Proofs.Expression.Rendering

/-!
# The places of mistakes in expressions

A mistake names a piece of text and a place. It is *located* when the piece stands in the text at
that place, which is what a reader of the message relies on. Readers work on pieces of the text, of
which they know how many characters come before, so the lemmas here follow a piece that stands in
the text through what is cut off at its front and at its back.

Some mistakes are not located, and which ones is decided by their causes and by the character at
their place (`SyntaxError.Misplaced`):

* the end of an expression is reported behind the expression, but together with all of it;
* an attribute test where none is expected is reported as the pair of its name and its value;
* names and labels in braces are reported without the blanks before them, but at the place of
  these blanks.

Every other mistake is located. For each reader this is one lemma: its mistakes are *traced*.
-/

namespace Motif

/-! ## Pieces of a text -/

namespace Text

/-- A piece stands in a text, behind its first `n` characters. -/
def StandsAt (text : List Char) (n : Nat) (piece : List Char) : Prop := piece <+: text.drop n

instance (text : List Char) (n : Nat) (piece : List Char) : Decidable (StandsAt text n piece) :=
  inferInstanceAs (Decidable (piece <+: text.drop n))

variable {text cs xs ys : List Char} {n : Nat}

theorem StandsAt.front (h : StandsAt text n cs) (hxs : xs <+: cs) : StandsAt text n xs :=
  List.IsPrefix.trans hxs h

theorem StandsAt.of_append (h : StandsAt text n (xs ++ ys)) : StandsAt text (n + xs.length) ys := by
  obtain ⟨after, hafter⟩ := h
  refine ⟨after, ?_⟩
  rw [← List.drop_drop, ← hafter, List.append_assoc, List.drop_left]

theorem StandsAt.tail {c : Char} (h : StandsAt text n (c :: cs)) : StandsAt text (n + 1) cs :=
  @of_append text [c] cs n h

theorem StandsAt.back (h : StandsAt text n cs) (hys : ys <:+ cs) :
    StandsAt text (n + (cs.length - ys.length)) ys := by
  obtain ⟨xs, rfl⟩ := hys
  rw [List.length_append, Nat.add_sub_cancel]
  exact h.of_append

theorem StandsAt.head?_eq {c : Char} (h : StandsAt text n (c :: cs)) :
    (text.drop n).head? = some c := by
  obtain ⟨after, hafter⟩ := h
  rw [← hafter]
  rfl

end Text

open Text (StandsAt)

/-! ## Located mistakes -/

namespace SyntaxError

/-- The piece of text that a mistake names stands at the place that it gives. -/
def Located (text : List Char) (e : SyntaxError) : Prop :=
  ∃ n : Nat, e.position = n ∧ ∀ piece ∈ e.token, StandsAt text n piece.toList

/-- A mistake gives a place where the piece that it names does not stand. -/
def Misplaced (text : List Char) (e : SyntaxError) : Prop :=
  match e.cause with
  | .unexpectedEnd => True
  | .unexpectedToken => ∃ name value, e.token = some (Expression.Lexeme.test name value).text
  | .invalidName | .duplicateName | .invalidLabel | .invalidRegex _ =>
    e.token ≠ some "" ∧ ∃ c ∈ (text.drop e.position.toNat).head?, Text.isBlank c = true
  | _ => False

/-- A mistake is located, unless it is one of those that are not. -/
def Traced (text : List Char) (e : SyntaxError) : Prop := e.Located text ↔ ¬ e.Misplaced text

variable {text piece cs : List Char} {n : Nat} {cause : Cause}

@[simp] theorem located_at'_iff : (at' cause piece n).Located text ↔ StandsAt text n piece := by
  constructor
  · rintro ⟨m, hm, hpiece⟩
    have hstands := hpiece _ rfl
    rw [String.toList_ofList] at hstands
    obtain rfl : n = m := Int.ofNat_inj.1 hm
    exact hstands
  · intro h
    refine ⟨n, rfl, fun s hs ↦ ?_⟩
    obtain rfl := Option.some_inj.1 hs
    rwa [String.toList_ofList]

@[simp] theorem shift_at' (start : Nat) :
    (at' cause piece n).shift start = at' cause piece (start + n) := by
  rw [at', shift, at', Int.natCast_add]

theorem traced_of_standsAt (h : StandsAt text n piece)
    (hcause : ¬ (at' cause piece n).Misplaced text) : (at' cause piece n).Traced text :=
  iff_of_true (located_at'_iff.2 h) hcause

theorem traced_of_not_standsAt (h : ¬ StandsAt text n piece)
    (hcause : (at' cause piece n).Misplaced text) : (at' cause piece n).Traced text :=
  iff_of_false (fun hlocated ↦ h (located_at'_iff.1 hlocated)) fun hnot ↦ hnot hcause

/-- A text without the blanks around it stands at the place of the text if it is empty or there are
no blanks at the front. -/
theorem traced_trim (h : StandsAt text n cs)
    (hcause : (at' cause (Text.trim cs) n).Misplaced text ↔
      some (String.ofList (Text.trim cs)) ≠ some "" ∧
        ∃ c ∈ (text.drop n).head?, Text.isBlank c = true) :
    (at' cause (Text.trim cs) n).Traced text := by
  by_cases hnil : Text.trim cs = []
  · refine traced_of_standsAt ?_ fun hmisplaced ↦ (hcause.1 hmisplaced).1 (by rw [hnil])
    rw [hnil]
    exact List.nil_prefix
  have htoken : some (String.ofList (Text.trim cs)) ≠ some "" := by
    intro htoken
    apply hnil
    rw [← @String.toList_ofList (Text.trim cs), Option.some_inj.1 htoken]
    rfl
  obtain ⟨c, cs', rfl⟩ : ∃ c cs', cs = c :: cs' := List.exists_cons_of_ne_nil fun hcs ↦ by
    rw [hcs] at hnil
    exact hnil rfl
  have hhead := h.head?_eq
  by_cases hc : Text.isBlank c = true
  · -- The text goes on with a blank, and the piece does not begin with one.
    refine traced_of_not_standsAt (fun hstands ↦ ?_) (hcause.2 ⟨htoken, c, hhead, hc⟩)
    obtain ⟨d, ds, hd⟩ := List.exists_cons_of_ne_nil hnil
    have hblank := (Text.trimmed_trim (c :: cs')).1 d (by rw [hd]; rfl)
    rw [hd] at hstands
    obtain rfl : c = d := Option.some_inj.1 (hhead.symm.trans hstands.head?_eq)
    exact Bool.false_ne_true (hblank.symm.trans hc)
  · have hleft : Text.trimLeft (c :: cs') = c :: cs' := List.dropWhile_cons_of_neg hc
    refine traced_of_standsAt (h.front ?_) fun hmisplaced ↦ ?_
    · rw [Text.trim, hleft]
      exact Text.trimRight_prefix _
    · obtain ⟨-, d, hd, hblank⟩ := hcause.1 hmisplaced
      obtain rfl : c = d := Option.some_inj.1 (hhead.symm.trans hd)
      exact hc hblank

end SyntaxError

open SyntaxError

namespace Expression

variable {V : Type} {text cs : List Char} {start position : Nat} {e : SyntaxError}

/-! ## Units -/

/-- What a unit begins with in the text: its name if it is a test, and all of it otherwise. -/
def Lexeme.opening : Lexeme → List Char
  | test name _ => name.toList
  | l => l.text.toList

/-- A unit stands where it says, in a text of which `start` characters come before. -/
structure Placed.StandsIn (text : List Char) (start : Nat) (l : Placed) : Prop where
  /-- It can be spelled. -/
  writable : l.lexeme.Writable
  /-- It begins at its place. -/
  opening : StandsAt text (start + l.position) l.lexeme.opening

theorem opening_of_ofChar? {c : Char} {l : Lexeme} (h : Lexeme.ofChar? c = some l) :
    l.opening = [c] := by
  unfold Lexeme.ofChar? at h
  split at h
  case h_6 => exact absurd h (by simp)
  all_goals
    obtain rfl := Option.some_inj.1 h
    rfl

private theorem toList_text_test (name value : String) :
    (Lexeme.test name value).text.toList = '(' :: ((Text.quoted name).toList ++
      ',' :: ' ' :: ((Text.quoted value).toList ++ [')'])) := by
  simp [Lexeme.text, String.toList_append]

/-- A test that is read has its name at the front and leaves what is at the back. -/
theorem parts_of_readTest {c : Char} {rest : List Char} {name value : String}
    (hc : isNameStart c = true) (h : readTest position (c :: cs) = .ok (name, value, rest)) :
    name.toList <+: c :: cs ∧ rest <:+ c :: cs := by
  obtain ⟨quote, name', before, after, value', -, -, -, -, -, rfl, rfl, -⟩ := readTest_sound hc h
  rw [String.toList_ofList]
  exact ⟨⟨_, List.cons_append⟩,
    ⟨c :: name' ++ before ++ '=' :: after ++ quote :: value' ++ [quote], by simp⟩⟩

private theorem standsAt_of_lexFrom {ls : List Placed} (h : lexFrom position cs = .ok ls)
    (hcs : StandsAt text (start + position) cs) :
    ∀ l ∈ ls, StandsAt text (start + l.position) l.lexeme.opening := by
  fun_induction lexFrom position cs generalizing ls with
  | case1 =>
    obtain rfl : [] = ls := Except.ok.inj h
    exact fun l hl ↦ absurd hl List.not_mem_nil
  | case2 position c rest _ ih => exact ih h hcs.tail
  | case3 position c rest _ l hl ih =>
    obtain ⟨placed, hread, rfl⟩ := bind_pure_eq_ok_iff.1 h
    refine List.forall_mem_cons.2 ⟨?_, ih hread hcs.tail⟩
    rw [opening_of_ofChar? hl]
    exact hcs.front ⟨rest, rfl⟩
  | case4 => exact absurd h (by simp)
  | case5 position c rest _ _ hc name value rest' htest _ ih =>
    obtain ⟨placed, hread, rfl⟩ := bind_pure_eq_ok_iff.1 h
    obtain ⟨hname, hrest⟩ := parts_of_readTest hc htest
    have hback := hcs.back hrest
    rw [Nat.add_assoc] at hback
    exact List.forall_mem_cons.2 ⟨hcs.front hname, ih hread hback⟩
  | case6 => exact absurd h (by simp)

/-- **Units stand where they say.** -/
theorem standsIn_of_lexFrom {ls : List Placed} (h : lexFrom position cs = .ok ls)
    (hcs : StandsAt text (start + position) cs) : ∀ l ∈ ls, l.StandsIn text start := fun l hl ↦
  ⟨(spells_of_lexFrom h).writable _ (List.mem_map_of_mem hl), standsAt_of_lexFrom h hcs l hl⟩

theorem Placed.StandsIn.traced {l : Placed} (h : l.StandsIn text start) :
    (at' .unexpectedToken l.lexeme.text.toList (start + l.position)).Traced text := by
  obtain ⟨l, position⟩ := l
  obtain ⟨hwritable, hopening⟩ := h
  cases l with
  | test name value =>
    obtain ⟨⟨c, name', hname, hc, -⟩, -⟩ := hwritable
    -- A name begins with a letter or an underscore.
    refine traced_of_not_standsAt (fun hstands ↦ ?_)
      ⟨name, value, by rw [at', String.ofList_toList]⟩
    rw [Lexeme.opening, hname] at hopening
    rw [toList_text_test] at hstands
    obtain rfl : c = '(' := Option.some_inj.1 (hopening.head?_eq.symm.trans hstands.head?_eq)
    exact absurd hc (by decide)
  | openParen | closeParen | and | or | not =>
    refine traced_of_standsAt hopening ?_
    rintro ⟨name, value, htext⟩
    have hlist := congrArg String.toList (Option.some_inj.1 htext)
    rw [String.toList_ofList, toList_text_test] at hlist
    exact absurd hlist (by simp [Lexeme.text])

/-! ## Reading from left to right -/

private theorem traced_of_readTest (h : readTest position cs = .error e)
    (hcs : StandsAt text (start + position) cs) : (e.shift start).Traced text := by
  have hsuffix : Text.trimLeft (cs.dropWhile Text.isWord) <:+ cs :=
    (Text.trimLeft_suffix _).trans (List.dropWhile_suffix _)
  unfold readTest at h
  dsimp only at h
  split at h
  case h_2 =>
    obtain rfl := Except.error.inj h
    rw [shift_at']
    exact traced_of_standsAt (hcs.front (List.takeWhile_prefix _)) id
  rename_i afterEquals hequals
  rw [hequals] at hsuffix
  have hquoted : Text.trimLeft afterEquals <:+ cs :=
    (Text.trimLeft_suffix _).trans ((List.suffix_cons _ _).trans hsuffix)
  have hunquoted : ((at' .unquotedValue
      (cs.take (cs.length - (Text.trimLeft afterEquals).length + 1)) position).shift
        start).Traced text := by
    rw [shift_at']
    exact traced_of_standsAt (hcs.front (List.take_prefix _ _)) id
  split at h
  · obtain rfl := Except.error.inj h
    exact hunquoted
  split at h
  case isFalse =>
    obtain rfl := Except.error.inj h
    exact hunquoted
  split at h
  · exact absurd h (by simp)
  · obtain rfl := Except.error.inj h
    rw [shift_at', ← Nat.add_assoc]
    exact traced_of_standsAt (hcs.back hquoted) id

private theorem traced_of_lexFrom (h : lexFrom position cs = .error e)
    (hcs : StandsAt text (start + position) cs) : (e.shift start).Traced text := by
  fun_induction lexFrom position cs with
  | case1 => exact absurd h (by simp)
  | case2 position c rest _ ih => exact ih h hcs.tail
  | case3 position c rest _ _ _ ih =>
    exact ih (bind_pure_eq_error_iff.1 h) hcs.tail
  | case4 position c rest _ _ _ e' htest =>
    obtain rfl : e' = e := Except.error.inj h
    exact traced_of_readTest htest hcs
  | case5 position c rest _ _ hc name value rest' htest _ ih =>
    have hback := hcs.back (parts_of_readTest hc htest).2
    rw [Nat.add_assoc] at hback
    exact ih (bind_pure_eq_error_iff.1 h) hback
  | case6 position c rest =>
    obtain rfl := Except.error.inj h
    rw [shift_at']
    exact traced_of_standsAt (hcs.front ⟨rest, rfl⟩) id

theorem Reads.standsIn {voc : Vocabulary V} {source : List Char} {rule : Rule}
    {ls rest : List Placed} {f : Expression} (h : Reads voc source rule ls f rest)
    (hls : ∀ l ∈ ls, l.StandsIn text start) : ∀ l ∈ rest, l.StandsIn text start := by
  obtain ⟨used, rfl, -, -⟩ := derives_of_readBy h
  exact fun l hl ↦ hls l (List.mem_append_right used hl)

/-- Mistakes in the order of the units are traced, if one at the end of the source is. -/
theorem traced_of_readBy {voc : Vocabulary V} {source : List Char} {rule : Rule}
    {ls : List Placed} (h : readBy voc source rule ls = .error e)
    (hls : ∀ l ∈ ls, l.StandsIn text start)
    (hend : (at' .unexpectedEnd source (start + source.length)).Traced text) :
    (e.shift start).Traced text := by
  fun_induction readBy voc source rule ls with
  | case3 | case4 | case7 | case8 | case11 | case13 | case15 => exact absurd h (by simp)
  -- The first part of a disjunction or of a conjunction has a mistake.
  | case1 ls fault hfirst ih | case5 ls fault hfirst ih =>
    obtain rfl := Except.error.inj h
    exact ih hfirst hls
  -- The parts behind the operator have a mistake.
  | case2 ls f p rest hlt hfirst _ fault hmore _ ih
  | case6 ls f p rest hlt hfirst _ fault hmore _ ih =>
    obtain rfl := Except.error.inj h
    have hrest := Reads.standsIn ⟨hlt, hfirst⟩ hls
    exact ih hmore fun l hl ↦ hrest l (List.mem_cons_of_mem _ hl)
  | case9 =>
    obtain rfl := Except.error.inj h
    rwa [shift_at']
  -- What is negated or stands in parentheses has a mistake.
  | case10 p rest fault hinner ih | case12 p rest fault hinner ih =>
    obtain rfl := Except.error.inj h
    exact ih hinner fun l hl ↦ hls l (List.mem_cons_of_mem _ hl)
  | case14 p rest =>
    obtain rfl := Except.error.inj h
    have hopening := (hls ⟨.openParen, p⟩ List.mem_cons_self).opening
    rw [opening_of_ofChar? (rfl : Lexeme.ofChar? '(' = _)] at hopening
    rw [shift_at']
    exact traced_of_standsAt hopening id
  | case16 name value p rest =>
    obtain rfl := Except.error.inj h
    rw [shift_at']
    exact traced_of_standsAt (hls ⟨.test name value, p⟩ List.mem_cons_self).opening id
  | case17 l p rest =>
    obtain rfl := Except.error.inj h
    rw [shift_at']
    exact (hls ⟨l, p⟩ List.mem_cons_self).traced

/-! ## Whole expressions -/

/-- What comes behind the first `n` characters of a text, if anything, is a blank or a character
that nodes are divided and ended at. -/
def EndsAt (text : List Char) (n : Nat) : Prop :=
  ∀ c ∈ (text.drop n).head?, Text.isBlank c = true ∨ c ∈ nodeDelimiters

private theorem traced_unexpectedEnd {ls : List Lexeme} (h : Spells cs ls) (hne : cs ≠ [])
    (htrimmed : Text.Trimmed cs) (hend : EndsAt text (start + cs.length)) :
    (at' .unexpectedEnd cs (start + cs.length)).Traced text := by
  refine traced_of_not_standsAt (fun hstands ↦ ?_) trivial
  obtain ⟨c, cs', rfl⟩ := List.exists_cons_of_ne_nil hne
  have hc := htrimmed.1 c rfl
  rcases hend c hstands.head?_eq with hblank | hmem
  · exact Bool.false_ne_true (hc.symm.trans hblank)
  · exact h.not_mem_nodeDelimiters hc hmem

/-- **The mistakes of an expression are traced** wherever it stands in a text. -/
theorem traced_of_read {voc : Vocabulary V} (h : read voc cs = .error e)
    (htrimmed : Text.Trimmed cs) (hcs : StandsAt text start cs)
    (hend : EndsAt text (start + cs.length)) : (e.shift start).Traced text := by
  rcases bind_eq_error_iff.1 h with hlex | ⟨ls, hlex, h⟩
  · exact traced_of_lexFrom hlex hcs
  have hls := standsIn_of_lexFrom hlex hcs
  split at h
  · obtain rfl := Except.error.inj h
    rw [shift_at']
    exact traced_of_standsAt hcs id
  rename_i hne
  have hsource : cs ≠ [] := by
    rintro rfl
    rw [lex, lexFrom] at hlex
    obtain rfl := Except.ok.inj hlex
    exact hne rfl
  rcases bind_eq_error_iff.1 h with hread | ⟨⟨f, rest, hlt⟩, hread, h⟩
  · exact traced_of_readBy hread hls
      (traced_unexpectedEnd (spells_of_lexFrom hlex) hsource htrimmed hend)
  cases rest with
  | nil => cases h
  | cons l rest =>
    obtain rfl := Except.error.inj h
    rw [shift_at']
    exact (Reads.standsIn ⟨hlt, hread⟩ hls l List.mem_cons_self).traced

theorem traced_of_compile {voc : Vocabulary V} (h : compile voc cs start = .error e)
    (htrimmed : Text.Trimmed cs) (hcs : StandsAt text start cs)
    (hend : EndsAt text (start + cs.length)) : e.Traced text := by
  unfold compile at h
  split at h
  · exact absurd h (by simp)
  · next fault hread =>
    obtain rfl := Except.error.inj h
    exact traced_of_read hread htrimmed hcs hend

end Expression

end Motif
