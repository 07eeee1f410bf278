import Motif.Expression.Lexeme
import Motif.Proofs.Outcome
import Motif.Proofs.Text.Classes

/-!
# What texts spell

A text *spells* a sequence of units when it can be divided into them, blanks left aside. The
relation `Spells` has one rule for each kind of unit and does not say how to divide a text;
`exists_lex_iff` shows that reading from left to right finds the division if there is one. A name
cannot end early, because neither a blank nor the equals sign belongs to a word.
-/

namespace Motif.Expression

/-- A text, blanks left aside, consists of the given units. -/
inductive Spells : List Char → List Lexeme → Prop where
  /-- The empty text has no units. -/
  | nil : Spells [] []
  /-- Blanks between units do not count. -/
  | blank {c : Char} {cs : List Char} {ls : List Lexeme} (hc : Text.isBlank c = true)
      (rest : Spells cs ls) : Spells (c :: cs) ls
  /-- A parenthesis or an operator. -/
  | sign {c : Char} {l : Lexeme} {cs : List Char} {ls : List Lexeme}
      (hc : Lexeme.ofChar? c = some l) (rest : Spells cs ls) : Spells (c :: cs) (l :: ls)
  /-- An attribute test: a name, an equals sign and a value in quotes that it does not contain. -/
  | test {c quote : Char} {name before after value cs : List Char} {ls : List Lexeme}
      (hc : isNameStart c = true) (hname : ∀ d ∈ name, Text.isWord d = true)
      (hbefore : ∀ d ∈ before, Text.isBlank d = true)
      (hafter : ∀ d ∈ after, Text.isBlank d = true)
      (hquote : quote = '"' ∨ quote = '\'') (hvalue : quote ∉ value) (rest : Spells cs ls) :
      Spells (c :: name ++ (before ++ '=' :: (after ++ quote :: (value ++ quote :: cs))))
        (.test (String.ofList (c :: name)) (String.ofList value) :: ls)

/-! ## Characters -/

theorem isWord_of_isNameStart {c : Char} (h : isNameStart c = true) : Text.isWord c = true := by
  rw [isNameStart, Bool.or_eq_true] at h
  rw [Text.isWord, Text.isLetterOrNumeral, Bool.or_eq_true, Bool.or_eq_true]
  exact h.imp_left Or.inl

theorem isBlank_of_isNameStart {c : Char} (h : isNameStart c = true) : Text.isBlank c = false :=
  Text.isBlank_of_isWord (isWord_of_isNameStart h)

/-- A character that is a unit on its own is one of five, none of which is in another class. -/
theorem class_of_ofChar? {c : Char} {l : Lexeme} (h : Lexeme.ofChar? c = some l) :
    Text.isBlank c = false ∧ isNameStart c = false := by
  unfold Lexeme.ofChar? at h
  split at h
  case h_6 => exact absurd h (by simp)
  all_goals decide

private theorem ofChar?_of_isNameStart {c : Char} (h : isNameStart c = true) :
    Lexeme.ofChar? c = none := by
  cases hl : Lexeme.ofChar? c with
  | none => rfl
  | some l => exact absurd h (by simp [(class_of_ofChar? hl).2])

/-! ## Attribute tests -/

private theorem takeWhile_append_of_end {α : Type} {p : α → Bool} {xs ys : List α}
    (hxs : ∀ x ∈ xs, p x = true) (hys : ∀ y ∈ ys.head?, ¬ p y = true) :
    (xs ++ ys).takeWhile p = xs := by
  rw [List.takeWhile_append_of_pos hxs]
  cases ys with
  | nil => rw [List.takeWhile_nil, List.append_nil]
  | cons y ys => rw [List.takeWhile_cons_of_neg (hys y rfl), List.append_nil]

private theorem dropWhile_append_of_end {α : Type} {p : α → Bool} {xs ys : List α}
    (hxs : ∀ x ∈ xs, p x = true) (hys : ∀ y ∈ ys.head?, ¬ p y = true) :
    (xs ++ ys).dropWhile p = ys := by
  rw [List.dropWhile_append_of_pos hxs]
  cases ys with
  | nil => rfl
  | cons y ys => rw [List.dropWhile_cons_of_neg (hys y rfl)]

theorem readTest_sound {position : Nat} {c : Char} {cs rest : List Char} {n v : String}
    (hc : isNameStart c = true) (h : readTest position (c :: cs) = .ok (n, v, rest)) :
    ∃ quote name before after value, (∀ d ∈ name, Text.isWord d = true) ∧
      (∀ d ∈ before, Text.isBlank d = true) ∧ (∀ d ∈ after, Text.isBlank d = true) ∧
      (quote = '"' ∨ quote = '\'') ∧ quote ∉ value ∧
      cs = name ++ (before ++ '=' :: (after ++ quote :: (value ++ quote :: rest))) ∧
      n = String.ofList (c :: name) ∧ v = String.ofList value := by
  have hword := isWord_of_isNameStart hc
  rw [readTest, List.takeWhile_cons_of_pos hword, List.dropWhile_cons_of_pos hword] at h
  obtain ⟨before, hcs, hbefore, -⟩ := Text.exists_blanks_trimLeft (cs.dropWhile Text.isWord)
  dsimp only at h
  split at h
  case h_2 => simp at h
  rename_i afterEquals hequals
  obtain ⟨after, hrest, hafter, -⟩ := Text.exists_blanks_trimLeft afterEquals
  split at h
  · simp at h
  rename_i quote afterQuote hquoted
  split at h
  case isFalse => simp at h
  rename_i hquote
  split at h
  case h_2 => simp at h
  rename_i value rest' hcut
  simp only [Except.ok.injEq, Prod.mk.injEq] at h
  obtain ⟨rfl, rfl, rfl⟩ := h
  obtain ⟨happend, hvalue⟩ := Text.cut_eq_some hcut
  refine ⟨quote, cs.takeWhile Text.isWord, before, after, value,
    List.all_eq_true.1 List.all_takeWhile, hbefore, hafter, hquote, hvalue, ?_, rfl, rfl⟩
  rw [← happend, ← hquoted, ← hrest, ← hequals, ← hcs, List.takeWhile_append_dropWhile]

theorem readTest_complete {c quote : Char} {name before after value : List Char}
    (hc : isNameStart c = true) (hname : ∀ d ∈ name, Text.isWord d = true)
    (hbefore : ∀ d ∈ before, Text.isBlank d = true) (hafter : ∀ d ∈ after, Text.isBlank d = true)
    (hquote : quote = '"' ∨ quote = '\'') (hvalue : quote ∉ value) (rest : List Char)
    (position : Nat) :
    readTest position
        (c :: name ++ (before ++ '=' :: (after ++ quote :: (value ++ quote :: rest)))) =
      .ok (String.ofList (c :: name), String.ofList value, rest) := by
  -- The name ends where it should: at a blank or at the equals sign.
  have hword : ∀ d ∈ c :: name, Text.isWord d = true := by
    intro d hd
    rcases List.mem_cons.1 hd with rfl | hd
    · exact isWord_of_isNameStart hc
    · exact hname d hd
  have hend : ∀ d ∈ (before ++ '=' :: (after ++ quote :: (value ++ quote :: rest))).head?,
      ¬ Text.isWord d = true := by
    intro d hd
    cases before with
    | nil =>
      obtain rfl : '=' = d := by simpa using hd
      decide
    | cons b before =>
      obtain rfl : b = d := by simpa using hd
      rw [Text.isWord_of_isBlank (hbefore b List.mem_cons_self)]
      exact Bool.false_ne_true
  have hquotes : ∀ d ∈ (quote :: (value ++ quote :: rest)).head?, Text.isBlank d = false := by
    intro d hd
    obtain rfl : quote = d := by simpa using hd
    rcases hquote with rfl | rfl <;> decide
  have hequals : ∀ d ∈ ('=' :: (after ++ quote :: (value ++ quote :: rest))).head?,
      Text.isBlank d = false := by
    intro d hd
    obtain rfl : '=' = d := by simpa using hd
    decide
  rw [readTest, takeWhile_append_of_end hword hend, dropWhile_append_of_end hword hend,
    Text.trimLeft_append hbefore hequals]
  simp only [Text.trimLeft_append hafter hquotes, if_pos hquote,
    Text.cut_append_cons hvalue rest]

/-! ## Reading from left to right -/

private theorem lexFrom_blank {c : Char} (hc : Text.isBlank c = true) (position : Nat)
    (cs : List Char) : lexFrom position (c :: cs) = lexFrom (position + 1) cs := by
  rw [lexFrom, if_pos hc]

private theorem lexFrom_sign {c : Char} {l : Lexeme} (hc : Lexeme.ofChar? c = some l)
    (position : Nat) (cs : List Char) :
    lexFrom position (c :: cs) = (lexFrom (position + 1) cs).map (⟨l, position⟩ :: ·) := by
  rw [lexFrom, if_neg (by simp [(class_of_ofChar? hc).1])]
  simp only [hc]
  rfl

private theorem lexFrom_test {c : Char} (hc : isNameStart c = true) {position : Nat}
    {cs rest : List Char}
    {name value : String} (h : readTest position (c :: cs) = .ok (name, value, rest)) :
    lexFrom position (c :: cs) =
      (lexFrom (position + ((c :: cs).length - rest.length)) rest).map
        (⟨.test name value, position⟩ :: ·) := by
  rw [lexFrom, if_neg (by simp [isBlank_of_isNameStart hc])]
  simp only [ofChar?_of_isNameStart hc, if_pos hc]
  split
  · next e he => exact absurd (h.symm.trans he) (by simp)
  · next n v r hr =>
    obtain ⟨rfl, rfl, rfl⟩ : name = n ∧ value = v ∧ rest = r := by simpa using h.symm.trans hr
    rfl

theorem spells_of_lexFrom {position : Nat} {cs : List Char} {ls : List Placed}
    (h : lexFrom position cs = .ok ls) : Spells cs (ls.map Placed.lexeme) := by
  fun_induction lexFrom position cs generalizing ls with
  | case1 =>
    obtain rfl : [] = ls := Except.ok.inj h
    exact .nil
  | case2 _ _ _ hc ih => exact .blank hc (ih h)
  | case3 _ _ _ _ _ hl ih =>
    obtain ⟨placed, hread, rfl⟩ := bind_pure_eq_ok_iff.1 h
    exact .sign hl (ih hread)
  | case4 => exact absurd h (by simp)
  | case5 _ _ _ _ _ hc _ _ _ htest _ ih =>
    obtain ⟨placed, hread, rfl⟩ := bind_pure_eq_ok_iff.1 h
    obtain ⟨quote, name, before, after, value, hname, hbefore, hafter, hquote, hvalue, rfl, rfl,
      rfl⟩ := readTest_sound hc htest
    exact .test hc hname hbefore hafter hquote hvalue (ih hread)
  | case6 => exact absurd h (by simp)

theorem lexFrom_of_spells {cs : List Char} {ls : List Lexeme} (h : Spells cs ls)
    (position : Nat) :
    ∃ placed, lexFrom position cs = .ok placed ∧ placed.map Placed.lexeme = ls := by
  induction h generalizing position with
  | nil => exact ⟨[], by rw [lexFrom], rfl⟩
  | blank hc _ ih =>
    obtain ⟨placed, hread, hls⟩ := ih (position + 1)
    exact ⟨placed, by rw [lexFrom_blank hc, hread], hls⟩
  | sign hc _ ih =>
    obtain ⟨placed, hread, hls⟩ := ih (position + 1)
    exact ⟨_, by rw [lexFrom_sign hc, hread]; rfl, by rw [List.map_cons, hls]⟩
  | @test c quote name before after value cs ls hc hname hbefore hafter hquote hvalue _ ih =>
    have htest := readTest_complete hc hname hbefore hafter hquote hvalue cs position
    have hread := lexFrom_test hc htest
    obtain ⟨placed, hrest, hls⟩ := ih _
    rw [hrest] at hread
    exact ⟨_, hread, by rw [List.map_cons, hls]⟩

/-- **Reading finds the division of a text into units**, if there is one. -/
theorem exists_lex_iff {cs : List Char} {ls : List Lexeme} :
    (∃ placed, lex cs = .ok placed ∧ placed.map Placed.lexeme = ls) ↔ Spells cs ls := by
  constructor
  · rintro ⟨placed, h, rfl⟩
    exact spells_of_lexFrom h
  · exact fun h ↦ lexFrom_of_spells h 0

end Motif.Expression
