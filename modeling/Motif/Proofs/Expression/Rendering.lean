import Motif.Proofs.Expression.Grammar
import Motif.Proofs.Pattern.Scan

/-!
# Canonical texts are read back

The canonical text of an expression shows what an expression says but not how it was put together: a
conjunction of conjunctions is written without parentheses, and so for disjunctions. What is read
back is the expression nested to the right. It has the same units in its canonical text and
therefore the same text (`exists_read_render`).

Not every expression can be written, since a test may have a name that is none, or a value that no
quotes fit around. What has been read can be (`writable_of_read`).
-/

namespace Motif.Expression

variable {V : Type}

/-! ## The units of canonical texts -/

def Lexeme.spelling : Lexeme → List Char
  | .openParen => ['(']
  | .closeParen => [')']
  | .and => [' ', '&', ' ']
  | .or => [' ', '|', ' ']
  | .not => ['!']
  | .test name value => name.toList ++ '=' :: quoteValue value.toList

/-- Units in parentheses if a condition holds. -/
def enclose (b : Bool) (ls : List Lexeme) : List Lexeme :=
  if b then .openParen :: ls ++ [.closeParen] else ls

/-- The units of the canonical text of an expression. -/
def lexemes : Expression → List Lexeme
  | test name value => [.test name value]
  | not e => .not :: enclose (e.strength < 2) e.lexemes
  | and e f => enclose (e.strength < 1) e.lexemes ++ .and :: enclose (f.strength < 1) f.lexemes
  | or e f => e.lexemes ++ .or :: f.lexemes

private theorem parenthesize_flatMap (b : Bool) (ls : List Lexeme) :
    parenthesize b (ls.flatMap Lexeme.spelling) = (enclose b ls).flatMap Lexeme.spelling := by
  cases b with
  | false => rfl
  | true =>
    rw [parenthesize, enclose, if_pos rfl, if_pos rfl, List.flatMap_append, List.flatMap_cons,
      List.flatMap_singleton]
    rfl

theorem render_eq_flatMap (e : Expression) : e.render = e.lexemes.flatMap Lexeme.spelling := by
  induction e with
  | test name value => rw [render, lexemes, List.flatMap_singleton, Lexeme.spelling]
  | not e ih =>
    rw [render, lexemes, List.flatMap_cons, ih, parenthesize_flatMap]
    rfl
  | and e f ihe ihf =>
    rw [render, lexemes, List.flatMap_append, List.flatMap_cons, ihe, ihf, parenthesize_flatMap,
      parenthesize_flatMap]
    rfl
  | or e f ihe ihf =>
    rw [render, lexemes, List.flatMap_append, List.flatMap_cons, ihe, ihf]
    rfl

/-! ## What can be written -/

/-- A unit can be spelled: the name of a test is a name, and there are quotes that its value does
not contain. -/
def Lexeme.Writable : Lexeme → Prop
  | .test name value =>
    (∃ c cs, name.toList = c :: cs ∧ isNameStart c = true ∧ ∀ d ∈ cs, Text.isWord d = true) ∧
      ('"' ∉ value.toList ∨ '\'' ∉ value.toList)
  | _ => True

theorem Spells.writable {cs : List Char} {ls : List Lexeme} (h : Spells cs ls) :
    ∀ l ∈ ls, l.Writable := by
  induction h with
  | nil => exact fun l hl ↦ absurd hl List.not_mem_nil
  | blank _ _ ih => exact ih
  | @sign c l cs ls hc _ ih =>
    refine List.forall_mem_cons.2 ⟨?_, ih⟩
    unfold Lexeme.ofChar? at hc
    split at hc
    case h_6 => exact absurd hc (by simp)
    all_goals
      obtain rfl := Option.some_inj.1 hc
      exact trivial
  | @test c quote name before after value cs ls hc hname _ _ hquote hvalue _ ih =>
    refine List.forall_mem_cons.2 ⟨⟨⟨c, name, String.toList_ofList, hc, hname⟩, ?_⟩, ih⟩
    rw [String.toList_ofList]
    rcases hquote with rfl | rfl
    · exact .inl hvalue
    · exact .inr hvalue

theorem exists_quoteValue_eq {value : List Char} (h : '"' ∉ value ∨ '\'' ∉ value) :
    ∃ quote, (quote = '"' ∨ quote = '\'') ∧ quote ∉ value ∧
      quoteValue value = quote :: value ++ [quote] := by
  by_cases hvalue : '"' ∈ value
  · refine ⟨'\'', .inr rfl, h.resolve_left fun hn ↦ hn hvalue, ?_⟩
    rw [quoteValue, if_pos (List.contains_iff_mem.2 hvalue)]
  · refine ⟨'"', .inl rfl, hvalue, ?_⟩
    rw [quoteValue, if_neg fun hc ↦ hvalue (List.contains_iff_mem.1 hc)]

theorem spells_flatMap {ls : List Lexeme} (h : ∀ l ∈ ls, l.Writable) :
    Spells (ls.flatMap Lexeme.spelling) ls := by
  induction ls with
  | nil => exact .nil
  | cons l ls ih =>
    have hrest := ih fun l' hl' ↦ h l' (List.mem_cons_of_mem l hl')
    rw [List.flatMap_cons]
    cases l with
    | openParen | closeParen | not => exact .sign rfl hrest
    | and | or => exact .blank rfl (.sign rfl (.blank rfl hrest))
    | test name value =>
      obtain ⟨⟨c, cs, hname, hc, hcs⟩, hvalue⟩ := h _ List.mem_cons_self
      obtain ⟨quote, hquote, hmem, heq⟩ := exists_quoteValue_eq hvalue
      have htest := @Spells.test c quote cs [] [] value.toList _ ls hc hcs (by simp) (by simp)
        hquote hmem hrest
      rw [← hname, String.ofList_toList, String.ofList_toList] at htest
      rw [Lexeme.spelling, heq]
      simpa using htest

/-- The expression can be written, and the attributes it names are known. -/
structure Writable (voc : Vocabulary V) (e : Expression) : Prop where
  /-- Its units can be spelled. -/
  lexemes_writable : ∀ l ∈ e.lexemes, l.Writable
  /-- The names of its tests are known. -/
  known : KnownNames voc e.lexemes

section Derived

variable {name value : String}

@[simp] theorem test_mem_enclose_iff {b : Bool} {ls : List Lexeme} :
    .test name value ∈ enclose b ls ↔ .test name value ∈ ls := by
  cases b <;> simp [enclose]

@[simp] private theorem test_mem_and_iff {e f : Expression} :
    .test name value ∈ (e.and f).lexemes ↔
      .test name value ∈ e.lexemes ∨ .test name value ∈ f.lexemes := by
  rw [lexemes, List.mem_append, List.mem_cons, test_mem_enclose_iff, test_mem_enclose_iff]
  simp

@[simp] private theorem test_mem_or_iff {e f : Expression} :
    .test name value ∈ (e.or f).lexemes ↔
      .test name value ∈ e.lexemes ∨ .test name value ∈ f.lexemes := by
  rw [lexemes, List.mem_append, List.mem_cons]
  simp

@[simp] private theorem test_mem_not_iff {e : Expression} :
    .test name value ∈ e.not.lexemes ↔ .test name value ∈ e.lexemes := by
  rw [lexemes, List.mem_cons, test_mem_enclose_iff]
  simp

private theorem exists_of_test_mem_grouped {op : Expression → Expression → Expression}
    (hop : ∀ {e f}, .test name value ∈ (op e f).lexemes →
      .test name value ∈ e.lexemes ∨ .test name value ∈ f.lexemes)
    (x : List Lexeme × Expression) (others : List (List Lexeme × Expression))
    (h : .test name value ∈ (grouped op x.2 (others.map Prod.snd)).lexemes) :
    ∃ y ∈ x :: others, .test name value ∈ y.2.lexemes := by
  induction others generalizing x with
  | nil => exact ⟨x, List.mem_cons_self, h⟩
  | cons y others ih =>
    rcases hop h with h | h
    · exact ⟨x, List.mem_cons_self, h⟩
    · obtain ⟨z, hz, hmem⟩ := ih y h
      exact ⟨z, List.mem_cons_of_mem x hz, hmem⟩

private theorem mem_separated {l l' : Lexeme} {x : List Lexeme × Expression}
    {others : List (List Lexeme × Expression)} {y : List Lexeme × Expression}
    (hy : y ∈ x :: others) (hl : l ∈ y.1) : l ∈ separated l' x.1 (others.map Prod.fst) := by
  rw [separated, List.mem_append, List.mem_flatMap]
  rcases List.mem_cons.1 hy with rfl | hy
  · exact .inl hl
  · exact .inr ⟨y.1, List.mem_map_of_mem hy, List.mem_cons_of_mem l' hl⟩

theorem Derives.test_mem {rule : Rule} {ls : List Lexeme} {e : Expression} (h : Derives rule ls e)
    (hmem : .test name value ∈ e.lexemes) : .test name value ∈ ls := by
  induction h with
  | disjunction first others _ ih =>
    obtain ⟨y, hy, hmem⟩ := exists_of_test_mem_grouped test_mem_or_iff.1 first others hmem
    exact mem_separated hy (ih y hy hmem)
  | conjunction first others _ ih =>
    obtain ⟨y, hy, hmem⟩ := exists_of_test_mem_grouped test_mem_and_iff.1 first others hmem
    exact mem_separated hy (ih y hy hmem)
  | not _ ih => exact List.mem_cons_of_mem _ (ih (test_mem_not_iff.1 hmem))
  | parentheses _ ih => exact List.mem_cons_of_mem _ (List.mem_append_left _ (ih hmem))
  | test name value => exact hmem

end Derived

private theorem Lexeme.writable_of_tests {ls : List Lexeme}
    (h : ∀ name value, .test name value ∈ ls → Lexeme.Writable (.test name value)) :
    ∀ l ∈ ls, l.Writable := by
  intro l hl
  cases l with
  | test name value => exact h name value hl
  | openParen | closeParen | and | or | not => exact trivial

theorem writable_of_read {voc : Vocabulary V} {cs : List Char} {e : Expression}
    (h : read voc cs = .ok e) : e.Writable voc := by
  obtain ⟨ls, hs, hd, hk⟩ := read_eq_ok_iff.1 h
  refine ⟨Lexeme.writable_of_tests fun name value hmem ↦ ?_, fun name value hmem ↦ ?_⟩
  · exact hs.writable _ (hd.test_mem hmem)
  · exact hk name value (hd.test_mem hmem)

/-! ## Nesting to the right -/

/-- The conjunction of two expressions, with the second behind the last member of the first. -/
def conjoin : Expression → Expression → Expression
  | and e f, g => and e (conjoin f g)
  | e, g => and e g

/-- The disjunction of two expressions, with the second behind the last member of the first. -/
def disjoin : Expression → Expression → Expression
  | or e f, g => or e (disjoin f g)
  | e, g => or e g

/-- The expression with conjunctions and disjunctions nested to the right. -/
def rightNested : Expression → Expression
  | test name value => test name value
  | not e => not e.rightNested
  | and e f => conjoin e.rightNested f.rightNested
  | or e f => disjoin e.rightNested f.rightNested

/-- No conjunction has a conjunction on its left, and no disjunction a disjunction. -/
def IsRightNested : Expression → Prop
  | test _ _ => True
  | not e => e.IsRightNested
  | and e f => e.strength ≠ 1 ∧ e.IsRightNested ∧ f.IsRightNested
  | or e f => e.strength ≠ 0 ∧ e.IsRightNested ∧ f.IsRightNested

@[simp] theorem strength_conjoin (e f : Expression) : (conjoin e f).strength = 1 := by
  cases e <;> rfl

@[simp] private theorem strength_disjoin (e f : Expression) : (disjoin e f).strength = 0 := by
  cases e <;> rfl

@[simp] private theorem strength_rightNested (e : Expression) :
    e.rightNested.strength = e.strength := by
  cases e with
  | test | not => rfl
  | and e f => exact strength_conjoin _ _
  | or e f => exact strength_disjoin _ _

@[simp] private theorem lexemes_conjoin (e f : Expression) :
    (conjoin e f).lexemes = (e.and f).lexemes := by
  induction e with
  | test | not | or => rfl
  | and e g _ ih =>
    rw [conjoin, lexemes, strength_conjoin, ih, lexemes, lexemes, lexemes]
    simp [enclose, strength]

@[simp] private theorem lexemes_disjoin (e f : Expression) :
    (disjoin e f).lexemes = (e.or f).lexemes := by
  induction e with
  | test | not | and => rfl
  | or e g _ ih =>
    rw [disjoin, lexemes, ih, lexemes, lexemes, lexemes, List.append_assoc, List.cons_append]

@[simp] theorem lexemes_rightNested (e : Expression) : e.rightNested.lexemes = e.lexemes := by
  induction e with
  | test => rfl
  | not e ih => rw [rightNested, lexemes, lexemes, ih, strength_rightNested]
  | and e f ihe ihf =>
    rw [rightNested, lexemes_conjoin, lexemes, lexemes, ihe, ihf, strength_rightNested,
      strength_rightNested]
  | or e f ihe ihf => rw [rightNested, lexemes_disjoin, lexemes, lexemes, ihe, ihf]

@[simp] theorem render_rightNested (e : Expression) : e.rightNested.render = e.render := by
  rw [render_eq_flatMap, render_eq_flatMap, lexemes_rightNested]

private theorem IsRightNested.conjoin {e f : Expression} (he : e.IsRightNested)
    (hf : f.IsRightNested) :
    (conjoin e f).IsRightNested := by
  induction e with
  | test | not | or => exact ⟨by simp [strength], he, hf⟩
  | and e g _ ih => exact ⟨he.1, he.2.1, ih he.2.2⟩

private theorem IsRightNested.disjoin {e f : Expression} (he : e.IsRightNested)
    (hf : f.IsRightNested) :
    (disjoin e f).IsRightNested := by
  induction e with
  | test | not | and => exact ⟨by simp [strength], he, hf⟩
  | or e g _ ih => exact ⟨he.1, he.2.1, ih he.2.2⟩

theorem isRightNested_rightNested (e : Expression) : e.rightNested.IsRightNested := by
  induction e with
  | test => trivial
  | not e ih => exact ih
  | and e f ihe ihf => exact ihe.conjoin ihf
  | or e f ihe ihf => exact ihe.disjoin ihf

/-! ## Reading back -/

/-- What binds as strongly as it should is derived as it is, and everything else in parentheses. -/
private theorem derives_enclose {rule : Rule} {e : Expression} {n : Nat}
    (hlit : ∀ {ls f}, Derives .literal ls f → Derives rule ls f)
    (hweak : Derives .disjunction e.lexemes e)
    (hstrong : n ≤ e.strength → Derives rule e.lexemes e) :
    Derives rule (enclose (e.strength < n) e.lexemes) e := by
  by_cases h : e.strength < n
  · rw [enclose, if_pos (decide_eq_true h)]
    exact hlit hweak.parentheses
  · rw [enclose, if_neg (by simpa using h)]
    exact hstrong (Nat.le_of_not_lt h)

/-- The units of an expression that is nested to the right are derivable for it. -/
theorem IsRightNested.derives {e : Expression} (h : e.IsRightNested) :
    Derives .disjunction e.lexemes e ∧ (1 ≤ e.strength → Derives .conjunction e.lexemes e) ∧
      (2 ≤ e.strength → Derives .literal e.lexemes e) := by
  induction e with
  | test name value =>
    have hlit := Derives.test name value
    exact ⟨hlit.conjunction_one.disjunction_one, fun _ ↦ hlit.conjunction_one, fun _ ↦ hlit⟩
  | not e ih =>
    obtain ⟨hweak, -, hstrong⟩ := ih h
    have hlit := (derives_enclose id hweak hstrong).not
    exact ⟨hlit.conjunction_one.disjunction_one, fun _ ↦ hlit.conjunction_one, fun _ ↦ hlit⟩
  | and e f ihe ihf =>
    obtain ⟨hne, he, hf⟩ := h
    obtain ⟨heweak, -, hestrong⟩ := ihe he
    obtain ⟨hfweak, hfstrong, -⟩ := ihf hf
    have hfirst : Derives .literal (enclose (e.strength < 1) e.lexemes) e :=
      derives_enclose id heweak fun h ↦ hestrong (by omega)
    have hrest : Derives .conjunction (enclose (f.strength < 1) f.lexemes) f :=
      derives_enclose Derives.conjunction_one hfweak hfstrong
    have hconj := hfirst.conjunction_more hrest
    exact ⟨hconj.disjunction_one, fun _ ↦ hconj, fun h ↦ absurd h (by simp [strength])⟩
  | or e f ihe ihf =>
    obtain ⟨hne, he, hf⟩ := h
    have hfirst := (ihe he).2.1 (Nat.one_le_iff_ne_zero.2 hne)
    exact ⟨hfirst.disjunction_more (ihf hf).1, fun h ↦ absurd h (by simp [strength]),
      fun h ↦ absurd h (by simp [strength])⟩

theorem read_render {voc : Vocabulary V} {e : Expression} (h : e.Writable voc) :
    read voc e.render = .ok e.rightNested := by
  refine read_eq_ok_iff.2 ⟨e.lexemes, ?_, ?_, h.known⟩
  · rw [render_eq_flatMap]
    exact spells_flatMap h.lexemes_writable
  · rw [← lexemes_rightNested]
    exact (isRightNested_rightNested e).derives.1

/-- **The canonical text is read back**, as an expression with the same canonical text. -/
theorem exists_read_render {voc : Vocabulary V} {e : Expression} (h : e.Writable voc) :
    ∃ f, read voc e.render = .ok f ∧ f.render = e.render :=
  ⟨e.rightNested, read_render h, render_rightNested e⟩

/-! ## Meaning and canonical text -/

section Meaning

variable {voc : Vocabulary V}

/-- Where the parts of a conjunction are put together does not matter: they are asked in the same
order, and a fault leaves the outer sequence as if it had not come from an inner one. -/
@[simp] theorem holds_conjoin (e f : Expression) (v : V) :
    (conjoin e f).holds voc v = (e.and f).holds voc v := by
  induction e with
  | test | not | or => rfl
  | and e g _ ih =>
    rw [conjoin, holds, holds, holds, ih, holds]
    rcases e.holds voc v with fault | b
    · exact congrArg Except.error (FieldFault.inSequence_inSequence fault).symm
    · cases b with
      | false => rfl
      | true => simp [mapError_bind, mapError_mapError]

@[simp] theorem holds_disjoin (e f : Expression) (v : V) :
    (disjoin e f).holds voc v = (e.or f).holds voc v := by
  induction e with
  | test | not | and => rfl
  | or e g _ ih =>
    rw [disjoin, holds, holds, holds, ih, holds]
    rcases e.holds voc v with fault | b
    · exact congrArg Except.error (FieldFault.inSequence_inSequence fault).symm
    · cases b with
      | true => rfl
      | false => simp [mapError_bind, mapError_mapError]

@[simp] theorem holds_rightNested (e : Expression) (v : V) :
    e.rightNested.holds voc v = e.holds voc v := by
  induction e with
  | test => rfl
  | not e ih => rw [rightNested, holds, holds, ih]
  | and e f ihe ihf => rw [rightNested, holds_conjoin, holds, holds, ihe, ihf]
  | or e f ihe ihf => rw [rightNested, holds_disjoin, holds, holds, ihe, ihf]

/-- **The canonical text determines the meaning**: what is read from it has the meanings of all
expressions with this text. -/
theorem holds_eq_of_render_eq {e f : Expression} (he : e.Writable voc) (hf : f.Writable voc)
    (h : e.render = f.render) : e.holds voc = f.holds voc := by
  have hread := read_render he
  rw [h, read_render hf] at hread
  funext v
  rw [← holds_rightNested e, ← Except.ok.inj hread, holds_rightNested f]

end Meaning

/-! ## Scanning canonical texts -/

open Pattern

theorem mem_enclose {l : Lexeme} {ls : List Lexeme} (b : Bool) (h : l ∈ ls) :
    l ∈ enclose b ls := by
  cases b with
  | false => exact h
  | true => exact List.mem_cons_of_mem _ (List.mem_append_left _ h)

/-- The characters that nodes are divided and ended at. -/
def nodeDelimiters : List Char := ['<', '>', '-', '\x7b', '\x7d', ':']

theorem Spells.isNameStart {c : Char} {cs : List Char} {ls : List Lexeme} (h : Spells (c :: cs) ls)
    (hblank : Text.isBlank c = false) (hsign : Lexeme.ofChar? c = none) : isNameStart c = true := by
  cases h with
  | blank hc => exact absurd hblank (by simp [hc])
  | sign hc => exact absurd hsign (by simp [hc])
  | test hc => exact hc

theorem Spells.not_mem_nodeDelimiters {c : Char} {cs : List Char} {ls : List Lexeme}
    (h : Spells (c :: cs) ls) (hc : Text.isBlank c = false) : c ∉ nodeDelimiters := by
  have hclass : ∀ d ∈ nodeDelimiters, Lexeme.ofChar? d = none ∧ Text.isWord d = false :=
    List.all_iff_forall_prop.1 (by decide)
  intro hmem
  obtain ⟨hsign, hword⟩ := hclass c hmem
  exact Text.ne_of_class (isWord_of_isNameStart (h.isNameStart hc hsign)) hword rfl

section Transparent

variable {isDelimiter : Char → Bool} (hd : ∀ c, isDelimiter c = true → c ∈ nodeDelimiters)

include hd

theorem isDelimiter_eq_false {c : Char} (hc : c ∉ nodeDelimiters) : isDelimiter c = false :=
  Bool.eq_false_iff.2 fun h ↦ hc (hd c h)

theorem isDelimiter_of_isWord {c : Char} (hc : Text.isWord c = true) : isDelimiter c = false := by
  refine isDelimiter_eq_false hd fun hmem ↦ ?_
  have hclass : ∀ d ∈ nodeDelimiters, Text.isWord d = false :=
    List.all_iff_forall_prop.1 (by decide)
  exact Text.ne_of_class hc (hclass c hmem) rfl

private theorem transparent_parenthesize {cs : List Char} (b : Bool)
    (h : ∀ depth, Transparent isDelimiter depth cs) (depth : Int) :
    Transparent isDelimiter depth (parenthesize b cs) := by
  cases b with
  | false => exact h depth
  | true =>
    refine Transparent.bracketed rfl ?_ (isDelimiter_eq_false hd (by decide))
      (isDelimiter_eq_false hd (by decide)) (h (depth + 1))
    exact congrArg ScanState.plain (Int.add_sub_cancel depth 1)

/-- A spelled test is transparent: there are no signs in its name, and its value is in quotes. -/
theorem transparent_test {name value : String} (h : Lexeme.Writable (.test name value))
    (depth : Int) : Transparent isDelimiter depth (test name value).render := by
  obtain ⟨⟨c, cs, hname, hc, hcs⟩, hvalue⟩ := h
  obtain ⟨quote, hquote, hmem, heq⟩ := exists_quoteValue_eq hvalue
  have hword : ∀ d ∈ name.toList, Text.isWord d = true := by
    rw [hname]
    exact List.forall_mem_cons.2 ⟨isWord_of_isNameStart hc, hcs⟩
  have hquote' : isDelimiter quote = false := by
    refine isDelimiter_eq_false hd ?_
    rcases hquote with rfl | rfl <;> decide
  rw [render, heq]
  refine .append (.of_forall fun d hd' ↦ ?_) (.cons (by decide)
    (isDelimiter_eq_false hd (by decide)) (.quoted hquote hquote' hmem))
  exact ⟨ScanState.not_mem_signs_of_isWord (hword d hd'), isDelimiter_of_isWord hd (hword d hd')⟩

theorem transparent_render {e : Expression} (h : ∀ l ∈ e.lexemes, l.Writable) (depth : Int) :
    Transparent isDelimiter depth e.render := by
  have hclass : ∀ c ∈ [' ', '&', '|', '!'], c ∉ ScanState.signs ∧ c ∉ nodeDelimiters :=
    List.all_iff_forall_prop.1 (by decide)
  have hfree : ∀ c ∈ [' ', '&', '|', '!'], c ∉ ScanState.signs ∧ isDelimiter c = false :=
    fun c hc ↦ ⟨(hclass c hc).1, isDelimiter_eq_false hd (hclass c hc).2⟩
  obtain ⟨hspace, hspace'⟩ := hfree ' ' (by decide)
  induction e generalizing depth with
  | test name value => exact transparent_test hd (h _ List.mem_cons_self) depth
  | not e ih =>
    have he := ih fun l hl ↦ h l (List.mem_cons_of_mem _ (mem_enclose _ hl))
    obtain ⟨hsign, hdelim⟩ := hfree '!' (by decide)
    exact .cons hsign hdelim (transparent_parenthesize hd _ he depth)
  | and e f ihe ihf =>
    have he := ihe fun l hl ↦ h l (List.mem_append_left _ (mem_enclose _ hl))
    have hf := ihf fun l hl ↦
      h l (List.mem_append_right _ (List.mem_cons_of_mem _ (mem_enclose _ hl)))
    obtain ⟨hsign, hdelim⟩ := hfree '&' (by decide)
    have hop : Transparent isDelimiter depth [' ', '&', ' '] :=
      .cons hspace hspace' (.cons hsign hdelim (.single hspace hspace'))
    exact (transparent_parenthesize hd _ he depth).append
      (hop.append (transparent_parenthesize hd _ hf depth))
  | or e f ihe ihf =>
    have he := ihe fun l hl ↦ h l (List.mem_append_left _ hl)
    have hf := ihf fun l hl ↦ h l (List.mem_append_right _ (List.mem_cons_of_mem _ hl))
    obtain ⟨hsign, hdelim⟩ := hfree '|' (by decide)
    have hop : Transparent isDelimiter depth [' ', '|', ' '] :=
      .cons hspace hspace' (.cons hsign hdelim (.single hspace hspace'))
    exact (he depth).append (hop.append (hf depth))

end Transparent

/-! ### The ends of canonical texts -/

theorem exists_render_eq_cons {e : Expression} (h : ∀ l ∈ e.lexemes, l.Writable) :
    ∃ c cs, e.render = c :: cs ∧ (isNameStart c = true ∨ c = '!' ∨ c = '(') := by
  induction e with
  | test name value =>
    obtain ⟨⟨c, cs, hname, hc, -⟩, -⟩ := h _ List.mem_cons_self
    exact ⟨c, _, by rw [render, hname, List.cons_append], .inl hc⟩
  | not e => exact ⟨'!', _, rfl, .inr (.inl rfl)⟩
  | and e f ihe _ =>
    obtain ⟨c, cs, heq, hc⟩ := ihe fun l hl ↦ h l (List.mem_append_left _ (mem_enclose _ hl))
    rw [render, parenthesize]
    split
    · exact ⟨'(', _, rfl, .inr (.inr rfl)⟩
    · exact ⟨c, _, by rw [heq, List.cons_append], hc⟩
  | or e f ihe _ =>
    obtain ⟨c, cs, heq, hc⟩ := ihe fun l hl ↦ h l (List.mem_append_left _ hl)
    exact ⟨c, _, by rw [render, heq, List.cons_append], hc⟩

private theorem exists_render_eq_append (e : Expression) :
    ∃ cs c, e.render = cs ++ [c] ∧ c ∈ ['"', '\'', ')'] := by
  induction e with
  | test name value =>
    rw [render, quoteValue]
    generalize hquote : (if value.toList.contains '"' then '\'' else '"') = quote
    refine ⟨name.toList ++ '=' :: quote :: value.toList, quote, by simp, ?_⟩
    rw [← hquote]
    split <;> decide
  | not e ih =>
    obtain ⟨cs, c, heq, hc⟩ := ih
    rw [render, parenthesize]
    split
    · exact ⟨'!' :: '(' :: e.render, ')', by simp, by decide⟩
    · exact ⟨'!' :: cs, c, by rw [heq, List.cons_append], hc⟩
  | and e f _ ihf =>
    obtain ⟨cs, c, heq, hc⟩ := ihf
    rw [render]
    generalize parenthesize (e.strength < 1) e.render = xs
    rw [parenthesize]
    split
    · exact ⟨xs ++ ' ' :: '&' :: ' ' :: '(' :: f.render, ')', by simp, by decide⟩
    · exact ⟨xs ++ ' ' :: '&' :: ' ' :: cs, c, by simp [heq], hc⟩
  | or e f _ ihf =>
    obtain ⟨cs, c, heq, hc⟩ := ihf
    exact ⟨e.render ++ ' ' :: '|' :: ' ' :: cs, c, by simp [render, heq], hc⟩

theorem trimmed_render {e : Expression} (h : ∀ l ∈ e.lexemes, l.Writable) :
    Text.Trimmed e.render := by
  constructor
  · obtain ⟨c, cs, heq, hc⟩ := exists_render_eq_cons h
    rw [heq]
    intro d hd
    obtain rfl : c = d := by simpa using hd
    rcases hc with hc | rfl | rfl
    · exact isBlank_of_isNameStart hc
    · decide
    · decide
  · obtain ⟨cs, c, heq, hc⟩ := exists_render_eq_append e
    rw [heq]
    intro d hd
    obtain rfl : c = d := by simpa using hd
    have hclass : ∀ c ∈ ['"', '\'', ')'], Text.isBlank c = false :=
      List.all_iff_forall_prop.1 (by decide)
    exact hclass c hc

end Motif.Expression
