import Motif.Expression.Reader
import Motif.Proofs.Expression.Spelling

/-!
# The grammar of node expressions

Three rules, one for each binding strength:

```text
disjunction := conjunction ('|' conjunction)*
conjunction := literal ('&' literal)*
literal     := '!' literal | '(' disjunction ')' | test
```

`Derives` is this grammar as a relation, with the expression that a derivation stands for. Reading
follows the rules one unit at a time, from left to right and without going back, and agrees with the
relation in both directions (`read_eq_ok_iff`). Going back is never needed because what can follow
a conjunction does not continue it, and so for a disjunction.
-/

namespace Motif.Expression

variable {V : Type}

/-- Sequences of units with a unit between any two neighbours. -/
def separated (l : Lexeme) (first : List Lexeme) (others : List (List Lexeme)) : List Lexeme :=
  first ++ others.flatMap (l :: ·)

/-- Several expressions under one operator. -/
def grouped (op : Expression → Expression → Expression) :
    Expression → List Expression → Expression
  | e, [] => e
  | e, f :: fs => op e (grouped op f fs)

/-- The units are derivable by a rule, and the derivation stands for the expression. -/
inductive Derives : Rule → List Lexeme → Expression → Prop where
  /-- Conjunctions with `|` between them. -/
  | disjunction (first : List Lexeme × Expression) (others : List (List Lexeme × Expression))
      (parts : ∀ x ∈ first :: others, Derives .conjunction x.1 x.2) :
      Derives .disjunction (separated .or first.1 (others.map Prod.fst))
        (grouped .or first.2 (others.map Prod.snd))
  /-- Literals with `&` between them. -/
  | conjunction (first : List Lexeme × Expression) (others : List (List Lexeme × Expression))
      (parts : ∀ x ∈ first :: others, Derives .literal x.1 x.2) :
      Derives .conjunction (separated .and first.1 (others.map Prod.fst))
        (grouped .and first.2 (others.map Prod.snd))
  /-- A literal behind `!`. -/
  | not {ls : List Lexeme} {e : Expression} (inner : Derives .literal ls e) :
      Derives .literal (.not :: ls) (.not e)
  /-- A disjunction in parentheses. -/
  | parentheses {ls : List Lexeme} {e : Expression} (inner : Derives .disjunction ls e) :
      Derives .literal (.openParen :: ls ++ [.closeParen]) e
  /-- An attribute test. -/
  | test (name value : String) : Derives .literal [.test name value] (.test name value)

/-- The names of all tests among the units are known. -/
def KnownNames (voc : Vocabulary V) (ls : List Lexeme) : Prop :=
  ∀ name value, Lexeme.test name value ∈ ls → voc.knows name = true

/-! ## Derivations one part at a time -/

theorem Derives.disjunction_one {ls : List Lexeme} {e : Expression}
    (h : Derives .conjunction ls e) : Derives .disjunction ls e := by
  have h' := Derives.disjunction (ls, e) [] (by simpa using h)
  simpa [separated, grouped] using h'

theorem Derives.disjunction_more {ls ms : List Lexeme} {e f : Expression}
    (h : Derives .conjunction ls e) (h' : Derives .disjunction ms f) :
    Derives .disjunction (ls ++ .or :: ms) (.or e f) := by
  cases h' with
  | disjunction first others parts =>
    have hall := Derives.disjunction (ls, e) (first :: others) (List.forall_mem_cons.2 ⟨h, parts⟩)
    simpa [separated, grouped] using hall

theorem Derives.conjunction_one {ls : List Lexeme} {e : Expression}
    (h : Derives .literal ls e) : Derives .conjunction ls e := by
  have h' := Derives.conjunction (ls, e) [] (by simpa using h)
  simpa [separated, grouped] using h'

theorem Derives.conjunction_more {ls ms : List Lexeme} {e f : Expression}
    (h : Derives .literal ls e) (h' : Derives .conjunction ms f) :
    Derives .conjunction (ls ++ .and :: ms) (.and e f) := by
  cases h' with
  | conjunction first others parts =>
    have hall := Derives.conjunction (ls, e) (first :: others) (List.forall_mem_cons.2 ⟨h, parts⟩)
    simpa [separated, grouped] using hall

/-! ## Soundness -/

/-- Reading by a rule takes units from the front, and leaves the others. -/
def Reads (voc : Vocabulary V) (source : List Char) (rule : Rule) (ls : List Placed)
    (e : Expression) (rest : List Placed) : Prop :=
  ∃ h, readBy voc source rule ls = .ok (e, ⟨rest, h⟩)

theorem KnownNames.append {voc : Vocabulary V} {ls ms : List Lexeme} (hls : KnownNames voc ls)
    (hms : KnownNames voc ms) : KnownNames voc (ls ++ ms) := by
  intro name value h
  rcases List.mem_append.1 h with h | h
  · exact hls name value h
  · exact hms name value h

theorem knownNames_cons_iff {voc : Vocabulary V} {l : Lexeme} {ls : List Lexeme}
    (hl : ∀ name value, l ≠ .test name value) : KnownNames voc (l :: ls) ↔ KnownNames voc ls := by
  constructor
  · exact fun h name value hmem ↦ h name value (List.mem_cons_of_mem l hmem)
  · intro h name value hmem
    rcases List.mem_cons.1 hmem with heq | hmem
    · exact absurd heq.symm (hl name value)
    · exact h name value hmem

/-- What has been read by a rule is derivable by it, and its names are known. -/
theorem derives_of_readBy {voc : Vocabulary V} {source : List Char} {rule : Rule}
    {ls rest : List Placed} {e : Expression} (hread : Reads voc source rule ls e rest) :
    ∃ used, ls = used ++ rest ∧ Derives rule (used.map Placed.lexeme) e ∧
      KnownNames voc (used.map Placed.lexeme) := by
  obtain ⟨h, hread⟩ := hread
  fun_induction readBy voc source rule ls generalizing rest e with
  | case1 | case2 | case5 | case6 | case9 | case10 | case12 | case14 | case16 | case17 =>
    exact absurd hread (by simp)
  | case3 ls e₁ p rest₁ _ hfirst _ e₂ rest₂ _ hmore ihfirst ihmore =>
    obtain ⟨used, hls, hd, hk⟩ := ihfirst _ hfirst
    obtain ⟨used', hrest, hd', hk'⟩ := ihmore _ hmore
    obtain ⟨rfl, rfl⟩ : Expression.or e₁ e₂ = e ∧ rest₂ = rest := by simpa using hread
    refine ⟨used ++ ⟨.or, p⟩ :: used', by rw [hls, hrest, List.append_assoc, List.cons_append],
      ?_, ?_⟩
    · rw [List.map_append, List.map_cons]
      exact hd.disjunction_more hd'
    · rw [List.map_append, List.map_cons]
      exact hk.append ((knownNames_cons_iff (by simp)).2 hk')
  | case4 ls e' rest' _ hfirst ih =>
    obtain ⟨rfl, rfl⟩ : e' = e ∧ rest' = ⟨rest, h⟩ := by simpa using hread
    obtain ⟨used, hls, hd, hk⟩ := ih _ hfirst
    exact ⟨used, hls, hd.disjunction_one, hk⟩
  | case7 ls e₁ p rest₁ _ hfirst _ e₂ rest₂ _ hmore ihfirst ihmore =>
    obtain ⟨used, hls, hd, hk⟩ := ihfirst _ hfirst
    obtain ⟨used', hrest, hd', hk'⟩ := ihmore _ hmore
    obtain ⟨rfl, rfl⟩ : Expression.and e₁ e₂ = e ∧ rest₂ = rest := by simpa using hread
    refine ⟨used ++ ⟨.and, p⟩ :: used', by rw [hls, hrest, List.append_assoc, List.cons_append],
      ?_, ?_⟩
    · rw [List.map_append, List.map_cons]
      exact hd.conjunction_more hd'
    · rw [List.map_append, List.map_cons]
      exact hk.append ((knownNames_cons_iff (by simp)).2 hk')
  | case8 ls e' rest' _ hfirst ih =>
    obtain ⟨rfl, rfl⟩ : e' = e ∧ rest' = ⟨rest, h⟩ := by simpa using hread
    obtain ⟨used, hls, hd, hk⟩ := ih _ hfirst
    exact ⟨used, hls, hd.conjunction_one, hk⟩
  | case11 p rest₁ f rest₂ _ hinner ih =>
    obtain ⟨used, hrest, hd, hk⟩ := ih _ hinner
    obtain ⟨rfl, rfl⟩ : Expression.not f = e ∧ rest₂ = rest := by simpa using hread
    refine ⟨⟨.not, p⟩ :: used, by rw [hrest, List.cons_append], hd.not, ?_⟩
    exact (knownNames_cons_iff (by simp)).2 hk
  | case13 p rest₁ f q rest₂ _ hinner ih =>
    obtain ⟨used, hrest, hd, hk⟩ := ih _ hinner
    obtain ⟨rfl, rfl⟩ : f = e ∧ rest₂ = rest := by simpa using hread
    refine ⟨⟨.openParen, p⟩ :: (used ++ [⟨.closeParen, q⟩]), ?_, ?_, ?_⟩
    · rw [hrest, List.cons_append, List.append_assoc, List.singleton_append]
    · rw [List.map_cons, List.map_append]
      exact hd.parentheses
    · rw [List.map_cons, knownNames_cons_iff (by simp), List.map_append]
      exact hk.append ((knownNames_cons_iff (by simp)).2 fun _ _ h ↦ absurd h List.not_mem_nil)
  | case15 name value p rest₁ hknows =>
    obtain ⟨rfl, rfl⟩ : Expression.test name value = e ∧ rest₁ = rest := by simpa using hread
    refine ⟨[⟨.test name value, p⟩], rfl, .test name value, fun n v hmem ↦ ?_⟩
    obtain ⟨rfl, -⟩ : n = name ∧ v = value := by simpa using hmem
    exact hknows

/-! ## Completeness -/

section Completeness

variable {voc : Vocabulary V} {source : List Char} {ls rest rest' : List Placed}
  {e f : Expression} {p : Nat}

private theorem Reads.disjunction_more (h : Reads voc source .conjunction ls e (⟨.or, p⟩ :: rest))
    (h' : Reads voc source .disjunction rest f rest') :
    Reads voc source .disjunction ls (.or e f) rest' := by
  obtain ⟨hlt, h⟩ := h
  obtain ⟨hlt', h'⟩ := h'
  rw [List.length_cons] at hlt
  refine ⟨by omega, ?_⟩
  rw [readBy]
  simp only [h, h']

private theorem Reads.disjunction_one (h : Reads voc source .conjunction ls e rest)
    (hend : ∀ l ∈ rest.head?, l.lexeme ≠ .or) : Reads voc source .disjunction ls e rest := by
  obtain ⟨hlt, h⟩ := h
  refine ⟨hlt, ?_⟩
  rw [readBy, h]
  split
  · next heq => exact absurd heq (by simp)
  · next heq =>
    obtain ⟨-, rfl⟩ : e = _ ∧ rest = _ := by simpa using heq
    exact absurd rfl (hend _ rfl)
  · next heq => exact heq.symm

private theorem Reads.conjunction_more (h : Reads voc source .literal ls e (⟨.and, p⟩ :: rest))
    (h' : Reads voc source .conjunction rest f rest') :
    Reads voc source .conjunction ls (.and e f) rest' := by
  obtain ⟨hlt, h⟩ := h
  obtain ⟨hlt', h'⟩ := h'
  rw [List.length_cons] at hlt
  refine ⟨by omega, ?_⟩
  rw [readBy]
  simp only [h, h']

private theorem Reads.conjunction_one (h : Reads voc source .literal ls e rest)
    (hend : ∀ l ∈ rest.head?, l.lexeme ≠ .and) : Reads voc source .conjunction ls e rest := by
  obtain ⟨hlt, h⟩ := h
  refine ⟨hlt, ?_⟩
  rw [readBy, h]
  split
  · next heq => exact absurd heq (by simp)
  · next heq =>
    obtain ⟨-, rfl⟩ : e = _ ∧ rest = _ := by simpa using heq
    exact absurd rfl (hend _ rfl)
  · next heq => exact heq.symm

private theorem Reads.not (h : Reads voc source .literal ls e rest) :
    Reads voc source .literal (⟨.not, p⟩ :: ls) (.not e) rest := by
  obtain ⟨hlt, h⟩ := h
  refine ⟨Nat.lt_succ_of_lt hlt, ?_⟩
  rw [readBy]
  simp only [h]

private theorem Reads.parentheses {q : Nat}
    (h : Reads voc source .disjunction ls e (⟨.closeParen, q⟩ :: rest)) :
    Reads voc source .literal (⟨.openParen, p⟩ :: ls) e rest := by
  obtain ⟨hlt, h⟩ := h
  rw [List.length_cons] at hlt
  refine ⟨by rw [List.length_cons]; omega, ?_⟩
  rw [readBy]
  simp only [h]

private theorem Reads.test {name value : String} (h : voc.knows name = true) :
    Reads voc source .literal (⟨.test name value, p⟩ :: rest) (.test name value) rest := by
  refine ⟨Nat.lt_succ_self _, ?_⟩
  rw [readBy, if_pos h]

/-- What follows does not continue what has been read by the rule. -/
def Rule.EndsAt : Rule → List Placed → Prop
  | disjunction, rest => ∀ l ∈ rest.head?, l.lexeme ≠ .or ∧ l.lexeme ≠ .and
  | conjunction, rest => ∀ l ∈ rest.head?, l.lexeme ≠ .and
  | literal, _ => True

/-- Every sequence of units that is known to be derivable is read, whatever follows it. -/
def ReadsAll (voc : Vocabulary V) (source : List Char) (rule : Rule) (ls : List Lexeme)
    (e : Expression) : Prop :=
  KnownNames voc ls → ∀ placed rest : List Placed, placed.map Placed.lexeme = ls →
    rule.EndsAt rest → Reads voc source rule (placed ++ rest) e rest

/-- Reading parts with a unit between them. `hmore` and `hone` say how reading by a rule goes on
after a part that is followed by the unit, and that it ends otherwise. -/
private theorem readsAll_separated {rule part : Rule} {l : Lexeme}
    {op : Expression → Expression → Expression} (hl : ∀ name value, l ≠ .test name value)
    (hpart : ∀ p rest, part.EndsAt (⟨l, p⟩ :: rest))
    (hmore : ∀ {ls e p rest f rest'}, Reads voc source part ls e (⟨l, p⟩ :: rest) →
      Reads voc source rule rest f rest' → Reads voc source rule ls (op e f) rest')
    (hone : ∀ {ls e rest}, Reads voc source part ls e rest → rule.EndsAt rest →
      Reads voc source rule ls e rest)
    (hends : ∀ rest, rule.EndsAt rest → part.EndsAt rest)
    (first : List Lexeme × Expression) (others : List (List Lexeme × Expression))
    (h : ∀ x ∈ first :: others, ReadsAll voc source part x.1 x.2) :
    ReadsAll voc source rule (separated l first.1 (others.map Prod.fst))
      (grouped op first.2 (others.map Prod.snd)) := by
  induction others generalizing first with
  | nil =>
    intro hk placed rest hplaced hend
    rw [List.map_nil, separated, List.flatMap_nil, List.append_nil] at hk hplaced
    exact hone (h first List.mem_cons_self hk placed rest hplaced (hends rest hend)) hend
  | cons second others ih =>
    intro hk placed rest hplaced hend
    have hsplit : separated l first.1 ((second :: others).map Prod.fst) =
        first.1 ++ l :: separated l second.1 (others.map Prod.fst) := by
      simp [separated]
    rw [hsplit] at hk hplaced
    obtain ⟨before, behind, rfl, hbefore, hbehind⟩ := List.map_eq_append_iff.1 hplaced
    obtain ⟨⟨l', p⟩, after, rfl, hl', hafter⟩ := List.map_eq_cons_iff.1 hbehind
    obtain rfl : l = l' := hl'.symm
    have hk₁ : KnownNames voc first.1 := fun n v hm ↦ hk n v (List.mem_append_left _ hm)
    have hk₂ : KnownNames voc (separated l second.1 (others.map Prod.fst)) :=
      (knownNames_cons_iff hl).1 fun n v hm ↦ hk n v (List.mem_append_right _ hm)
    have hfirst := h first List.mem_cons_self hk₁ before (⟨l, p⟩ :: (after ++ rest)) hbefore
      (hpart p _)
    have hrest := ih second (fun x hx ↦ h x (List.mem_cons_of_mem _ hx)) hk₂ after rest hafter hend
    rw [List.append_assoc]
    exact hmore hfirst hrest

theorem Derives.readsAll {rule : Rule} {ls : List Lexeme} (h : Derives rule ls e) :
    ReadsAll voc source rule ls e := by
  induction h with
  | disjunction first others _ ih =>
    exact readsAll_separated (by simp) (by simp [Rule.EndsAt]) Reads.disjunction_more
      (fun h hend ↦ h.disjunction_one fun l hl ↦ (hend l hl).1)
      (fun rest hend l hl ↦ (hend l hl).2) first others ih
  | conjunction first others _ ih =>
    exact readsAll_separated (by simp) (by simp [Rule.EndsAt]) Reads.conjunction_more
      Reads.conjunction_one (fun rest _ ↦ trivial) first others ih
  | not _ ih =>
    intro hk placed rest hplaced _
    obtain ⟨⟨_, p⟩, placed, rfl, rfl, hinner⟩ := List.map_eq_cons_iff.1 hplaced
    exact (ih ((knownNames_cons_iff (by simp)).1 hk) placed rest hinner trivial).not
  | @parentheses ls e _ ih =>
    intro hk placed rest hplaced _
    rw [List.cons_append] at hk hplaced
    obtain ⟨⟨_, p⟩, placed, rfl, rfl, hbody⟩ := List.map_eq_cons_iff.1 hplaced
    obtain ⟨inner, closing, rfl, hinner, hclosing⟩ := List.map_eq_append_iff.1 hbody
    obtain ⟨⟨_, q⟩, _, rfl, rfl, hnil⟩ := List.map_eq_cons_iff.1 hclosing
    obtain rfl := List.map_eq_nil_iff.1 hnil
    have hk' : KnownNames voc ls := fun n v hm ↦
      hk n v (List.mem_cons_of_mem _ (List.mem_append_left _ hm))
    have hread := ih hk' inner (⟨.closeParen, q⟩ :: rest) hinner (by simp [Rule.EndsAt])
    rw [List.cons_append, List.append_assoc]
    exact hread.parentheses
  | test name value =>
    intro hk placed rest hplaced _
    obtain ⟨⟨_, p⟩, _, rfl, rfl, hnil⟩ := List.map_eq_cons_iff.1 hplaced
    obtain rfl := List.map_eq_nil_iff.1 hnil
    exact Reads.test (hk name value List.mem_cons_self)

end Completeness

/-! ## Whole expressions -/

theorem Derives.ne_nil {rule : Rule} {ls : List Lexeme} {e : Expression} (h : Derives rule ls e) :
    ls ≠ [] := by
  induction h with
  | disjunction first others _ ih | conjunction first others _ ih =>
    intro hnil
    exact ih first List.mem_cons_self (List.append_eq_nil_iff.1 hnil).1
  | not | parentheses | test => simp

/-- Reading a text gives an expression exactly if its units are derivable for the expression and
have known names. -/
theorem read_eq_ok_iff {voc : Vocabulary V} {cs : List Char} {e : Expression} :
    read voc cs = .ok e ↔ ∃ ls, Spells cs ls ∧ Derives .disjunction ls e ∧ KnownNames voc ls := by
  constructor
  · intro h
    obtain ⟨placed, hlex, h⟩ := bind_eq_ok_iff.1 h
    split at h
    · exact absurd h (by simp)
    · obtain ⟨⟨e', rest, hlt⟩, hread, h⟩ := bind_eq_ok_iff.1 h
      obtain ⟨used, hused, hd, hk⟩ := derives_of_readBy ⟨hlt, hread⟩
      cases rest with
      | nil =>
        obtain rfl : e' = e := Except.ok.inj h
        rw [List.append_nil] at hused
        rw [← hused] at hd hk
        exact ⟨placed.map Placed.lexeme, exists_lex_iff.1 ⟨placed, hlex, rfl⟩, hd, hk⟩
      | cons l rest => exact absurd h (by simp)
  · rintro ⟨ls, hs, hd, hk⟩
    obtain ⟨placed, hlex, rfl⟩ := exists_lex_iff.2 hs
    have hne : placed.isEmpty = false := by
      cases placed with
      | nil => exact absurd rfl hd.ne_nil
      | cons => rfl
    have hall : Reads voc cs .disjunction (placed ++ []) e [] :=
      hd.readsAll hk placed [] rfl (by simp [Rule.EndsAt])
    rw [List.append_nil] at hall
    obtain ⟨hlt, hread⟩ := hall
    refine bind_eq_ok_iff.2 ⟨placed, hlex, ?_⟩
    rw [hne, hread]
    rfl

theorem compile_eq_ok_iff {voc : Vocabulary V} {cs : List Char} {offset : Int} {t : NodeTest V} :
    compile voc cs offset = .ok t ↔ ∃ e, read voc cs = .ok e ∧ e.toTest voc = t := by
  rw [compile]
  cases read voc cs with
  | error fault => exact ⟨fun h ↦ absurd h (by simp), fun ⟨e, h, _⟩ ↦ absurd h (by simp)⟩
  | ok e =>
    constructor
    · exact fun h ↦ ⟨e, rfl, Except.ok.inj h⟩
    · rintro ⟨e', h, rfl⟩
      rw [Except.ok.inj h]

end Motif.Expression
