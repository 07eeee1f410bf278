import Motif.Text.Runs

/-!
# Blanks

The space characters of every script: the ASCII controls from tab to carriage return and from file
separator to unit separator, the space, and the further separators of the Unicode character
database. Trimming and the skipping of space between elements use this one class.
-/

namespace Motif.Text

/-- The blank characters. -/
def blankRuns : Runs :=
  [(9, 13), (28, 32), (133, 133), (160, 160), (5760, 5760), (8192, 8202), (8232, 8233),
    (8239, 8239), (8287, 8287), (12288, 12288)]

def isBlank (c : Char) : Bool := blankRuns.has c.toNat

def trimLeft (cs : List Char) : List Char := cs.dropWhile isBlank

def trimRight (cs : List Char) : List Char := (cs.reverse.dropWhile isBlank).reverse

def trim (cs : List Char) : List Char := trimRight (trimLeft cs)

/-- The words of a text, given the characters of a word that has begun, the last first. -/
def wordsFrom (word : List Char) : List Char → List (List Char)
  | [] => if word = [] then [] else [word.reverse]
  | c :: cs =>
    if isBlank c then (if word = [] then [] else [word.reverse]) ++ wordsFrom [] cs
    else wordsFrom (c :: word) cs

/-- The words of a text: its longest runs of characters that are not blank. -/
def words (cs : List Char) : List (List Char) := wordsFrom [] cs

theorem trimLeft_suffix (cs : List Char) : trimLeft cs <:+ cs := List.dropWhile_suffix _

theorem trimRight_prefix (cs : List Char) : trimRight cs <+: cs := by
  have h := List.dropWhile_suffix (l := cs.reverse) isBlank
  simpa [trimRight] using List.reverse_prefix.2 h

theorem length_trimLeft_le (cs : List Char) : (trimLeft cs).length ≤ cs.length :=
  (trimLeft_suffix cs).length_le

theorem trimLeft_eq_self {cs : List Char} (hcs : ∀ c ∈ cs.head?, isBlank c = false) :
    trimLeft cs = cs := by
  cases cs with
  | nil => rfl
  | cons c cs => exact List.dropWhile_cons_of_neg (by simp [hcs c rfl])

theorem trimLeft_cons {c : Char} (hc : isBlank c = false) (cs : List Char) :
    trimLeft (c :: cs) = c :: cs := trimLeft_eq_self (by simpa using hc)

theorem trimLeft_append_of_isBlank {bs : List Char} (hbs : ∀ b ∈ bs, isBlank b = true)
    (cs : List Char) : trimLeft (bs ++ cs) = trimLeft cs :=
  List.dropWhile_append_of_pos hbs

/-- The blanks at the front are divided from a text that begins otherwise or is empty. -/
theorem trimLeft_append {bs cs : List Char} (hbs : ∀ b ∈ bs, isBlank b = true)
    (hcs : ∀ c ∈ cs.head?, isBlank c = false) : trimLeft (bs ++ cs) = cs := by
  rw [trimLeft_append_of_isBlank hbs, trimLeft_eq_self hcs]

theorem trimLeft_append_cons {bs : List Char} (hbs : ∀ b ∈ bs, isBlank b = true) {c : Char}
    (hc : isBlank c = false) (cs : List Char) : trimLeft (bs ++ c :: cs) = c :: cs := by
  rw [trimLeft_append_of_isBlank hbs, trimLeft_cons hc]

/-- Trimming at the front takes off blanks, and what is left does not begin with one. -/
theorem exists_blanks_trimLeft (cs : List Char) :
    ∃ bs, cs = bs ++ trimLeft cs ∧ (∀ b ∈ bs, isBlank b = true) ∧
      ∀ c ∈ (trimLeft cs).head?, isBlank c = false := by
  refine ⟨cs.takeWhile isBlank, List.takeWhile_append_dropWhile.symm, ?_, ?_⟩
  · exact List.all_eq_true.1 List.all_takeWhile
  · intro c hc
    have h := List.head?_dropWhile_not isBlank cs
    rw [trimLeft] at hc
    rw [Option.mem_def] at hc
    simpa [hc] using h

theorem isBlank_of_trimLeft {cs rest : List Char} {c : Char} (h : trimLeft cs = c :: rest) :
    isBlank c = false := by
  obtain ⟨-, -, -, hhead⟩ := exists_blanks_trimLeft cs
  rw [h] at hhead
  exact hhead c rfl

/-- Trimming at the back is trimming at the front of the text read backwards. -/
theorem trimRight_eq_reverse (cs : List Char) : trimRight cs = (trimLeft cs.reverse).reverse := rfl

theorem trimRight_eq_self {cs : List Char} (hcs : ∀ c ∈ cs.getLast?, isBlank c = false) :
    trimRight cs = cs := by
  rw [trimRight_eq_reverse, trimLeft_eq_self, List.reverse_reverse]
  rw [List.head?_reverse]
  exact hcs

/-- The blanks at the back are divided from a text that ends otherwise or is empty. -/
theorem trimRight_append {bs cs : List Char} (hbs : ∀ b ∈ bs, isBlank b = true)
    (hcs : ∀ c ∈ cs.getLast?, isBlank c = false) : trimRight (cs ++ bs) = cs := by
  rw [trimRight_eq_reverse, List.reverse_append, trimLeft_append, List.reverse_reverse]
  · exact fun b hb ↦ hbs b (List.mem_reverse.1 hb)
  · rw [List.head?_reverse]
    exact hcs

/-- Trimming at the back takes off blanks, and what is left does not end with one. -/
theorem exists_blanks_trimRight (cs : List Char) :
    ∃ bs, cs = trimRight cs ++ bs ∧ (∀ b ∈ bs, isBlank b = true) ∧
      ∀ c ∈ (trimRight cs).getLast?, isBlank c = false := by
  obtain ⟨bs, hcs, hbs, hhead⟩ := exists_blanks_trimLeft cs.reverse
  refine ⟨bs.reverse, ?_, fun b hb ↦ hbs b (List.mem_reverse.1 hb), ?_⟩
  · rw [trimRight_eq_reverse, ← List.reverse_append, ← hcs, List.reverse_reverse]
  · rw [trimRight_eq_reverse, List.getLast?_reverse]
    exact hhead

/-- A text neither begins nor ends with a blank. -/
def Trimmed (cs : List Char) : Prop :=
  (∀ c ∈ cs.head?, isBlank c = false) ∧ ∀ c ∈ cs.getLast?, isBlank c = false

theorem trim_append {bs cs bs' : List Char} (hbs : ∀ b ∈ bs, isBlank b = true)
    (hcs : Trimmed cs) (hbs' : ∀ b ∈ bs', isBlank b = true) : trim (bs ++ (cs ++ bs')) = cs := by
  cases cs with
  | nil =>
    have hall : ∀ b ∈ bs ++ bs', isBlank b = true := fun b hb ↦
      (List.mem_append.1 hb).elim (hbs b) (hbs' b)
    have hleft : trimLeft (bs ++ bs' ++ []) = [] := trimLeft_append hall (by simp)
    rw [List.append_nil] at hleft
    rw [List.nil_append, trim, hleft]
    rfl
  | cons c cs =>
    rw [trim, trimLeft_append hbs (by simpa using hcs.1), trimRight_append hbs' hcs.2]

theorem trim_of_trimmed {cs : List Char} (h : Trimmed cs) : trim cs = cs := by
  rw [trim, trimLeft_eq_self h.1, trimRight_eq_self h.2]

theorem exists_blanks_trim (cs : List Char) :
    ∃ bs bs', cs = bs ++ (trim cs ++ bs') ∧ (∀ b ∈ bs, isBlank b = true) ∧
      (∀ b ∈ bs', isBlank b = true) ∧ Trimmed (trim cs) := by
  obtain ⟨bs, hcs, hbs, hhead⟩ := exists_blanks_trimLeft cs
  obtain ⟨bs', hcs', hbs', hlast⟩ := exists_blanks_trimRight (trimLeft cs)
  refine ⟨bs, bs', by rw [trim, ← hcs', ← hcs], hbs, hbs', fun c hc ↦ hhead c ?_, hlast⟩
  obtain ⟨t, ht⟩ := List.head?_eq_some_iff.1 hc
  rw [hcs', List.head?_append, ← trim, ht]
  rfl

theorem trimmed_trim (cs : List Char) : Trimmed (trim cs) := by
  obtain ⟨-, -, -, -, -, h⟩ := exists_blanks_trim cs
  exact h

/-- Trimming leaves something of a text that has a character other than blanks. -/
theorem trim_ne_nil {cs : List Char} {c : Char} (hmem : c ∈ cs) (hc : isBlank c = false) :
    trim cs ≠ [] := by
  obtain ⟨bs, bs', hcs, hbs, hbs', -⟩ := exists_blanks_trim cs
  intro htrim
  rw [htrim, List.nil_append] at hcs
  rw [hcs, List.mem_append] at hmem
  refine Bool.false_ne_true (hc.symm.trans ?_)
  exact hmem.elim (hbs c) (hbs' c)

end Motif.Text
