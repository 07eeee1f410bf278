/-!
# Finding a delimiter

Pattern text is divided at delimiters, but not at those inside quotes, inside a regular expression
between slashes, or inside braces and parentheses. `scanTo` finds the first delimiter outside all of
these. It knows nothing else about the text: braces and parentheses are counted together, and what
closes before it opens counts downwards.
-/

namespace Motif.Pattern

/-- What kind of text a scan is inside of. -/
inductive ScanMode where
  | plain
  /-- Between quotes of the given kind. -/
  | quoted (quote : Char)
  /-- Between slashes. -/
  | regex
deriving DecidableEq, Repr

/-- The mode after a character of plain text. -/
def ScanMode.after (c : Char) : ScanMode :=
  if c = '"' ∨ c = '\'' then quoted c else if c = '/' then regex else plain

/-- The depth after a character of plain text. -/
def depthAfter (depth : Int) (c : Char) : Int :=
  if c = '\x7b' ∨ c = '(' then depth + 1
  else if c = '\x7d' ∨ c = ')' then depth - 1
  else depth

/-- A result of scanning, with characters before it. -/
def prepend (cs : List Char) :
    Option (List Char × Char × List Char) → Option (List Char × Char × List Char)
  | none => none
  | some (before, c, after) => some (cs ++ before, c, after)

/-- Divides a text at the first delimiter at depth zero: the text before it, the delimiter and the
text after it. -/
def scanFrom (isDelimiter : Char → Bool) :
    ScanMode → Int → List Char → Option (List Char × Char × List Char)
  | _, _, [] => none
  | .quoted quote, depth, c :: cs =>
    prepend [c] (scanFrom isDelimiter (if c = quote then .plain else .quoted quote) depth cs)
  | .regex, depth, '\\' :: c :: cs => prepend ['\\', c] (scanFrom isDelimiter .regex depth cs)
  | .regex, depth, c :: cs =>
    prepend [c] (scanFrom isDelimiter (if c = '/' then .plain else .regex) depth cs)
  | .plain, depth, c :: cs =>
    if depth = 0 ∧ isDelimiter c then some ([], c, cs)
    else prepend [c] (scanFrom isDelimiter (.after c) (depthAfter depth c) cs)

/-- Divides a text at the first delimiter outside quotes, regular expressions, braces and
parentheses. -/
def scanTo (isDelimiter : Char → Bool) (cs : List Char) : Option (List Char × Char × List Char) :=
  scanFrom isDelimiter .plain 0 cs

theorem prepend_eq_some {ds before after : List Char} {c : Char}
    {r : Option (List Char × Char × List Char)} (h : prepend ds r = some (before, c, after)) :
    ∃ before', r = some (before', c, after) ∧ before = ds ++ before' := by
  match r, h with
  | some (b, _, _), h =>
    simp only [prepend, Option.some.injEq, Prod.mk.injEq] at h
    obtain ⟨rfl, rfl, rfl⟩ := h
    exact ⟨b, rfl, rfl⟩

/-- Nothing is lost by dividing a text, and it is divided at a delimiter. -/
theorem scanFrom_eq_some {isDelimiter : Char → Bool} {mode : ScanMode} {depth : Int}
    {cs before after : List Char} {c : Char}
    (h : scanFrom isDelimiter mode depth cs = some (before, c, after)) :
    cs = before ++ c :: after ∧ isDelimiter c = true := by
  fun_induction scanFrom isDelimiter mode depth cs generalizing before with
  | case1 => simp at h
  | case2 _ _ _ _ ih | case3 _ _ _ ih | case4 _ _ _ _ ih =>
    obtain ⟨before', h', rfl⟩ := prepend_eq_some h
    obtain ⟨rfl, hc⟩ := ih h'
    exact ⟨by simp, hc⟩
  | case5 _ _ _ hd =>
    simp only [Option.some.injEq, Prod.mk.injEq] at h
    obtain ⟨rfl, rfl, rfl⟩ := h
    exact ⟨rfl, by simpa using hd.2⟩
  | case6 _ _ _ _ ih =>
    obtain ⟨before', h', rfl⟩ := prepend_eq_some h
    obtain ⟨rfl, hc⟩ := ih h'
    exact ⟨by simp, hc⟩

theorem scanTo_eq_some {isDelimiter : Char → Bool} {cs before after : List Char} {c : Char}
    (h : scanTo isDelimiter cs = some (before, c, after)) :
    cs = before ++ c :: after ∧ isDelimiter c = true := scanFrom_eq_some h

end Motif.Pattern
