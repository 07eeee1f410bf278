import Motif.Pattern.Scan
import Motif.Proofs.Text.Classes

/-!
# Scanning one character at a time

A scan for a delimiter is an automaton: what it does with a character depends on the state that the
characters before it have led to, and which delimiter is looked for does not change the states. A
text can therefore be followed piece by piece. A delimiter is found at the first place where the
state is open and the character is one (`scanTo_eq_some_iff`); `Passes` says that there is no such
place, and a text that passes and leads back to the state it started in is `Transparent`.
-/

namespace Motif.Pattern

/-- What a scan remembers of the characters before. -/
inductive ScanState where
  /-- The scan is inside a kind of text, at a depth. -/
  | inside (mode : ScanMode) (depth : Int)
  /-- The scan is inside a regular expression, right after a backslash. -/
  | escaped (depth : Int)
deriving DecidableEq

namespace ScanState

/-- The state outside quotes and regular expressions. -/
def plain (depth : Int) : ScanState := inside .plain depth

def next : ScanState → Char → ScanState
  | inside .plain depth, c => inside (.after c) (depthAfter depth c)
  | inside (.quoted quote) depth, c => inside (if c = quote then .plain else .quoted quote) depth
  | inside .regex depth, c =>
    if c = '\\' then escaped depth else inside (if c = '/' then .plain else .regex) depth
  | escaped depth, _ => inside .regex depth

def run (s : ScanState) (cs : List Char) : ScanState := cs.foldl next s

def shift (k : Int) : ScanState → ScanState
  | inside mode depth => inside mode (depth + k)
  | escaped depth => escaped (depth + k)

variable {s : ScanState} {k : Int}

@[simp] theorem run_nil : s.run [] = s := rfl

@[simp] theorem run_cons (c : Char) (cs : List Char) : s.run (c :: cs) = (s.next c).run cs := rfl

@[simp] theorem run_append (xs ys : List Char) : s.run (xs ++ ys) = (s.run xs).run ys :=
  List.foldl_append

private theorem depthAfter_add (depth k : Int) (c : Char) :
    depthAfter (depth + k) c = depthAfter depth c + k := by
  unfold depthAfter
  split
  · omega
  · split <;> omega

/-- The depth does not matter for the course of a scan. -/
@[simp] private theorem next_shift (c : Char) : (s.shift k).next c = (s.next c).shift k := by
  match s with
  | inside .plain depth => simp only [shift, next, depthAfter_add]
  | inside (.quoted quote) depth => rfl
  | inside .regex depth =>
    simp only [shift, next]
    split <;> rfl
  | escaped depth => rfl

@[simp] private theorem run_shift (cs : List Char) : (s.shift k).run cs = (s.run cs).shift k := by
  induction cs generalizing s with
  | nil => rfl
  | cons c cs ih => rw [run_cons, run_cons, next_shift, ih]

theorem run_plain_of_run_plain {cs : List Char} {depth : Int}
    (h : (plain depth).run cs = plain depth) (depth' : Int) :
    (plain depth').run cs = plain depth' := by
  have hshift : (plain depth).shift (depth' - depth) = plain depth' := by
    rw [plain, shift, plain, Int.add_comm, Int.sub_add_cancel]
  rw [← hshift, run_shift, h]

/-! ## Signs and blanks -/

/-- The characters that lead out of an open state. -/
def signs : List Char := ['"', '\'', '/', '\x7b', '(', '\x7d', ')']

theorem not_mem_signs {p : Char → Bool} {c : Char} (hc : p c = true)
    (hp : ∀ d ∈ signs, p d = false) : c ∉ signs :=
  fun h ↦ Text.ne_of_class hc (hp c h) rfl

theorem not_mem_signs_of_isBlank {c : Char} (hc : Text.isBlank c = true) : c ∉ signs :=
  not_mem_signs hc (List.all_iff_forall_prop.1 (by decide))

theorem not_mem_signs_of_isWord {c : Char} (hc : Text.isWord c = true) : c ∉ signs :=
  not_mem_signs hc (List.all_iff_forall_prop.1 (by decide))

theorem next_plain {c : Char} (hc : c ∉ signs) (depth : Int) :
    (plain depth).next c = plain depth := by
  simp only [signs, List.mem_cons, List.not_mem_nil, or_false, not_or] at hc
  simp [plain, next, ScanMode.after, depthAfter, hc]

theorem run_plain {cs : List Char} (hcs : ∀ c ∈ cs, c ∉ signs) (depth : Int) :
    (plain depth).run cs = plain depth := by
  induction cs with
  | nil => rfl
  | cons c cs ih =>
    rw [run_cons, next_plain (hcs c List.mem_cons_self)]
    exact ih fun d hd ↦ hcs d (List.mem_cons_of_mem c hd)

theorem run_plain_of_isBlank {bs : List Char} (hbs : ∀ b ∈ bs, Text.isBlank b = true)
    (depth : Int) : (plain depth).run bs = plain depth :=
  run_plain (fun b hb ↦ not_mem_signs_of_isBlank (hbs b hb)) depth

/-- Quotes are signs. This holds of every state that a scan is in. -/
def Proper : ScanState → Prop
  | inside (.quoted quote) _ => quote ∈ signs
  | _ => True

theorem proper_plain (depth : Int) : (plain depth).Proper := trivial

theorem Proper.next (h : s.Proper) (c : Char) : (s.next c).Proper := by
  match s with
  | inside .plain d =>
    rw [ScanState.next, ScanMode.after]
    split
    · next hc =>
      show c ∈ signs
      rcases hc with rfl | rfl <;> decide
    · split <;> trivial
  | inside (.quoted quote) d =>
    rw [ScanState.next]
    split
    · trivial
    · exact h
  | inside .regex d =>
    rw [ScanState.next]
    split
    · trivial
    · split <;> trivial
  | escaped d => trivial

private theorem Proper.run (h : s.Proper) (cs : List Char) : (s.run cs).Proper := by
  induction cs generalizing s with
  | nil => exact h
  | cons c cs ih => exact ih (h.next c)

private theorem Proper.eq_plain_of_next (hs : s.Proper) {c : Char} (hc : c ∉ signs) {depth : Int}
    (h : s.next c = plain depth) : s = plain depth := by
  match s with
  | inside .plain d =>
    rw [← h]
    exact (next_plain hc d).symm
  | inside (.quoted quote) d =>
    have hne : c ≠ quote := fun hcq ↦ hc (hcq ▸ hs)
    rw [ScanState.next, if_neg hne] at h
    exact absurd h (by simp [plain])
  | inside .regex d =>
    have hne : c ≠ '/' := fun hcq ↦ hc (by rw [hcq]; decide)
    rw [ScanState.next, if_neg hne] at h
    split at h <;> exact absurd h (by simp [plain])
  | escaped d => exact absurd h (by simp [ScanState.next, plain])

/-- Characters at the end that are no signs lead to an open state only from that state. -/
theorem Proper.run_eq_plain {cs bs : List Char} (hs : s.Proper) (hbs : ∀ b ∈ bs, b ∉ signs)
    {depth : Int} (h : s.run (cs ++ bs) = plain depth) : s.run cs = plain depth := by
  rw [run_append] at h
  have hproper := hs.run cs
  generalize s.run cs = t at h hproper
  induction bs generalizing t with
  | nil => exact h
  | cons b bs ih =>
    refine hproper.eq_plain_of_next (hbs b List.mem_cons_self) ?_
    exact ih (fun c hc ↦ hbs c (List.mem_cons_of_mem b hc)) _ h (hproper.next b)

end ScanState

open ScanState

/-! ## Finding a delimiter -/

/-- No character is a delimiter that is met in the open state at depth zero. -/
def Passes (isDelimiter : Char → Bool) : ScanState → List Char → Prop
  | _, [] => True
  | s, c :: cs => ¬ (s = plain 0 ∧ isDelimiter c = true) ∧ Passes isDelimiter (s.next c) cs

/-- Divides a text at the first delimiter, one character at a time. -/
def scanState (isDelimiter : Char → Bool) :
    ScanState → List Char → Option (List Char × Char × List Char)
  | _, [] => none
  | s, c :: cs =>
    if s = plain 0 ∧ isDelimiter c = true then some ([], c, cs)
    else prepend [c] (scanState isDelimiter (s.next c) cs)

section Scan

variable {isDelimiter : Char → Bool} {s : ScanState}

theorem passes_append {xs ys : List Char} :
    Passes isDelimiter s (xs ++ ys) ↔
      Passes isDelimiter s xs ∧ Passes isDelimiter (s.run xs) ys := by
  induction xs generalizing s with
  | nil => exact (and_iff_right trivial).symm
  | cons x xs ih =>
    rw [List.cons_append, Passes, Passes, ih, run_cons, and_assoc]

private theorem scanState_cons_of_ne {c : Char} {cs : List Char} (h : s ≠ plain 0) :
    scanState isDelimiter s (c :: cs) = prepend [c] (scanState isDelimiter (s.next c) cs) := by
  rw [scanState, if_neg fun hs ↦ h hs.1]

@[simp] private theorem prepend_prepend (xs ys : List Char)
    (r : Option (List Char × Char × List Char)) :
    prepend xs (prepend ys r) = prepend (xs ++ ys) r := by
  cases r with
  | none => rfl
  | some r => rw [prepend, prepend, prepend, List.append_assoc]

theorem scanFrom_eq_scanState (mode : ScanMode) (depth : Int) (cs : List Char) :
    scanFrom isDelimiter mode depth cs = scanState isDelimiter (inside mode depth) cs := by
  fun_induction scanFrom isDelimiter mode depth cs with
  | case1 => rfl
  | case2 quote depth c cs ih =>
    rw [ih, scanState_cons_of_ne (by simp [plain]), next]
  | case3 depth c cs ih =>
    rw [ih, scanState_cons_of_ne (by simp [plain]), next, if_pos rfl,
      scanState_cons_of_ne (by simp [plain]), next, prepend_prepend, List.singleton_append]
  | case4 depth c cs hescape ih =>
    rw [ih, scanState_cons_of_ne (by simp [plain]), next]
    by_cases hc : c = '\\'
    · -- A backslash with nothing behind it finds no delimiter, escaped or not.
      cases cs with
      | nil => rfl
      | cons d cs => exact absurd rfl (hescape d cs hc)
    · rw [if_neg hc]
  | case5 depth c cs h => rw [scanState, if_pos ⟨by rw [h.1]; rfl, h.2⟩]
  | case6 depth c cs h ih =>
    rw [ih, scanState, if_neg fun hs ↦ h ⟨by simpa [plain] using hs.1, hs.2⟩, next]

private theorem prepend_eq_some_iff {ds before after : List Char} {c : Char}
    {r : Option (List Char × Char × List Char)} :
    prepend ds r = some (before, c, after) ↔
      ∃ before', r = some (before', c, after) ∧ before = ds ++ before' := by
  refine ⟨prepend_eq_some, ?_⟩
  rintro ⟨before', rfl, rfl⟩
  rfl

theorem scanState_eq_some_iff {cs before after : List Char} {c : Char} :
    scanState isDelimiter s cs = some (before, c, after) ↔
      cs = before ++ c :: after ∧ Passes isDelimiter s before ∧ s.run before = plain 0 ∧
        isDelimiter c = true := by
  induction cs generalizing s before with
  | nil => exact ⟨fun h ↦ absurd h (by simp [scanState]), fun h ↦ absurd h.1 (by simp)⟩
  | cons d cs ih =>
    rw [scanState]
    split
    · next hd =>
      constructor
      · intro h
        obtain ⟨rfl, rfl, rfl⟩ : [] = before ∧ d = c ∧ cs = after := by simpa using h
        exact ⟨rfl, trivial, hd⟩
      · rintro ⟨hcs, hpasses, -⟩
        cases before with
        | nil =>
          obtain ⟨rfl, rfl⟩ := List.cons_eq_cons.1 hcs
          rfl
        | cons b before =>
          obtain ⟨rfl, -⟩ := List.cons_eq_cons.1 hcs
          exact absurd hd hpasses.1
    · next hd =>
      rw [prepend_eq_some_iff]
      constructor
      · rintro ⟨before', h, rfl⟩
        obtain ⟨rfl, hpasses, hrun, hc⟩ := ih.1 h
        exact ⟨rfl, ⟨hd, hpasses⟩, hrun, hc⟩
      · rintro ⟨hcs, hpasses, hrun, hc⟩
        cases before with
        | nil =>
          obtain ⟨rfl, -⟩ := List.cons_eq_cons.1 hcs
          exact absurd ⟨hrun, hc⟩ hd
        | cons b before =>
          obtain ⟨rfl, rfl⟩ := List.cons_eq_cons.1 hcs
          exact ⟨before, ih.2 ⟨rfl, hpasses.2, hrun, hc⟩, rfl⟩

theorem scanTo_eq_some_iff {cs before after : List Char} {c : Char} :
    scanTo isDelimiter cs = some (before, c, after) ↔
      cs = before ++ c :: after ∧ Passes isDelimiter (plain 0) before ∧
        (plain 0).run before = plain 0 ∧ isDelimiter c = true := by
  rw [scanTo, scanFrom_eq_scanState]
  exact scanState_eq_some_iff

theorem scanTo_eq_none {cs : List Char} (h : Passes isDelimiter (plain 0) cs) :
    scanTo isDelimiter cs = none := by
  cases hscan : scanTo isDelimiter cs with
  | none => rfl
  | some r =>
    obtain ⟨before, c, after⟩ := r
    obtain ⟨rfl, -, hrun, hc⟩ := scanTo_eq_some_iff.1 hscan
    have hrest := (passes_append.1 h).2
    exact absurd ⟨hrun, hc⟩ hrest.1

theorem passes_of_scanTo {cs : List Char} (h : scanTo isDelimiter cs = none) :
    Passes isDelimiter (plain 0) cs := by
  rw [scanTo, scanFrom_eq_scanState] at h
  change scanState isDelimiter (plain 0) cs = none at h
  generalize plain 0 = s at h
  induction cs generalizing s with
  | nil => trivial
  | cons c cs ih =>
    rw [scanState] at h
    split at h
    · exact absurd h (by simp)
    · next hc =>
      refine ⟨hc, ih _ ?_⟩
      cases hrest : scanState isDelimiter (s.next c) cs with
      | none => rfl
      | some r => rw [hrest] at h; exact absurd h (by simp [prepend])

theorem passes_of_forall {cs : List Char} (h : ∀ c ∈ cs, isDelimiter c = false)
    (s : ScanState) : Passes isDelimiter s cs := by
  induction cs generalizing s with
  | nil => trivial
  | cons c cs ih =>
    refine ⟨fun hc ↦ ?_, ih (fun d hd ↦ h d (List.mem_cons_of_mem c hd)) _⟩
    rw [h c List.mem_cons_self] at hc
    exact Bool.false_ne_true hc.2

end Scan

/-! ## Transparent texts -/

/-- A scan passes over the text at a depth, and ends up where it was. -/
structure Transparent (isDelimiter : Char → Bool) (depth : Int) (cs : List Char) : Prop where
  /-- There is no delimiter in the text. -/
  passes : Passes isDelimiter (plain depth) cs
  /-- What is opened in the text is closed in it. -/
  closed : (plain depth).run cs = plain depth

namespace Transparent

variable {isDelimiter : Char → Bool} {depth : Int} {xs ys cs bs : List Char}

theorem nil : Transparent isDelimiter depth [] := ⟨trivial, rfl⟩

theorem append (hxs : Transparent isDelimiter depth xs) (hys : Transparent isDelimiter depth ys) :
    Transparent isDelimiter depth (xs ++ ys) := by
  refine ⟨passes_append.2 ⟨hxs.passes, ?_⟩, ?_⟩
  · rw [hxs.closed]
    exact hys.passes
  · rw [run_append, hxs.closed, hys.closed]

theorem of_append (h : Transparent isDelimiter depth (xs ++ ys))
    (hxs : (plain depth).run xs = plain depth) : Transparent isDelimiter depth ys := by
  have hpasses := (passes_append.1 h.passes).2
  have hclosed := h.closed
  rw [hxs] at hpasses
  rw [run_append, hxs] at hclosed
  exact ⟨hpasses, hclosed⟩

theorem single {c : Char} (hc : c ∉ signs) (hd : isDelimiter c = false) :
    Transparent isDelimiter depth [c] := by
  refine ⟨⟨fun h ↦ ?_, trivial⟩, next_plain hc depth⟩
  rw [hd] at h
  exact Bool.false_ne_true h.2

theorem cons {c : Char} (hc : c ∉ signs) (hd : isDelimiter c = false)
    (hcs : Transparent isDelimiter depth cs) : Transparent isDelimiter depth (c :: cs) :=
  (single hc hd).append hcs

theorem of_forall (h : ∀ c ∈ cs, c ∉ signs ∧ isDelimiter c = false) :
    Transparent isDelimiter depth cs := by
  induction cs with
  | nil => exact nil
  | cons c cs ih =>
    have hc := h c List.mem_cons_self
    exact cons hc.1 hc.2 (ih fun d hd ↦ h d (List.mem_cons_of_mem c hd))

theorem quoted {quote : Char} (hquote : quote = '"' ∨ quote = '\'')
    (hd : isDelimiter quote = false) (hcs : quote ∉ cs) :
    Transparent isDelimiter depth (quote :: cs ++ [quote]) := by
  have hopen : (plain depth).next quote = inside (.quoted quote) depth := by
    rcases hquote with rfl | rfl <;> rfl
  have hinside : Passes isDelimiter (inside (.quoted quote) depth) (cs ++ [quote]) ∧
      (inside (.quoted quote) depth).run (cs ++ [quote]) = plain depth := by
    induction cs with
    | nil => exact ⟨⟨by simp [plain], trivial⟩, by simp [next, plain]⟩
    | cons c cs ih =>
      rw [List.mem_cons, not_or] at hcs
      have hnext : (inside (.quoted quote) depth).next c = inside (.quoted quote) depth := by
        rw [next, if_neg (Ne.symm hcs.1)]
      rw [List.cons_append, Passes, run_cons, hnext]
      exact ⟨⟨by simp [plain], (ih hcs.2).1⟩, (ih hcs.2).2⟩
  refine ⟨⟨fun h ↦ ?_, ?_⟩, ?_⟩
  · rw [hd] at h
    exact Bool.false_ne_true h.2
  · rw [hopen]
    exact hinside.1
  · rw [List.cons_append, run_cons, hopen]
    exact hinside.2

theorem bracketed {c d : Char} (hc : (plain depth).next c = plain (depth + 1))
    (hd : (plain (depth + 1)).next d = plain depth) (hc' : isDelimiter c = false)
    (hd' : isDelimiter d = false) (hcs : Transparent isDelimiter (depth + 1) cs) :
    Transparent isDelimiter depth (c :: cs ++ [d]) := by
  refine ⟨⟨fun h ↦ ?_, ?_⟩, ?_⟩
  · rw [hc'] at h
    exact Bool.false_ne_true h.2
  · rw [hc]
    refine passes_append.2 ⟨hcs.passes, fun h ↦ ?_, trivial⟩
    rw [hd'] at h
    exact Bool.false_ne_true h.2
  · rw [List.cons_append, run_cons, hc, run_append, hcs.closed]
    exact hd

/-! ### Blanks around a text -/

theorem of_isBlank_append (hbs : ∀ b ∈ bs, Text.isBlank b = true)
    (h : Transparent isDelimiter depth (bs ++ cs)) : Transparent isDelimiter depth cs :=
  h.of_append (run_plain_of_isBlank hbs depth)

theorem of_append_isBlank (hbs : ∀ b ∈ bs, Text.isBlank b = true)
    (h : Transparent isDelimiter depth (cs ++ bs)) : Transparent isDelimiter depth cs :=
  ⟨(passes_append.1 h.passes).1, (proper_plain depth).run_eq_plain
    (fun b hb ↦ not_mem_signs_of_isBlank (hbs b hb)) h.closed⟩

theorem trim (h : Transparent isDelimiter depth cs) :
    Transparent isDelimiter depth (Text.trim cs) := by
  obtain ⟨bs, bs', hcs, hbs, hbs', -⟩ := Text.exists_blanks_trim cs
  rw [hcs] at h
  exact (h.of_isBlank_append hbs).of_append_isBlank hbs'

/-! ### Scans over a text -/

theorem scanTo_append (h : Transparent isDelimiter 0 cs) {d : Char} (hd : isDelimiter d = true)
    (after : List Char) : scanTo isDelimiter (cs ++ d :: after) = some (cs, d, after) :=
  scanTo_eq_some_iff.2 ⟨rfl, h.passes, h.closed, hd⟩

end Transparent

end Motif.Pattern
