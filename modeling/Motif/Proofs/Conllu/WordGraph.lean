import Motif.Conllu.Graph
import Motif.Proofs.Graph.Construction
import Motif.Proofs.Outcome

/-!
# The graph of a sentence

The rows of a sentence need not be in order. Numbers of words can be repeated or missing, heads can
be anything, and rows for ranges and empty nodes stand in between. All of this has a meaning:

* there is a vertex for every number of a word, in the order in which the numbers first occur, and
  the last row with the number says what it is (`Sentence.TokenAt`);
* a row whose head is the number of a word makes an edge between the tokens of the two numbers
  (`Sentence.IsEdgeOf`), and equal edges count once;
* a row whose head is neither zero nor the number of a word is reported.

The tokens are all there before the first edge is made, so an edge never ends outside of the graph:
the graph that drops such edges is the one that a construction which refuses them gives.
-/

namespace Motif.Conllu

/-! ## What a sentence says -/

/-- The text in the first of some columns that is there and not empty, or else a default. -/
inductive FirstGiven (default : String) : List (Option String) → String → Prop where
  | here {s : String} {columns : List (Option String)} (hne : s ≠ "") :
    FirstGiven default (some s :: columns) s
  | later {column : Option String} {columns : List (Option String)} {s : String}
    (hempty : column = none ∨ column = some "") (h : FirstGiven default columns s) :
    FirstGiven default (column :: columns) s
  | nowhere : FirstGiven default [] default

/-- A token has the data of a row that stands for the word of the given number. -/
structure Row.IsTokenOf (convention : Convention) (number : Nat) (r : Row) (t : Token) : Prop where
  form : r.form = some t.form
  tag : FirstGiven unspecified
    [r.tagIn convention.tagColumn, r.tagIn convention.tagColumn.other] t.tag
  chunk : FirstGiven outsideChunk [(r.misc.get? convention.chunkKey).join] t.chunk
  lemmaForm : t.lemmaForm = (r.lemmaForm.filter (· ≠ unspecified)).getD (Text.lower t.form)
  position : t.position = (number : Int) - 1

namespace Sentence

/-- The rows that stand for words, with the numbers of the words. -/
def wordRows (s : Sentence) : List (Nat × Row) :=
  s.rows.filterMap fun r ↦
    match r.id with
    | some (.word n) => some (n, r)
    | _ => none

/-- The numbers of the words, in the order of the rows. -/
def numbers (s : Sentence) : List Nat := s.wordRows.map Prod.fst

/-- The token of the word of a number: the last row of the number has its data. -/
def TokenAt (convention : Convention) (s : Sentence) (number : Nat) (t : Token) : Prop :=
  ∃ r, InsertionMap.lastOf number s.wordRows = some r ∧ r.IsTokenOf convention number t

/-- The head of a word is the number of a word, other than zero. -/
def isAttached (s : Sentence) (word : Nat × Row) : Bool :=
  s.numbers.any fun n ↦ n ≠ 0 && word.2.head = some (n : Int)

/-- The head of a word is given, and it is neither zero nor the number of a word. -/
def isStray (s : Sentence) (word : Nat × Row) : Bool :=
  word.2.head.any fun head ↦ head ≠ 0 && s.numbers.all fun n ↦ head ≠ (n : Int)

/-- The edge from the token of the head to the token of the word. -/
structure IsEdgeOf (convention : Convention) (s : Sentence) (word : Nat × Row) (e : Edge Token) :
    Prop where
  source : ∃ n : Nat, word.2.head = some (n : Int) ∧ s.TokenAt convention n e.source
  dest : s.TokenAt convention word.1 e.dest
  label : FirstGiven "dep" [word.2.relation] e.label

/-- A graph is what the rows of a sentence say, and the records report what they say in vain. -/
structure HasWordGraph (convention : Convention) (s : Sentence) (g : Graph Token)
    (records : List Record) : Prop where
  /-- The vertices are the tokens of the numbers, by first occurrence. -/
  vertices : ∃ ns, FirstOccurrences s.numbers ns ∧
    List.Forall₂ (s.TokenAt convention) ns g.vertices
  /-- The edges are those of the words that have a head, by first occurrence, and none of them is a
  reason to refuse the graph. -/
  edges : ∃ es, List.Forall₂ (s.IsEdgeOf convention) (s.wordRows.filter s.isAttached) es ∧
    FirstOccurrences es g.edges ∧ Graph.ofLists g.vertices es = .ok g
  /-- The words whose head is not there are reported, one after the other. -/
  records : List.Forall₂ (fun word r ↦ ∃ head, word.2.head = some head ∧
    r = s.unknownHeadRecord head word.1) (s.wordRows.filter s.isStray) records

end Sentence

/-! ## Columns -/

private theorem firstGiven_findSome? (default : String) (columns : List (Option String)) :
    FirstGiven default columns
      ((columns.findSome? fun column ↦ column.filter (· ≠ "")).getD default) := by
  induction columns with
  | nil => exact .nowhere
  | cons column columns ih =>
    cases column with
    | none => exact .later (.inl rfl) ih
    | some s =>
      by_cases hs : s = ""
      · exact .later (.inr (congrArg some hs)) (by simpa [hs] using ih)
      · rw [List.findSome?_cons, Option.filter_some, if_pos (decide_eq_true hs)]
        exact .here hs

private theorem firstGiven_one (default : String) (column : Option String) :
    FirstGiven default [column] ((column.filter (· ≠ "")).getD default) := by
  have h := firstGiven_findSome? default [column]
  rwa [List.findSome?_singleton] at h

private theorem firstGiven_two (default : String) (first second : Option String) :
    FirstGiven default [first, second]
      (((first.filter (· ≠ "")).or (second.filter (· ≠ ""))).getD default) := by
  have h := firstGiven_findSome? default [first, second]
  rw [List.findSome?_cons, List.findSome?_singleton] at h
  cases hfirst : first.filter (· ≠ "") <;> rw [hfirst] at h <;> exact h

/-! ## Tokens -/

/-- The token of a row; the word is empty if the row has none. -/
def Row.tokenFor (convention : Convention) (number : Nat) (r : Row) : Token :=
  .ofForm (r.form.getD "") (r.tag convention.tagColumn) (r.chunk convention.chunkKey)
    (r.lemmaForm.filter (· ≠ unspecified)) ((number : Int) - 1)

section Row

variable {convention : Convention} {n : Nat} {r : Row}

private theorem Row.token_eq_ok (h : r.form.isSome = true) :
    r.token convention n = .ok (r.tokenFor convention n) := by
  obtain ⟨form, hform⟩ := Option.isSome_iff_exists.1 h
  rw [token, tokenFor, hform]
  rfl

theorem Row.isTokenOf_tokenFor (h : r.form.isSome = true) :
    r.IsTokenOf convention n (r.tokenFor convention n) where
  form := by
    obtain ⟨form, hform⟩ := Option.isSome_iff_exists.1 h
    rw [tokenFor, hform]
    rfl
  tag := firstGiven_two _ _ _
  chunk := firstGiven_one _ _
  lemmaForm := rfl
  position := rfl

end Row

namespace Sentence

variable {convention : Convention} {s : Sentence} {word : Nat × Row} {n : Nat} {t : Token}

theorem mem_rows_of_mem_wordRows (h : word ∈ s.wordRows) : word.2 ∈ s.rows := by
  obtain ⟨r, hr, hword⟩ := List.mem_filterMap.1 h
  split at hword
  · obtain rfl := Option.some_inj.1 hword
    exact hr
  · cases hword

private theorem words_eq_ok (h : ∀ r ∈ s.rows, r.id.isSome = true) : s.words = .ok s.wordRows := by
  have hnumbered : (s.rows.mapM fun r ↦ do pure ((← r.wordNumber?).map fun n ↦ (n, r)) :
      Except Fault _) = .ok (s.rows.map fun r ↦
        match r.id with
        | some (.word n) => some (n, r)
        | _ => none) := by
    refine mapM_eq_ok fun r hr ↦ ?_
    obtain ⟨id, hid⟩ := Option.isSome_iff_exists.1 (h r hr)
    rw [Row.wordNumber?, hid]
    cases id <;> rfl
  rw [words, hnumbered, ok_bind, List.filterMap_map]
  rfl

/-- The tokens of the words by their numbers. -/
def tokenMap (convention : Convention) (s : Sentence) : InsertionMap Nat Token :=
  .ofList (s.wordRows.map fun word ↦ (word.1, word.2.tokenFor convention word.1))

private theorem tokens_eq_ok (h : ∀ r ∈ s.rows, r.form.isSome = true) :
    tokens convention s.wordRows = .ok (s.tokenMap convention) := by
  rw [tokens]
  refine bind_pure_eq_ok_iff.2 ⟨_, mapM_eq_ok fun word hword ↦ ?_, rfl⟩
  obtain ⟨n, r⟩ := word
  change (r.token convention n >>= fun t ↦ pure (n, t)) = _
  rw [Row.token_eq_ok (h r (mem_rows_of_mem_wordRows hword))]
  rfl

theorem get?_tokenMap : (s.tokenMap convention).get? n =
    (InsertionMap.lastOf n s.wordRows).map (Row.tokenFor convention n) := by
  rw [tokenMap, InsertionMap.get?_ofList]
  exact InsertionMap.lastOf_mapValues (Row.tokenFor convention)

private theorem keys_tokenMap (convention : Convention) (s : Sentence) :
    (s.tokenMap convention).keys = distinct s.numbers := by
  rw [tokenMap, InsertionMap.keys_ofList, List.map_map]
  rfl

private theorem exists_get?_tokenMap (convention : Convention) (h : n ∈ s.numbers) :
    ∃ t, (s.tokenMap convention).get? n = some t := by
  obtain ⟨r, hr⟩ := InsertionMap.exists_lastOf h
  rw [get?_tokenMap, hr]
  exact ⟨_, rfl⟩

private theorem get?_tokenMap_eq_none (h : n ∉ s.numbers) :
    (s.tokenMap convention).get? n = none := by
  rw [get?_tokenMap, InsertionMap.lastOf_eq_none h]
  rfl

theorem tokenAt_of_get? (hform : ∀ r ∈ s.rows, r.form.isSome = true)
    (h : (s.tokenMap convention).get? n = some t) : s.TokenAt convention n t := by
  rw [get?_tokenMap] at h
  obtain ⟨r, hr, rfl⟩ := Option.map_eq_some_iff.1 h
  obtain ⟨word, hword, rfl⟩ := Option.map_eq_some_iff.1 hr
  have hmem : word ∈ s.wordRows := (List.mem_filter.1 (List.mem_of_getLast? hword)).1
  exact ⟨_, hr, Row.isTokenOf_tokenFor (hform _ (mem_rows_of_mem_wordRows hmem))⟩

theorem forall₂_tokenAt (hform : ∀ r ∈ s.rows, r.form.isSome = true) :
    List.Forall₂ (s.TokenAt convention) (distinct s.numbers) (s.tokenMap convention).values := by
  rw [← keys_tokenMap convention s, InsertionMap.keys, InsertionMap.values,
    List.forall₂_map_left_iff, List.forall₂_map_right_iff, List.forall₂_same]
  exact fun e he ↦ tokenAt_of_get? hform (InsertionMap.get?_of_mem he)

/-- Tokens of different numbers stand at different positions, so none is lost among the others. -/
private theorem nodup_values_tokenMap (hform : ∀ r ∈ s.rows, r.form.isSome = true) :
    (s.tokenMap convention).values.Nodup := by
  have hpositions : ∀ {ns : List Nat} {ts : List Token},
      List.Forall₂ (s.TokenAt convention) ns ts →
        ts.map Token.position = ns.map fun (n : Nat) ↦ (n : Int) - 1 := by
    intro ns ts h
    induction h with
    | nil => rfl
    | cons hfirst _ ih =>
      obtain ⟨r, -, htoken⟩ := hfirst
      rw [List.map_cons, List.map_cons, htoken.position, ih]
  apply List.Nodup.of_map Token.position
  rw [hpositions (forall₂_tokenAt hform)]
  refine (nodup_distinct s.numbers).map fun m n hmn ↦ ?_
  omega

/-! ## Heads -/

/-- What the head of a word can amount to. -/
inductive Attaching (convention : Convention) (s : Sentence) (word : Nat × Row) :
    Attachment → Prop where
  /-- There is no head, or it is zero. -/
  | root (hattached : s.isAttached word = false) (hstray : s.isStray word = false) :
    Attaching convention s word .root
  /-- The head is a word. -/
  | edge {e : Edge Token} (hattached : s.isAttached word = true) (hstray : s.isStray word = false)
    (he : s.IsEdgeOf convention word e) (hsource : e.source ∈ (s.tokenMap convention).values)
    (hdest : e.dest ∈ (s.tokenMap convention).values) : Attaching convention s word (.edge e)
  /-- The head is no word. -/
  | unknownHead {head : Int} (hattached : s.isAttached word = false)
    (hstray : s.isStray word = true) (hhead : word.2.head = some head) :
    Attaching convention s word (.unknownHead head word.1)

/-- **The head of a word amounts to one of these.** -/
theorem attaching (convention : Convention) (hform : ∀ r ∈ s.rows, r.form.isSome = true)
    (hword : word ∈ s.wordRows) :
    Attaching convention s word (attachment (s.tokenMap convention) word) := by
  obtain ⟨dependent, hdependent⟩ :=
    exists_get?_tokenMap convention (List.mem_map_of_mem hword)
  rw [attachment, hdependent]
  cases hhead : word.2.head with
  | none => exact .root (by simp [isAttached, hhead]) (by simp [isStray, hhead])
  | some head =>
    dsimp only
    by_cases hzero : head = 0
    · rw [if_pos hzero]
      refine .root ?_ (by simp [isStray, hhead, hzero])
      rw [isAttached, List.any_eq_false]
      intro n _
      simp [hhead, hzero, eq_comm]
    rw [if_neg hzero]
    by_cases hknown : ∃ n ∈ s.numbers, head = (n : Int)
    · obtain ⟨n, hn, rfl⟩ := hknown
      obtain ⟨governor, hgovernor⟩ := exists_get?_tokenMap convention hn
      have hfound : (n : Int).toNat?.bind (s.tokenMap convention).get? = some governor := hgovernor
      rw [hfound]
      refine .edge ?_ ?_ ⟨⟨n, hhead, tokenAt_of_get? hform hgovernor⟩,
        tokenAt_of_get? hform hdependent, firstGiven_one _ _⟩
        (InsertionMap.mem_values_of_get? hgovernor) (InsertionMap.mem_values_of_get? hdependent)
      · rw [isAttached, List.any_eq_true]
        exact ⟨n, hn, by simpa [hhead] using hzero⟩
      · rw [isStray, hhead, Option.any_some, Bool.and_eq_false_iff, List.all_eq_false]
        exact .inr ⟨n, hn, by simp⟩
    · have hunknown : ∀ n ∈ s.numbers, head ≠ (n : Int) := fun n hn h ↦ hknown ⟨n, hn, h⟩
      have hmissing : head.toNat?.bind (s.tokenMap convention).get? = none := by
        cases head with
        | ofNat n => exact get?_tokenMap_eq_none fun hn ↦ hunknown n hn rfl
        | negSucc n => rfl
      rw [hmissing]
      refine .unknownHead ?_ ?_ hhead
      · rw [isAttached, List.any_eq_false]
        intro n hn
        simp [hhead, hunknown n hn]
      · rw [isStray, hhead, Option.any_some, Bool.and_eq_true, List.all_eq_true]
        exact ⟨decide_eq_true hzero, fun n hn ↦ decide_eq_true (hunknown n hn)⟩

/-! ## The graph -/

def edge? : Attachment → Option (Edge Token)
  | .edge e => some e
  | _ => none

def report? (s : Sentence) : Attachment → Option Record
  | .unknownHead head number => some (s.unknownHeadRecord head number)
  | _ => none

def edges (convention : Convention) (s : Sentence) : List (Edge Token) :=
  (s.wordRows.map (attachment (s.tokenMap convention))).filterMap edge?

def reports (convention : Convention) (s : Sentence) : List Record :=
  (s.wordRows.map (attachment (s.tokenMap convention))).filterMap s.report?

private theorem forall₂_edges (hform : ∀ r ∈ s.rows, r.form.isSome = true) :
    List.Forall₂ (s.IsEdgeOf convention) (s.wordRows.filter s.isAttached) (s.edges convention) := by
  rw [edges, List.filterMap_map]
  refine forall₂_filter_filterMap fun word hword ↦ ?_
  have hamounts := attaching convention hform hword
  rw [Function.comp_apply]
  generalize attachment (s.tokenMap convention) word = a at hamounts ⊢
  cases hamounts with
  | root hattached _ => exact .inl ⟨hattached, rfl⟩
  | edge hattached _ he _ _ => exact .inr ⟨hattached, _, rfl, he⟩
  | unknownHead hattached _ _ => exact .inl ⟨hattached, rfl⟩

private theorem forall₂_reports (hform : ∀ r ∈ s.rows, r.form.isSome = true) :
    List.Forall₂ (fun word r ↦ ∃ head, word.2.head = some head ∧
        r = s.unknownHeadRecord head word.1)
      (s.wordRows.filter s.isStray) (s.reports convention) := by
  rw [reports, List.filterMap_map]
  refine forall₂_filter_filterMap fun word hword ↦ ?_
  have hamounts := attaching convention hform hword
  rw [Function.comp_apply]
  generalize attachment (s.tokenMap convention) word = a at hamounts ⊢
  cases hamounts with
  | root _ hstray => exact .inl ⟨hstray, rfl⟩
  | edge _ hstray _ _ _ => exact .inl ⟨hstray, rfl⟩
  | unknownHead _ hstray hhead => exact .inr ⟨hstray, _, rfl, _, hhead, rfl⟩

private theorem ends_mem_values (convention : Convention)
    (hform : ∀ r ∈ s.rows, r.form.isSome = true) :
    ∀ e ∈ s.edges convention, e.source ∈ (s.tokenMap convention).values ∧
      e.dest ∈ (s.tokenMap convention).values := by
  intro e he
  rw [edges, List.filterMap_map] at he
  obtain ⟨word, hword, hedge⟩ := List.mem_filterMap.1 he
  have hamounts := attaching convention hform hword
  rw [Function.comp_apply] at hedge
  generalize attachment (s.tokenMap convention) word = a at hamounts hedge
  cases hamounts with
  | root _ _ => cases hedge
  | unknownHead _ _ _ => cases hedge
  | edge _ _ _ hsource hdest =>
    obtain rfl := Option.some_inj.1 hedge
    exact ⟨hsource, hdest⟩

def wordGraph (convention : Convention) (s : Sentence) : Graph Token :=
  .within (s.tokenMap convention).values (s.edges convention)

theorem toGraph_eq_ok (hid : ∀ r ∈ s.rows, r.id.isSome = true)
    (hform : ∀ r ∈ s.rows, r.form.isSome = true) :
    s.toGraph convention = .ok (s.wordGraph convention, s.reports convention) := by
  rw [toGraph, words_eq_ok hid, ok_bind, tokens_eq_ok hform]
  rfl

theorem vertices_wordGraph (convention : Convention)
    (hform : ∀ r ∈ s.rows, r.form.isSome = true) :
    (s.wordGraph convention).vertices = (s.tokenMap convention).values :=
  distinctBy_eq_self id (by rw [List.map_id]; exact nodup_values_tokenMap hform)

/-- **A sentence becomes its word graph.** Whatever the numbers and heads of its rows are, a
sentence whose rows say what they stand for and have a form has a graph, which is what the rows say,
with the reports of the heads that are not there. -/
theorem exists_toGraph_hasWordGraph (convention : Convention) (s : Sentence)
    (hid : ∀ r ∈ s.rows, r.id.isSome = true) (hform : ∀ r ∈ s.rows, r.form.isSome = true) :
    ∃ g records, s.toGraph convention = .ok (g, records) ∧
      s.HasWordGraph convention g records := by
  have hends := ends_mem_values convention hform
  have hvertices := vertices_wordGraph convention hform
  refine ⟨_, _, toGraph_eq_ok hid hform, ?_, ?_, forall₂_reports hform⟩
  · exact ⟨_, firstOccurrences_distinct _, hvertices.symm ▸ forall₂_tokenAt hform⟩
  · refine ⟨_, forall₂_edges hform, ?_, ?_⟩
    · rw [wordGraph, Graph.edges_within hends]
      exact firstOccurrences_distinct _
    · rw [hvertices]
      exact Graph.ofLists_eq_within hends

/-- A range, words out of order, one of which comes twice and depends on itself in the end, an empty
node, and a head that is not there. -/
def unorderedSentence : Sentence :=
  let row (id : RowId) (form : String) (head : Option Int) : Row :=
    { Row.blank with id := some id, form := some form, head := head }
  ⟨.empty, [row (.range 1 2) "ab" none, row (.word 2) "b" (some 1), row (.word 1) "a" (some 0),
    row (.emptyNode 1 1) "e" (some 9), row (.word 2) "c" (some 2), row (.word 3) "d" (some 9)]⟩

theorem exists_toGraph_hasWordGraph_unorderedSentence :
    (∀ r ∈ unorderedSentence.rows, r.id.isSome = true) ∧
    (∀ r ∈ unorderedSentence.rows, r.form.isSome = true) ∧
    ∃ g records, unorderedSentence.toGraph .standard = .ok (g, records) ∧
      unorderedSentence.HasWordGraph .standard g records := by
  have hid : ∀ r ∈ unorderedSentence.rows, r.id.isSome = true := by decide
  have hform : ∀ r ∈ unorderedSentence.rows, r.form.isSome = true := by decide
  exact ⟨hid, hform, exists_toGraph_hasWordGraph .standard unorderedSentence hid hform⟩

end Sentence

end Motif.Conllu
