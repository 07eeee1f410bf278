import Mathlib
import Motif.Proofs.Expression.Grammar

/-!
# What compiled expressions mean

The meaning of an expression is said here without evaluating it. `truth` is its value as a boolean
combination, and `asked` are the tests that matter for this value, from left to right: the right
side of a conjunction matters if the left side holds, and that of a disjunction if it does not.
Both are given the answers to the tests; `Vocabulary.Answers` says what these are. Evaluation breaks
off at the first test asked that has a fault, and gives the truth otherwise (`holds_eq`). `passOn` is
what becomes of the fault on its way out: a conjunction or a disjunction asks its parts as a
sequence, and there a reader that is exhausted is reported as an interruption.

With the grammar this describes compiling altogether: which texts are accepted, and what a vertex
matches.
-/

namespace Motif

variable {V : Type}

/-- The text that a value counts as where case is ignored. -/
def Reading.text? : Reading → Option String
  | .absent => some ""
  | .text s => some s
  | .number n => if n = 0 then some "" else none
  | .bytes content => if content = [] then some "" else none
  | .other _ => none

/-- The kind of a value, as messages give it. -/
def Reading.kind : Reading → String
  | .absent => "NoneType"
  | .text _ => "str"
  | .number _ => "int"
  | .bytes _ => "bytes"
  | .other kind => kind

/-- What the test of an attribute can say about a vertex. -/
inductive Vocabulary.Answers (voc : Vocabulary V) (v : V) (name value : String) :
    Except FieldFault Bool → Prop where
  /-- The attribute cannot be read. -/
  | unread {read : V → Except FieldFault Reading} {fault : FieldFault}
      (hname : voc.attributes.lookup name = some read) (hread : read v = .error fault) :
      Answers voc v name value (.error fault)
  /-- Where case counts, the attribute has to be the value. -/
  | exactly {read : V → Except FieldFault Reading} {r : Reading}
      (hname : voc.attributes.lookup name = some read) (hread : read v = .ok r)
      (hcase : name ∉ voc.ignoreCase) : Answers voc v name value (.ok (decide (r = .text value)))
  /-- Where case is ignored, lower-case texts are compared. -/
  | lower {read : V → Except FieldFault Reading} {r : Reading} {s : String}
      (hname : voc.attributes.lookup name = some read) (hread : read v = .ok r)
      (hcase : name ∈ voc.ignoreCase) (htext : r.text? = some s) :
      Answers voc v name value (.ok (decide (Text.lower s = Text.lower value)))
  /-- Bytes have a case, but they are no text. -/
  | bytes {read : V → Except FieldFault Reading} {content : List UInt8}
      (hname : voc.attributes.lookup name = some read) (hread : read v = .ok (.bytes content))
      (hcase : name ∈ voc.ignoreCase) (hne : content ≠ []) : Answers voc v name value (.ok false)
  /-- Where case is ignored, any other value that counts as no text is a fault. -/
  | caseless {read : V → Except FieldFault Reading} {r : Reading}
      (hname : voc.attributes.lookup name = some read) (hread : read v = .ok r)
      (hcase : name ∈ voc.ignoreCase) (htext : r.text? = none)
      (hbytes : ∀ content, r ≠ .bytes content) :
      Answers voc v name value (.error (.noField r.kind "lower"))

namespace Reading

variable {r : Reading} {s : String}

private theorem lower_of_text? (h : r.text? = some s) : r.lower = .ok (.text (Text.lower s)) := by
  cases r with
  | absent =>
    obtain rfl : "" = s := Option.some_inj.1 h
    rfl
  | text t =>
    obtain rfl : t = s := Option.some_inj.1 h
    rfl
  | number n =>
    rw [text?] at h
    split at h
    · next hn =>
      obtain rfl : "" = s := Option.some_inj.1 h
      rw [lower, if_pos hn]
      rfl
    · exact absurd h (by simp)
  | bytes content =>
    cases content with
    | nil =>
      obtain rfl : "" = s := Option.some_inj.1 h
      rfl
    | cons b content => exact absurd h (by simp [text?])
  | other kind => exact absurd h (by simp [text?])

private theorem exists_lower_bytes {content : List UInt8} (h : content ≠ []) :
    ∃ content', (bytes content).lower = .ok (.bytes content') := by
  obtain ⟨b, content, rfl⟩ := List.exists_cons_of_ne_nil h
  exact ⟨_, rfl⟩

private theorem lower_of_text?_none (h : r.text? = none) (hbytes : ∀ content, r ≠ .bytes content) :
    r.lower = .error (.noField r.kind "lower") := by
  cases r with
  | absent | text t => exact absurd h (by simp [text?])
  | number n =>
    rw [text?] at h
    split at h
    · exact absurd h (by simp)
    · next hn => rw [lower, if_neg hn, kind]
  | bytes content => exact absurd rfl (hbytes content)
  | other kind => rfl

end Reading

namespace Vocabulary

/-- What the tests of attributes, given by name and value, say about a vertex. -/
def answer (voc : Vocabulary V) (v : V) (x : String × String) : Except FieldFault Bool :=
  voc.test x.1 x.2 v

variable {voc : Vocabulary V} {v : V} {name value : String}

private theorem test_of_lookup {read : V → Except FieldFault Reading}
    (h : voc.attributes.lookup name = some read) :
    voc.test name value v = read v >>= fun r ↦
      if name ∈ voc.ignoreCase then r.lower >>= fun r ↦ pure (r.isText (Text.lower value))
      else pure (r.isText value) := by
  rw [test, h]
  simp only [List.contains_iff_mem]

private theorem test_of_answers {a : Except FieldFault Bool} (h : voc.Answers v name value a) :
    voc.test name value v = a := by
  cases h with
  | unread hname hread => rw [test_of_lookup hname, hread, error_bind]
  | exactly hname hread hcase =>
    rw [test_of_lookup hname, hread, ok_bind, if_neg hcase]
    rfl
  | lower hname hread hcase htext =>
    rw [test_of_lookup hname, hread, ok_bind, if_pos hcase, Reading.lower_of_text? htext, ok_bind]
    simp [Reading.isText, pure, Except.pure, beq_eq_decide]
  | bytes hname hread hcase hne =>
    obtain ⟨content', hlower⟩ := Reading.exists_lower_bytes hne
    rw [test_of_lookup hname, hread, ok_bind, if_pos hcase, hlower]
    rfl
  | caseless hname hread hcase htext hbytes =>
    rw [test_of_lookup hname, hread, ok_bind, if_pos hcase,
      Reading.lower_of_text?_none htext hbytes, error_bind]

theorem exists_answers (h : voc.knows name = true) (v : V) (value : String) :
    ∃ a, voc.Answers v name value a := by
  obtain ⟨read, hname⟩ := Option.isSome_iff_exists.1 h
  cases hread : read v with
  | error fault => exact ⟨_, .unread hname hread⟩
  | ok r =>
    by_cases hcase : name ∈ voc.ignoreCase
    · cases htext : r.text? with
      | none =>
        by_cases hbytes : ∃ content, r = .bytes content
        · obtain ⟨content, rfl⟩ := hbytes
          have hne : content ≠ [] := by
            rintro rfl
            exact absurd htext (by simp [Reading.text?])
          exact ⟨_, .bytes hname hread hcase hne⟩
        · exact ⟨_, .caseless hname hread hcase htext (not_exists.1 hbytes)⟩
      | some s => exact ⟨_, .lower hname hread hcase htext⟩
    · exact ⟨_, .exactly hname hread hcase⟩

theorem answers_answer (h : voc.knows name = true) :
    voc.Answers v name value (voc.answer v (name, value)) := by
  obtain ⟨a, ha⟩ := exists_answers h v value
  rw [answer, test_of_answers ha]
  exact ha

end Vocabulary

namespace Expression

variable {voc : Vocabulary V} {v : V}

/-- Whether an expression is true, given the answers to its tests. -/
def truth (answer : String × String → Except FieldFault Bool) : Expression → Bool
  | test name value =>
    match answer (name, value) with
    | .ok b => b
    | .error _ => false
  | not e => !e.truth answer
  | and e f => e.truth answer && f.truth answer
  | or e f => e.truth answer || f.truth answer

/-- The tests that the truth of an expression depends on, from left to right. -/
def asked (answer : String × String → Except FieldFault Bool) : Expression → List (String × String)
  | test name value => [(name, value)]
  | not e => e.asked answer
  | and e f => e.asked answer ++ if e.truth answer then f.asked answer else []
  | or e f => e.asked answer ++ if e.truth answer then [] else f.asked answer

/-- The fault that evaluation breaks off at, if any: that of the first test asked that has one. -/
def firstFault (answer : String × String → Except FieldFault Bool) (e : Expression) :
    Option FieldFault :=
  (e.asked answer).findSome? fun x ↦
    match answer x with
    | .ok _ => none
    | .error fault => some fault

/-- The fault of a test as it leaves an expression. -/
def passOn : Expression → FieldFault → FieldFault
  | test _ _, fault => fault
  | not e, fault => e.passOn fault
  | and _ _, fault | or _ _, fault => fault.inSequence

/-- On the way out of a sequence it makes no difference what a fault has been on the way to it. -/
@[simp] theorem inSequence_passOn (e : Expression) (fault : FieldFault) :
    (e.passOn fault).inSequence = fault.inSequence := by
  induction e with
  | test => rfl
  | not e ih => exact ih
  | and | or => exact FieldFault.inSequence_inSequence fault

section Faults

variable {answer : String × String → Except FieldFault Bool}

private theorem firstFault_not (e : Expression) :
    e.not.firstFault answer = e.firstFault answer := rfl

private theorem firstFault_and (e f : Expression) :
    (e.and f).firstFault answer =
      (e.firstFault answer).or (if e.truth answer then f.firstFault answer else none) := by
  rw [firstFault, asked, List.findSome?_append, ← firstFault]
  cases e.truth answer <;> rfl

private theorem firstFault_or (e f : Expression) :
    (e.or f).firstFault answer =
      (e.firstFault answer).or (if e.truth answer then none else f.firstFault answer) := by
  rw [firstFault, asked, List.findSome?_append, ← firstFault]
  cases e.truth answer <;> rfl

theorem firstFault_eq_none_iff {e : Expression} :
    e.firstFault answer = none ↔ ∀ x ∈ e.asked answer, ∃ b, answer x = .ok b := by
  rw [firstFault, List.findSome?_eq_none_iff]
  refine forall₂_congr fun x _ ↦ ?_
  cases answer x with
  | ok b => exact ⟨fun _ ↦ ⟨b, rfl⟩, fun _ ↦ rfl⟩
  | error fault => exact ⟨fun h ↦ absurd h (by simp), fun ⟨b, h⟩ ↦ absurd h (by simp)⟩

/-- A fault is raised exactly if a test is asked that has it, and no test before has one. -/
theorem firstFault_eq_some_iff {e : Expression} {fault : FieldFault} :
    e.firstFault answer = some fault ↔ ∃ before x after, e.asked answer = before ++ x :: after ∧
      (∀ y ∈ before, ∃ b, answer y = .ok b) ∧ answer x = .error fault := by
  rw [firstFault, List.findSome?_eq_some_iff]
  refine exists_congr fun before ↦ exists_congr fun x ↦ exists_congr fun after ↦
    and_congr_right fun _ ↦ ?_
  rw [and_comm]
  refine and_congr (forall₂_congr fun y _ ↦ ?_) ?_
  · cases answer y with
    | ok b => exact ⟨fun _ ↦ ⟨b, rfl⟩, fun _ ↦ rfl⟩
    | error fault => exact ⟨fun h ↦ absurd h (by simp), fun ⟨b, h⟩ ↦ absurd h (by simp)⟩
  · cases answer x with
    | ok b => exact ⟨fun h ↦ absurd h (by simp), fun h ↦ absurd h (by simp)⟩
    | error fault' =>
      exact ⟨fun h ↦ congrArg _ (Option.some_inj.1 h), fun h ↦ congrArg _ (Except.error.inj h)⟩

end Faults

/-- Evaluation asks the tests that matter, in order, and gives the truth if none has a fault. -/
theorem holds_eq (e : Expression) :
    e.holds voc v =
      match e.firstFault (voc.answer v) with
      | some fault => .error (e.passOn fault)
      | none => .ok (e.truth (voc.answer v)) := by
  induction e with
  | test name value =>
    rw [holds, firstFault, asked, List.findSome?_singleton, truth, Vocabulary.answer]
    cases voc.test name value v <;> rfl
  | not e ih =>
    rw [holds, ih, firstFault_not, truth]
    cases e.firstFault (voc.answer v) <;> rfl
  | and e f ihe ihf =>
    rw [holds, ihe, ihf, firstFault_and, truth]
    cases e.firstFault (voc.answer v) with
    | some fault => exact congrArg Except.error (inSequence_passOn e fault)
    | none =>
      cases e.truth (voc.answer v) with
      | false => rfl
      | true =>
        cases f.firstFault (voc.answer v) with
        | some fault => exact congrArg Except.error (inSequence_passOn f fault)
        | none => rfl
  | or e f ihe ihf =>
    rw [holds, ihe, ihf, firstFault_or, truth]
    cases e.firstFault (voc.answer v) with
    | some fault => exact congrArg Except.error (inSequence_passOn e fault)
    | none =>
      cases e.truth (voc.answer v) with
      | true => rfl
      | false =>
        cases f.firstFault (voc.answer v) with
        | some fault => exact congrArg Except.error (inSequence_passOn f fault)
        | none => rfl

/-! ## Compiled tests -/

theorem matchText_toTest (e : Expression) :
    (e.toTest voc).matchText v =
      match e.firstFault (voc.answer v) with
      | some fault => .error (e.passOn fault)
      | none => .ok (if e.truth (voc.answer v) then some (e.toTest voc).text else none) := by
  rw [toTest, NodeTest.matchText, holds_eq]
  cases e.firstFault (voc.answer v) with
  | some fault => rfl
  | none => cases e.truth (voc.answer v) <;> rfl

/-- A compiled test breaks off at the first test asked that has a fault, and passes this fault
on. -/
theorem matchText_toTest_eq_error_iff {e : Expression} {fault : FieldFault} :
    (e.toTest voc).matchText v = .error fault ↔
      ∃ raised, e.firstFault (voc.answer v) = some raised ∧ e.passOn raised = fault := by
  rw [matchText_toTest]
  cases e.firstFault (voc.answer v) with
  | some raised => simp
  | none => simp

/-- **Compiling accepts the grammar and gives its meaning.** A text is accepted exactly if it
spells units that are derivable and have known names. The test of a known attribute says what can
be said about it. And at every vertex, the compiled test gives the truth of the derived expression
if no test asked has a fault, and otherwise raises the fault of the first test asked that has one,
as it leaves the expression. -/
theorem compile_exact (voc : Vocabulary V) (cs : List Char) (offset : Int) :
    ((∃ t, compile voc cs offset = .ok t) ↔
      ∃ ls e, Spells cs ls ∧ Derives .disjunction ls e ∧ KnownNames voc ls) ∧
    (∀ v name value, voc.knows name = true →
      voc.Answers v name value (voc.answer v (name, value))) ∧
    ∀ ls e, Spells cs ls → Derives .disjunction ls e → KnownNames voc ls →
      ∃ t, compile voc cs offset = .ok t ∧ ∀ v,
        (∀ s, t.matchText v = .ok s ↔
          (∀ x ∈ e.asked (voc.answer v), ∃ b, voc.answer v x = .ok b) ∧
            s = if e.truth (voc.answer v) then some t.text else none) ∧
        ∀ fault, t.matchText v = .error fault ↔
          ∃ before x after raised, e.asked (voc.answer v) = before ++ x :: after ∧
            (∀ y ∈ before, ∃ b, voc.answer v y = .ok b) ∧ voc.answer v x = .error raised ∧
              e.passOn raised = fault := by
  refine ⟨⟨?_, ?_⟩, fun v name value h ↦ Vocabulary.answers_answer h, ?_⟩
  · rintro ⟨t, ht⟩
    obtain ⟨e, hread, -⟩ := compile_eq_ok_iff.1 ht
    obtain ⟨ls, h⟩ := read_eq_ok_iff.1 hread
    exact ⟨ls, e, h⟩
  · rintro ⟨ls, e, h⟩
    exact ⟨e.toTest voc, compile_eq_ok_iff.2 ⟨e, read_eq_ok_iff.2 ⟨ls, h⟩, rfl⟩⟩
  · intro ls e hs hd hk
    have hread := read_eq_ok_iff.2 ⟨ls, hs, hd, hk⟩
    refine ⟨e.toTest voc, compile_eq_ok_iff.2 ⟨e, hread, rfl⟩, fun v ↦ ⟨fun s ↦ ?_, fun fault ↦ ?_⟩⟩
    · rw [matchText_toTest, ← firstFault_eq_none_iff]
      cases e.firstFault (voc.answer v) with
      | some fault => exact ⟨fun h ↦ absurd h (by simp), fun h ↦ absurd h.1 (by simp)⟩
      | none => exact ⟨fun h ↦ ⟨rfl, (Except.ok.inj h).symm⟩, fun h ↦ congrArg _ h.2.symm⟩
    · rw [matchText_toTest_eq_error_iff]
      constructor
      · rintro ⟨raised, hfirst, hfault⟩
        obtain ⟨before, x, after, hasked, hbefore, hx⟩ := firstFault_eq_some_iff.1 hfirst
        exact ⟨before, x, after, raised, hasked, hbefore, hx, hfault⟩
      · rintro ⟨before, x, after, raised, hasked, hbefore, hx, hfault⟩
        exact ⟨raised, firstFault_eq_some_iff.2 ⟨before, x, after, hasked, hbefore, hx⟩, hfault⟩

/-- Texts that say themselves, and an attribute that none of them has. -/
def echo : Vocabulary String :=
  ⟨[("self", fun s ↦ .ok (.text s)), ("age", fun _ ↦ .error (.noField "str" "age"))], ["self"]⟩

/-- The second test of a disjunction is asked where the first does not hold, and only there. -/
theorem compile_exact_echo :
    ∃ t, compile echo "self='No'|age=\"1\"".toList 0 = .ok t ∧
      t.matchText "no" = .ok (some t.text) ∧
      t.matchText "yes" = .error (.noField "str" "age") := by
  have hage : Spells "age=\"1\"".toList [.test "age" "1"] :=
    @Spells.test 'a' '"' ['g', 'e'] [] [] ['1'] [] [] rfl
      (List.all_iff_forall_prop.1 (by decide)) (by simp) (by simp) (by decide) (by decide) .nil
  have hs : Spells "self='No'|age=\"1\"".toList [.test "self" "No", .or, .test "age" "1"] :=
    @Spells.test 's' '\'' ['e', 'l', 'f'] [] [] ['N', 'o'] _ _ rfl
      (List.all_iff_forall_prop.1 (by decide)) (by simp) (by simp) (by decide) (by decide)
      (.sign rfl hage)
  have hself : Derives .conjunction [.test "self" "No"] (.test "self" "No") :=
    (Derives.test _ _).conjunction_one
  have hd := hself.disjunction_more (Derives.test "age" "1").conjunction_one.disjunction_one
  have hk : KnownNames echo [.test "self" "No", .or, .test "age" "1"] := by
    intro name value h
    obtain ⟨rfl, -⟩ | ⟨rfl, -⟩ : name = "self" ∧ value = "No" ∨ name = "age" ∧ value = "1" := by
      simpa using h
    · rfl
    · rfl
  obtain ⟨t, ht, hmeaning⟩ := (compile_exact echo _ 0).2.2 _ _ hs hd hk
  have hno : echo.answer "no" ("self", "No") = .ok true := by cbv
  have hyes : echo.answer "yes" ("self", "No") = .ok false := by cbv
  refine ⟨t, ht, ((hmeaning "no").1 _).2 ⟨?_, ?_⟩, ((hmeaning "yes").2 _).2 ?_⟩
  · simp [asked, truth, hno]
  · simp [truth, hno]
  · exact ⟨[("self", "No")], ("age", "1"), [], .noField "str" "age", by simp [asked, truth, hyes],
      by simp [hyes], rfl, rfl⟩

end Expression

end Motif
