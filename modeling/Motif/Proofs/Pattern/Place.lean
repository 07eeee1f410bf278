import Motif.Proofs.Expression.Place
import Motif.Proofs.Pattern.Grammar

/-!
# The places of mistakes in pattern text

Pattern text is taken apart by several readers, each of which gets a piece of the text and the
number of characters before it. Two things go with a piece through all of them: it stands in the
text behind that many characters, and what comes behind it ends a node. The second is needed for
expressions alone (`Expression.traced_of_read`).

Put together, the mistakes of pattern text are located with the exception of those that
`SyntaxError.Misplaced` describes, and of these none is (`Pattern.located_iff_of_read`).
-/

namespace Motif.Pattern

open Text (StandsAt)
open Expression (EndsAt)
open SyntaxError

variable {V : Type} {voc : Vocabulary V} {text cs : List Char} {used : List String}
  {position : Nat} {e : SyntaxError}

theorem eq_of_refuse {α : Type} {cause : Cause} {piece : List Char}
    (h : (refuse cause piece position : Except TextFault α) = .error (.syntax' e)) :
    at' cause piece position = e := TextFault.syntax'.inj (Except.error.inj h)

theorem standsAt_of_drop (hcs : text.drop position = cs) : StandsAt text position cs := by
  rw [StandsAt, hcs]

theorem endsAt_of_standsAt {before after : List Char} {d : Char}
    (h : StandsAt text position (before ++ d :: after)) (hd : d ∈ Expression.nodeDelimiters) :
    EndsAt text (position + before.length) := by
  intro c hc
  obtain rfl : d = c := Option.some_inj.1 (h.of_append.head?_eq.symm.trans hc)
  exact .inr hd

/-! ## Tests -/

/-- Behind a test without the blanks around it come these blanks, or what comes behind the test. -/
private theorem endsAt_trim {start : Nat}
    (hstart : start = position + (cs.length - (Text.trimLeft cs).length))
    (hcs : StandsAt text position cs) (hend : EndsAt text (position + cs.length)) :
    EndsAt text (start + (Text.trim cs).length) := by
  obtain ⟨bs, hleft, hbs, -⟩ := Text.exists_blanks_trimRight (Text.trimLeft cs)
  have hback := hcs.back (Text.trimLeft_suffix cs)
  rw [← hstart, hleft] at hback
  cases bs with
  | nil =>
    -- Nothing is cut off at the back, and the test ends where all of it does.
    have hlength := Text.length_trimLeft_le cs
    rw [List.append_nil] at hleft
    rw [Text.trim, ← hleft]
    rwa [show start + (Text.trimLeft cs).length = position + cs.length by omega]
  | cons b bs =>
    intro c hc
    obtain rfl : b = c := Option.some_inj.1 (hback.of_append.head?_eq.symm.trans hc)
    exact .inl (hbs b List.mem_cons_self)

theorem traced_of_readTest (h : readTest voc position cs = .error (.syntax' e))
    (hcs : StandsAt text position cs) (hend : EndsAt text (position + cs.length)) :
    e.Traced text := by
  unfold readTest at h
  dsimp only at h
  split at h
  · rw [← eq_of_refuse h]
    exact traced_of_standsAt hcs id
  split at h
  · exact absurd h (by simp)
  obtain ⟨fault, hcompile, hfault⟩ := mapError_eq_error_iff.1 h
  obtain rfl := TextFault.syntax'.inj hfault
  refine Expression.traced_of_compile hcompile (Text.trimmed_trim cs) ?_ (endsAt_trim rfl hcs hend)
  exact (hcs.back (Text.trimLeft_suffix cs)).front (Text.trimRight_prefix _)

theorem traced_of_readTests (h : readTests voc position cs = .error (.syntax' e))
    (hcs : StandsAt text position cs) (hend : EndsAt text (position + cs.length)) :
    e.Traced text := by
  fun_induction readTests voc position cs with
  | case1 position cs => exact traced_of_readTest (bind_pure_eq_error_iff.1 h) hcs hend
  | case2 position cs before d after hscan ih =>
    obtain ⟨rfl, -, -, hd⟩ := scanTo_eq_some_iff.1 hscan
    obtain rfl : d = ':' := by simpa using hd
    rcases bind_eq_error_iff.1 h with h | ⟨t, -, h⟩
    · -- The first test ends at the colon.
      exact traced_of_readTest h (hcs.front ⟨_, rfl⟩) (endsAt_of_standsAt hcs (by decide))
    · rcases bind_eq_error_iff.1 h with h | ⟨⟨u, us⟩, -, h⟩
      · refine ih h hcs.of_append.tail ?_
        rwa [List.length_append, List.length_cons, Nat.add_comm after.length, ← Nat.add_assoc,
          ← Nat.add_assoc] at hend
      · cases h

theorem traced_of_readConjunction (h : readConjunction voc position cs = .error (.syntax' e))
    (hcs : StandsAt text position cs) (hend : EndsAt text (position + cs.length)) :
    e.Traced text := by
  rcases bind_eq_error_iff.1 h with h | ⟨⟨t, ts⟩, -, h⟩
  · exact traced_of_readTests h hcs hend
  · cases h

/-! ## Names and labels -/

theorem traced_of_readName (h : readName used position cs = .error (.syntax' e))
    (hcs : StandsAt text position cs) : e.Traced text := by
  unfold readName at h
  dsimp only at h
  split at h
  · rw [← eq_of_refuse h]
    exact traced_trim hcs Iff.rfl
  split at h
  · rw [← eq_of_refuse h]
    exact traced_trim hcs Iff.rfl
  · cases h

theorem traced_of_readLabel (h : readLabel position cs = .error (.syntax' e))
    (hcs : StandsAt text position cs) : e.Traced text := by
  unfold readLabel at h
  dsimp only at h
  split at h
  · cases h
  split at h
  · split at h
    · cases h
    · rw [← eq_of_refuse h]
      exact traced_trim hcs Iff.rfl
    · cases h
  · split at h
    · cases h
    · rw [← eq_of_refuse h]
      exact traced_trim hcs Iff.rfl

/-! ## Nodes -/

theorem traced_of_readCapturedNode
    (h : readCapturedNode voc used position cs = .error (.syntax' e))
    (hcs : StandsAt text position cs) (hend : EndsAt text (position + cs.length)) :
    e.Traced text := by
  have hname : (Text.cut ':' cs).1 <+: cs := ⟨_, Text.cut_append ':' cs⟩
  unfold readCapturedNode at h
  split at h
  · next name hcut =>
    rw [hcut] at hname
    exact traced_of_readName (bind_pure_eq_error_iff.1 h) (hcs.front hname)
  next name tests hcut =>
  rw [hcut] at hname
  have htests : tests <:+ cs := by
    rw [(Text.cut_eq_some hcut).1]
    exact (List.suffix_cons _ _).trans (List.suffix_append _ _)
  rcases bind_eq_error_iff.1 h with h | ⟨a, -, h⟩
  · exact traced_of_readName h (hcs.front hname)
  split at h
  · rw [← eq_of_refuse h]
    exact traced_of_standsAt hcs id
  refine traced_of_readConjunction (bind_pure_eq_error_iff.1 h) (hcs.back htests) ?_
  rwa [Nat.add_assoc, Nat.sub_add_cancel htests.length_le]

theorem traced_of_readNode {c : Char} (h : readNode voc used position c cs = .error (.syntax' e))
    (hcs : text.drop position = c :: cs) : e.Traced text := by
  have hstands : StandsAt text position (c :: cs) := standsAt_of_drop hcs
  unfold readNode at h
  split at h
  · split at h
    · rw [← eq_of_refuse h]
      exact traced_of_standsAt hstands id
    next inner d after hscan =>
    obtain ⟨rfl, -, -, hd⟩ := scanTo_eq_some_iff.1 hscan
    obtain rfl : d = '\x7d' := by simpa using hd
    rcases bind_eq_error_iff.1 h with h | ⟨⟨a, m⟩, -, h⟩
    · exact traced_of_readCapturedNode h (hstands.tail.front ⟨_, rfl⟩)
        (endsAt_of_standsAt hstands.tail (by decide))
    · cases h
  split at h
  · refine traced_of_readConjunction (bind_pure_eq_error_iff.1 h) hstands fun d hd ↦ ?_
    -- The node is the last one, and nothing comes behind it.
    rw [← List.drop_drop, hcs, List.drop_length] at hd
    cases hd
  · rw [← eq_of_refuse h]
    exact traced_of_standsAt (hstands.front ⟨cs, rfl⟩) id
  next x before d after hscan =>
  obtain ⟨heq, -, -, hd⟩ := scanTo_eq_some_iff.1 hscan
  rw [heq] at hstands
  exact traced_of_readConjunction (bind_pure_eq_error_iff.1 h) (hstands.front ⟨_, rfl⟩)
    (endsAt_of_standsAt hstands (mem_nodeDelimiters_of_endsNode hd))

/-! ## Edges -/

theorem traced_of_readEdgeBody {directions : List Direction}
    (h : readEdgeBody directions used position cs = .error (.syntax' e))
    (hcs : StandsAt text position cs) : e.Traced text := by
  unfold readEdgeBody at h
  dsimp only at h
  split at h
  case h_2 =>
    exact traced_of_readLabel (bind_pure_eq_error_iff.1 h) (hcs.front (Text.trimRight_prefix cs))
  next inside =>
  split at h
  · rw [← eq_of_refuse h]
    exact traced_of_standsAt hcs id
  next inner d after hscan =>
  split at h
  · rw [← eq_of_refuse h]
    exact traced_of_standsAt (hcs.front (Text.trimRight_prefix _)) id
  have hinner : StandsAt text (position + 1) inner := hcs.tail.front (by
    rw [(scanTo_eq_some hscan).1]
    exact List.prefix_append _ _)
  have hname : (Text.cut ':' inner).1 <+: inner := ⟨_, Text.cut_append ':' inner⟩
  split at h
  · next name hcut =>
    rw [hcut] at hname
    exact traced_of_readName (bind_pure_eq_error_iff.1 h) (hinner.front hname)
  next name label hcut =>
  rw [hcut] at hname
  rcases bind_eq_error_iff.1 h with h | ⟨a, -, h⟩
  · exact traced_of_readName h (hinner.front hname)
  refine traced_of_readLabel (bind_pure_eq_error_iff.1 h) (hinner.back ?_)
  rw [(Text.cut_eq_some hcut).1]
  exact (List.suffix_cons _ _).trans (List.suffix_append _ _)

theorem traced_of_readEdge {c : Char} (h : readEdge used position c cs = .error (.syntax' e))
    (hcs : StandsAt text position (c :: cs)) : e.Traced text := by
  unfold readEdge at h
  split at h
  · rw [← eq_of_refuse h]
    exact traced_of_standsAt (hcs.front ⟨cs, rfl⟩) id
  split at h
  · rw [← eq_of_refuse h]
    exact traced_of_standsAt hcs id
  next directions _ inner d after hscan =>
  obtain ⟨rfl, -, -, hd⟩ := scanTo_eq_some_iff.1 hscan
  obtain rfl : d = c := by simpa using hd
  dsimp only at h
  split at h
  · rw [← eq_of_refuse h]
    exact traced_of_standsAt (hcs.front ⟨after, by simp⟩) id
  · have hinner : StandsAt text (position + 1) inner := hcs.tail.front ⟨_, rfl⟩
    exact traced_of_readEdgeBody (bind_pure_eq_error_iff.1 h)
      (hinner.back (Text.trimLeft_suffix inner))

/-! ## Patterns -/

theorem drop_of_suffix {ys : List Char} (hcs : text.drop position = cs) (hys : ys <:+ cs) :
    text.drop (position + (cs.length - ys.length)) = ys := by
  obtain ⟨xs, rfl⟩ := hys
  rw [← List.drop_drop, hcs, List.length_append, Nat.add_sub_cancel, List.drop_left]

theorem traced_of_readLinks (h : readLinks voc used position cs = .error (.syntax' e))
    (hcs : text.drop position = cs) : e.Traced text := by
  fun_induction readLinks voc used position cs with
  | case1 => cases h
  | case2 used position cs c rest hcons start =>
    rename_i ih
    have hstart : text.drop start = c :: rest := by
      have hsuffix := Text.trimLeft_suffix cs
      rw [hcons] at hsuffix
      exact drop_of_suffix hcs hsuffix
    have hstands : StandsAt text start (c :: rest) := standsAt_of_drop hstart
    rcases bind_eq_error_iff.1 h with h | ⟨edge, hedge, h⟩
    · exact traced_of_readEdge h hstands
    split at h
    · rw [← eq_of_refuse h]
      exact traced_of_standsAt hstands id
    next d rest' hcons' =>
    -- The node begins where the edge and the blanks behind it end.
    have hnode : text.drop (start + (rest.length + 1 - (rest'.length + 1))) = d :: rest' := by
      obtain ⟨edgeText, heq, -⟩ := edgeText_of_readEdge hedge
      have hsuffix := (Text.trimLeft_suffix edge.rest).trans ⟨edgeText, heq.symm⟩
      rw [hcons'] at hsuffix
      exact drop_of_suffix hstart hsuffix
    rcases bind_eq_error_iff.1 h with h | ⟨node, hread, h⟩
    · exact traced_of_readNode h hnode
    refine ih edge d rest' hcons' node (bind_pure_eq_error_iff.1 h) ?_
    obtain ⟨nodeText, heq, -⟩ := nodeText_of_readNode (Text.isBlank_of_trimLeft hcons') hread
    exact drop_of_suffix hnode ⟨nodeText, heq.symm⟩

/-- **The mistakes of pattern text are located, with the exceptions described and no others.** -/
theorem located_iff_of_read {text : String} (h : read voc text = .error (.syntax' e)) :
    e.Located text.toList ↔ ¬ e.Misplaced text.toList := by
  unfold read at h
  dsimp only at h
  split at h
  · rw [← eq_of_refuse h]
    exact traced_of_standsAt (standsAt_of_drop rfl) id
  next c rest hcons =>
  have hstart : text.toList.drop (text.toList.length - (rest.length + 1)) = c :: rest := by
    have hsuffix := Text.trimLeft_suffix text.toList
    rw [hcons] at hsuffix
    have hdrop := drop_of_suffix (rfl : text.toList.drop 0 = text.toList) hsuffix
    rwa [Nat.zero_add] at hdrop
  rcases bind_eq_error_iff.1 h with h | ⟨node, hread, h⟩
  · exact traced_of_readNode h hstart
  obtain ⟨nodeText, heq, -⟩ := nodeText_of_readNode (Text.isBlank_of_trimLeft hcons) hread
  exact traced_of_readLinks (bind_pure_eq_error_iff.1 h)
    (drop_of_suffix hstart ⟨nodeText, heq.symm⟩)

/-- An unknown attribute is located behind everything that has been cut off: a capture and its name,
another test and the blanks before its name. -/
theorem located_iff_of_read_unknown :
    ∃ e, read Expression.echo "\x7bx\x7d >r> \x7b y : .* :  !( colour='red') \x7d" =
        .error (.syntax' e) ∧
      e.token = some "colour" ∧ e.position = 23 ∧
      (e.Located "\x7bx\x7d >r> \x7b y : .* :  !( colour='red') \x7d".toList ↔
        ¬ e.Misplaced "\x7bx\x7d >r> \x7b y : .* :  !( colour='red') \x7d".toList) := by
  have hread : (read Expression.echo "\x7bx\x7d >r> \x7b y : .* :  !( colour='red') \x7d") =
      .error (.syntax' (at' (.unknownAttribute ["age", "self"]) "colour".toList 23)) := by
    cbv
  exact ⟨_, hread, congrArg some String.ofList_toList, rfl, located_iff_of_read hread⟩

/-- A name that is none is reported at the place of the blank before it. -/
theorem not_located_of_read_blank :
    ∃ e, read Expression.echo "\x7b 1\x7d" = .error (.syntax' e) ∧ e.token = some "1" ∧
      e.position = 1 ∧ ¬ e.Located "\x7b 1\x7d".toList := by
  have hread : read Expression.echo "\x7b 1\x7d" =
      .error (.syntax' (at' .invalidName ['1'] 1)) := by
    cbv
  refine ⟨_, hread, rfl, rfl, fun hlocated ↦ ?_⟩
  exact absurd (located_at'_iff.1 hlocated) (by decide)

end Motif.Pattern
