import Motif.Proofs.Pattern.Grammar

/-!
# Pattern texts in a row

Two pattern texts with an edge between them are a pattern text. In the grammar this takes no
argument: links are a list of elements, and two such lists can be joined (`PatternText.append`).
What needs one is that a text is that of an edge, given only that it can stand between two nodes.
The edge might end before the text does, and what is left be taken in by the node behind it. But a
node leaves the scan open at depth zero, the characters behind the text are no signs, and so the
delimiter that the text ends with would have ended the node (`edgeText_of_patternText`).
-/

namespace Motif.Pattern

variable {V : Type} {voc : Vocabulary V}

/-- The text begins and ends with delimiters of edges. -/
def Delimited (cs : List Char) : Prop :=
  (∃ c ∈ cs.head?, (directionsOf? c).isSome = true) ∧
    ∃ c ∈ cs.getLast?, (directionsOf? c).isSome = true

private theorem endsNode_of_isSome {c : Char} (h : (directionsOf? c).isSome = true) :
    endsNode c = true ∧ c ∉ ScanState.signs := by
  obtain ⟨directions, hc⟩ := Option.isSome_iff_exists.1 h
  have hsigns : ∀ c ∈ ['<', '>', '-'], c ∉ ScanState.signs := List.all_iff_forall_prop.1 (by decide)
  exact ⟨endsNode_of_directionsOf? hc, hsigns c (mem_of_directionsOf? hc)⟩

/-! ## Joining texts of the grammar -/

theorem LinksText.append {cs bs edge bs' node cs' : List Char} {links links' : List (Link V)}
    {l : Link V} (h : LinksText voc cs links) (hbs : ∀ b ∈ bs, Text.isBlank b = true)
    (hedge : EdgeText edge l.edge) (hbs' : ∀ b ∈ bs', Text.isBlank b = true)
    (hnode : NodeText voc node l.node) (h' : LinksText voc cs' links') :
    LinksText voc (cs ++ (bs ++ (edge ++ (bs' ++ (node ++ cs'))))) (links ++ l :: links') := by
  induction h with
  | nil hblank =>
    have hbs'' : ∀ b ∈ _ ++ bs, Text.isBlank b = true := fun b hb ↦
      (List.mem_append.1 hb).elim (hblank b) (hbs b)
    rw [← List.append_assoc]
    exact .cons hbs'' hedge hbs' hnode h'
  | cons hblank hedge₁ hblank' hnode₁ _ ih =>
    simp only [List.append_assoc, List.cons_append] at ih ⊢
    exact .cons hblank hedge₁ hblank' hnode₁ ih

theorem PatternText.append {cs bs edge bs' cs' : List Char} {p q : Pattern V} {m : EdgeMatcher}
    (hp : PatternText voc cs p) (hbs : ∀ b ∈ bs, Text.isBlank b = true) (hedge : EdgeText edge m)
    (hbs' : ∀ b ∈ bs', Text.isBlank b = true) (hq : PatternText voc cs' q) :
    PatternText voc (cs ++ (bs ++ (edge ++ (bs' ++ cs'))))
      ⟨p.first, p.links ++ ⟨m, q.first⟩ :: q.links⟩ := by
  cases hp with
  | @intro bs₁ node rest p hbs₁ hnode hrest =>
    cases hq with
    | @intro bs₂ node' rest' q hbs₂ hnode' hrest' =>
      have hblank : ∀ b ∈ bs' ++ bs₂, Text.isBlank b = true := fun b hb ↦
        (List.mem_append.1 hb).elim (hbs' b) (hbs₂ b)
      have hlinks := hrest.append (l := ⟨m, q.first⟩) hbs hedge hblank hnode' hrest'
      simp only [List.append_assoc] at hlinks ⊢
      exact .intro hbs₁ hnode hlinks

theorem matchers_append (p q : Pattern V) (m : EdgeMatcher) :
    matchers ⟨p.first, p.links ++ ⟨m, q.first⟩ :: q.links⟩ =
      p.matchers ++ .edge m :: q.matchers := by
  simp [matchers]

private theorem captures_append (p q : Pattern V) (m : EdgeMatcher) :
    captures ⟨p.first, p.links ++ ⟨m, q.first⟩ :: q.links⟩ =
      p.captures ++ (m.name.toList ++ q.captures) := by
  rw [captures, matchers_append, List.filterMap_append, filterMap_cons_eq_append]
  rfl

/-! ## The text of an edge between two nodes -/

/-- The wildcard node in front of an edge, and a space. -/
def front : List Char := ['.', '*', ' ']

/-- A space, and the wildcard node behind an edge. -/
def back : List Char := [' ', '.', '*']

private theorem free_of_mem_front_or_back {c : Char} (h : c ∈ front ∨ c ∈ back) :
    c ∉ ScanState.signs ∧ endsNode c = false := by
  have hmem : c ∈ ['.', '*', ' '] := by
    rcases h with h | h
    · exact h
    · simp only [back, List.mem_cons] at h ⊢
      tauto
  have hsigns : ∀ c ∈ ['.', '*', ' '], c ∉ ScanState.signs := List.all_iff_forall_prop.1 (by decide)
  have hends : ∀ c ∈ ['.', '*', ' '], endsNode c = false := List.all_iff_forall_prop.1 (by decide)
  exact ⟨hsigns c hmem, hends c hmem⟩

private theorem eq_of_transparent {xs xs' ys ys' : List Char} {c c' : Char}
    (hxs : Transparent endsNode 0 xs) (hc : endsNode c = true) (hxs' : Transparent endsNode 0 xs')
    (hc' : endsNode c' = true) (h : xs ++ c :: ys = xs' ++ c' :: ys') :
    xs = xs' ∧ c = c' ∧ ys = ys' := by
  have hscan := hxs.scanTo_append hc ys
  rw [h, hxs'.scanTo_append hc' ys'] at hscan
  simpa [eq_comm] using hscan

/-- A node that begins and ends otherwise than in braces has tests, in which nothing ends it. -/
theorem NodeText.transparent {cs : List Char} {m : NodeMatcher V} (h : NodeText voc cs m)
    (hbraces : ∀ inner, cs ≠ '\x7b' :: inner ++ ['\x7d']) : Transparent endsNode 0 cs := by
  cases h with
  | tests _ hcs _ => exact hcs
  | braces _ _ => exact absurd rfl (hbraces _)

private theorem not_transparent_append {xs ys : List Char} {c : Char} (hc : endsNode c = true)
    (hsigns : ∀ d ∈ c :: ys, d ∉ ScanState.signs) : ¬ Transparent endsNode 0 (xs ++ c :: ys) := by
  intro h
  have hopen : (ScanState.plain 0).run xs = ScanState.plain 0 :=
    (ScanState.proper_plain 0).run_eq_plain hsigns h.closed
  exact (passes_append.1 h.passes).2.1 ⟨hopen, hc⟩

private theorem transparent_back {xs bs node bs' : List Char} {m : NodeMatcher V}
    (hbs : ∀ b ∈ bs, Text.isBlank b = true) (hnode : NodeText voc node m)
    (hbs' : ∀ b ∈ bs', Text.isBlank b = true) (h : xs ++ back = bs ++ (node ++ bs')) :
    Transparent endsNode 0 (xs ++ back) := by
  have hlast : (bs ++ (node ++ bs')).getLast? = some '*' := by
    rw [← h, back, List.getLast?_append]
    rfl
  have hbraces (inner : List Char) : node ≠ '\x7b' :: inner ++ ['\x7d'] := by
    rintro rfl
    -- The last character is a brace or a blank, and not the end of the wildcard.
    rcases List.eq_nil_or_concat bs' with rfl | ⟨bs'', b, rfl⟩
    · rw [List.append_nil, List.getLast?_append, List.getLast?_concat] at hlast
      exact absurd (Option.some_inj.1 hlast) (by decide)
    · rw [List.concat_eq_append, ← List.append_assoc, ← List.append_assoc,
        List.getLast?_concat] at hlast
      obtain rfl := Option.some_inj.1 hlast
      have hstar := hbs' '*' (by simp)
      exact absurd hstar (by decide)
  rw [h]
  exact (transparent_endsNode_of_isBlank hbs 0).append
    ((hnode.transparent hbraces).append (transparent_endsNode_of_isBlank hbs' 0))

private theorem transparent_front {xs bs node bs' ys : List Char} {m : NodeMatcher V}
    (hbs : ∀ b ∈ bs, Text.isBlank b = true) (hnode : NodeText voc node m)
    (hbs' : ∀ b ∈ bs', Text.isBlank b = true) (h : front ++ xs = bs ++ (node ++ ys)) :
    Transparent endsNode 0 (bs ++ (node ++ bs')) := by
  have hbraces (inner : List Char) : node ≠ '\x7b' :: inner ++ ['\x7d'] := by
    rintro rfl
    cases bs with
    | nil => exact absurd (List.cons_eq_cons.1 h).1 (by decide)
    | cons b bs =>
      obtain rfl : '.' = b := (List.cons_eq_cons.1 h).1
      have hdot := hbs '.' List.mem_cons_self
      exact absurd hdot (by decide)
  exact (transparent_endsNode_of_isBlank hbs 0).append
    ((hnode.transparent hbraces).append (transparent_endsNode_of_isBlank hbs' 0))

/-- **A text that can stand between two nodes is that of an edge**, if it begins and ends with
delimiters and makes one edge. -/
theorem edgeText_of_patternText {e : List Char} {q : Pattern V} {m : EdgeMatcher}
    (he : Delimited e) (hq : PatternText voc (front ++ (e ++ back)) q) (hm : q.edges = [m]) :
    EdgeText e m := by
  obtain ⟨⟨d, hd, hdir⟩, d', hd', hdir'⟩ := he
  obtain ⟨e', rfl⟩ := List.head?_eq_some_iff.1 hd
  obtain ⟨hends', hsigns'⟩ := endsNode_of_isSome hdir'
  obtain ⟨first, links⟩ := q
  generalize htext : front ++ (d :: e' ++ back) = text at hq
  cases hq with
  | @intro bs node rest _ hbs hnode hrest =>
    cases hrest with
    | nil _ => exact absurd hm (by simp [edges])
    | @cons bs₁ edge bs₂ node₂ bs₃ l links hbs₁ hedge hbs₂ hnode₂ hrest₂ =>
      obtain ⟨m', n⟩ := l
      obtain ⟨rfl, rfl⟩ : m' = m ∧ links = [] := by simpa [edges] using hm
      cases hrest₂ with
      | nil hbs₃ =>
        have hfront := transparent_front hbs hnode hbs₁ htext
        cases hedge with
        | @between c inner directions _ used hc hinner hne hread =>
          -- The edge begins where the text does: that is the first place where a node ends.
          have hdivided : front ++ d :: (e' ++ back) =
              bs ++ (node ++ bs₁) ++ c :: (inner ++ [c] ++ (bs₂ ++ (node₂ ++ bs₃))) := by
            simpa using htext
          obtain ⟨-, rfl, hrest⟩ := eq_of_transparent
            (.of_forall fun x hx ↦ free_of_mem_front_or_back (.inl hx))
            (endsNode_of_isSome hdir).1 hfront (endsNode_of_directionsOf? hc) hdivided
          suffices hend : e' = inner ++ [d] by
            rw [hend]
            exact .between hc hinner hne hread
          -- It ends where the text does: neither behind it nor before it.
          rcases List.append_eq_append_iff.1 hrest with ⟨zs, hzs, hback⟩ | ⟨zs, hzs, hback⟩
          · rcases List.eq_nil_or_concat zs with rfl | ⟨zs, x, rfl⟩
            · rw [hzs, List.append_nil]
            · have hx : d = x := by
                have hlast := congrArg List.getLast? hzs
                rw [List.getLast?_concat, List.concat_eq_append, ← List.append_assoc,
                  List.getLast?_concat] at hlast
                exact Option.some_inj.1 hlast
              have hmem : d ∈ back := by
                rw [hback, hx]
                simp
              have hfree := (free_of_mem_front_or_back (.inr hmem)).2
              rw [(endsNode_of_isSome hdir).1] at hfree
              exact absurd hfree.symm Bool.false_ne_true
          · rcases List.eq_nil_or_concat zs with rfl | ⟨zs, x, rfl⟩
            · rw [hzs, List.append_nil]
            · have hx : x = d' := by
                rw [hzs, List.concat_eq_append, ← List.append_assoc, ← List.cons_append,
                  List.getLast?_concat] at hd'
                exact Option.some_inj.1 hd'
              have hpasses := transparent_back hbs₂ hnode₂ hbs₃ hback.symm
              rw [List.concat_eq_append, List.append_assoc, hx] at hpasses
              refine absurd hpasses (not_transparent_append hends' ?_)
              refine List.forall_mem_cons.2 ⟨hsigns', fun y hy ↦ ?_⟩
              exact (free_of_mem_front_or_back (.inr hy)).1

/-! ## Reading texts in a row -/

/-- **Reading is compositional.** Let `e` be a text that begins and ends with delimiters and that
makes one edge when it stands between two wildcard nodes. Between any two texts that are read it
makes the same edge between the same patterns, with or without blanks around it, unless they share a
capture name. If they do, this is a mistake. -/
theorem read_append {t₁ t₂ e b₁ b₂ : String} {p₁ p₂ q : Pattern V} {m : EdgeMatcher}
    (h₁ : read voc t₁ = .ok p₁) (h₂ : read voc t₂ = .ok p₂) (he : Delimited e.toList)
    (hq : read voc (".* " ++ e ++ " .*") = .ok q) (hm : q.edges = [m])
    (hb₁ : ∀ b ∈ b₁.toList, Text.isBlank b = true) (hb₂ : ∀ b ∈ b₂.toList, Text.isBlank b = true) :
    (p₁.captures.Disjoint m.name.toList ∧ p₁.captures.Disjoint p₂.captures ∧
        m.name.toList.Disjoint p₂.captures →
      ∃ p, read voc (t₁ ++ b₁ ++ e ++ b₂ ++ t₂) = .ok p ∧
        p.matchers = p₁.matchers ++ .edge m :: p₂.matchers) ∧
    (¬ (p₁.captures.Disjoint m.name.toList ∧ p₁.captures.Disjoint p₂.captures ∧
        m.name.toList.Disjoint p₂.captures) →
      ∃ err, read voc (t₁ ++ b₁ ++ e ++ b₂ ++ t₂) = .error (.syntax' err)) := by
  have htext : (".* " ++ e ++ " .*").toList = front ++ (e.toList ++ back) := by
    simp [String.toList_append, front, back]
  have hedge : EdgeText e.toList m :=
    edgeText_of_patternText he (htext ▸ patternText_of_read hq) hm
  have hjoined : PatternText voc (t₁ ++ b₁ ++ e ++ b₂ ++ t₂).toList
      ⟨p₁.first, p₁.links ++ ⟨m, p₂.first⟩ :: p₂.links⟩ := by
    have happend := (patternText_of_read h₁).append hb₁ hedge hb₂ (patternText_of_read h₂)
    simpa [String.toList_append] using happend
  have hnames : (captures ⟨p₁.first, p₁.links ++ ⟨m, p₂.first⟩ :: p₂.links⟩).Nodup ↔
      p₁.captures.Disjoint m.name.toList ∧ p₁.captures.Disjoint p₂.captures ∧
        m.name.toList.Disjoint p₂.captures := by
    have hnodup₁ := (readable_of_read h₁).captures_nodup
    have hnodup₂ := (readable_of_read h₂).captures_nodup
    have hname : m.name.toList.Nodup := by cases m.name <;> simp
    rw [captures_append, List.nodup_append', List.nodup_append', List.disjoint_append_right]
    tauto
  have hgives := hjoined.givesIf.congr hnames
  exact ⟨fun hdisjoint ↦ ⟨_, hgives.ok hdisjoint, matchers_append p₁ p₂ m⟩, hgives.mistake⟩

theorem read_append_echo :
    ∃ (p₁ p₂ q : Pattern String) (m : EdgeMatcher),
      read Expression.echo "\x7bx:self='a<'\x7d" = .ok p₁ ∧
      read Expression.echo "self='-' >r> \x7by\x7d" = .ok p₂ ∧
      Delimited "<\x7be:r-s\x7d<".toList ∧
      read Expression.echo (".* " ++ "<\x7be:r-s\x7d<" ++ " .*") = .ok q ∧ q.edges = [m] ∧
      ∃ p, read Expression.echo
          ("\x7bx:self='a<'\x7d" ++ " " ++ "<\x7be:r-s\x7d<" ++ "" ++ "self='-' >r> \x7by\x7d") =
            .ok p ∧
        p.matchers = p₁.matchers ++ .edge m :: p₂.matchers := by
  have hread₁ : (read Expression.echo "\x7bx:self='a<'\x7d").toOption.map captures =
      some ["x"] := by
    cbv
  have hread₂ : (read Expression.echo "self='-' >r> \x7by\x7d").toOption.map captures =
      some ["y"] := by
    set_option maxRecDepth 2048 in cbv
  have hread : (read Expression.echo (".* " ++ "<\x7be:r-s\x7d<" ++ " .*")).toOption.map edges =
      some [⟨some "e", [.up], .label "r-s"⟩] := by
    set_option maxRecDepth 2048 in cbv
  obtain ⟨p₁, h₁, hp₁⟩ := Option.map_eq_some_iff.1 hread₁
  obtain ⟨p₂, h₂, hp₂⟩ := Option.map_eq_some_iff.1 hread₂
  obtain ⟨q, hq, hm⟩ := Option.map_eq_some_iff.1 hread
  rw [toOption_eq_some_iff] at h₁ h₂ hq
  have he : Delimited "<\x7be:r-s\x7d<".toList :=
    ⟨⟨'<', by decide, by decide⟩, '<', by decide, by decide⟩
  refine ⟨p₁, p₂, q, _, h₁, h₂, he, hq, hm, (read_append h₁ h₂ he hq hm ?_ ?_).1 ?_⟩
  · exact Text.isBlank_of_mem_space
  · simp
  · rw [hp₁, hp₂]
    simp

end Motif.Pattern
