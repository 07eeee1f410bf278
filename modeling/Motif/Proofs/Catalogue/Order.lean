import Motif.Proofs.Catalogue.Duplicates
import Motif.Proofs.Distinct

/-!
# The order of registration

A catalogue that is offered some patterns keeps those to which no equal one has been offered before
(`KeepsFirst`). One more offer keeps this so (`FilledWith.addOffer`), and hence it holds after any
number of offers (`FilledWith.addOffers`).

In another order other ids survive, and the patterns come in another order. But they are the same
patterns: equal patterns that have been compiled with one vocabulary are one pattern, so it makes no
difference which of them comes first. Searches with the two catalogues therefore find the same
matches, in another order and under other ids, unless their common limit is too large for a search.
-/

namespace Motif.Catalogue

variable {V : Type} {c d : Catalogue V} {x : String × Offer V} {y : String × Pattern V}
  {offers : List (String × Offer V)} {pairs others : List (String × Pattern V)}

/-! ## Adding offers -/

/-- The catalogue after an offer has been added under an id. -/
def addOffer (c : Catalogue V) (x : String × Offer V) : Except AddFault (Catalogue V) :=
  let change := c.add (.text x.1) x.2.candidate (.text "")
  change.outcome.map fun _ ↦ change.catalogue

/-- The catalogue after offers have been added one after the other, up to the first that fails. -/
def addOffers (c : Catalogue V) (offers : List (String × Offer V)) :
    Except AddFault (Catalogue V) :=
  offers.foldlM addOffer c

/-- The offer is read as a pattern, and it is made under the same id. -/
def IsOfferOf (voc : Vocabulary V) (x : String × Offer V) (y : String × Pattern V) : Prop :=
  x.1 = y.1 ∧ x.2.read voc = .ok y.2

/-- Of some patterns under ids, the catalogue has those that no earlier one equals. -/
structure KeepsFirst (c : Catalogue V) (pairs : List (String × Pattern V)) : Prop where
  /-- They come in the order in which they were offered. -/
  in_order : c.registered.Sublist (pairs.map fun x ↦ (.text x.1, x.2))
  /-- They are those that no earlier one equals. -/
  mem_iff : ∀ id p, (.text id, p) ∈ c.registered ↔
    ∃ before after, pairs = before ++ (id, p) :: after ∧ ∀ x ∈ before, x.2.same p = false

/-- The catalogue has been filled with some patterns under ids. -/
structure FilledWith (c : Catalogue V) (pairs : List (String × Pattern V)) : Prop where
  /-- There are only patterns under texts. -/
  named : c.Named
  /-- The patterns are the first of those with their signatures. -/
  registered_eq : c.registered =
    (distinctBy (fun x ↦ x.2.signature) pairs).map fun x ↦ (.text x.1, x.2)

theorem FilledWith.patterns_eq (h : FilledWith c pairs) :
    c.registered.map Prod.snd = distinctBy Pattern.signature (pairs.map Prod.snd) := by
  rw [h.registered_eq, distinctBy_map, List.map_map]
  rfl

theorem FilledWith.exists_same_iff (h : FilledWith c pairs) {p : Pattern V} :
    (∃ x ∈ c.registered, x.2.same p = true) ↔ p.signature ∈ pairs.map fun x ↦ x.2.signature := by
  have hsignatures : c.registered.map (fun x ↦ x.2.signature) =
      (distinctBy (fun x ↦ x.2.signature) pairs).map fun x ↦ x.2.signature := by
    rw [h.registered_eq, List.map_map]
    rfl
  rw [← mem_map_distinctBy, ← hsignatures, List.mem_map]
  exact exists_congr fun x ↦ and_congr_right fun _ ↦ beq_iff_eq

/-- A pattern that is offered under a free id is declined if an equal one is there, and otherwise it
comes at the end. -/
theorem Registers.declined_or_added {id : String} {offer : Offer V} {description : Yaml.Value}
    {outcome : Except AddFault Bool} {p : Pattern V}
    (h : Registers c d id offer description outcome) (hid : .text id ∉ c.ids)
    (hread : offer.read c.vocabulary = .ok p) :
    (outcome = .ok false ∧ d = c ∧ ∃ x ∈ c.registered, x.2.same p = true) ∨
      (outcome = .ok true ∧ d.registered = c.registered ++ [(.text id, p)] ∧
        ¬ ∃ x ∈ c.registered, x.2.same p = true) := by
  by_cases hsame : ∃ x ∈ c.registered, x.2.same p = true
  · have houtcome := h.false_iff.2 ⟨hid, p, hread, hsame⟩
    exact .inl ⟨houtcome, h.unchanged (by simp [houtcome]), hsame⟩
  · have hnofault : ¬ ∃ fault, outcome = .error fault := by
      rw [h.error_iff, hread]
      simp [hid]
    obtain ⟨added, rfl⟩ := not_not.1 (exists_eq_error_iff.not.1 hnofault)
    obtain rfl : added = true := by
      apply eq_true_of_ne_false
      rintro rfl
      obtain ⟨-, q, hq, hdeclined⟩ := h.false_iff.1 rfl
      obtain rfl := Except.ok.inj (hread.symm.trans hq)
      exact hsame hdeclined
    obtain ⟨q, hq, hentries⟩ := h.true_iff.1 rfl
    obtain rfl := Except.ok.inj (hread.symm.trans hq)
    refine .inr ⟨rfl, ?_, hsame⟩
    rw [registered, hentries, List.filterMap_append]
    rfl

/-- **One offer.** -/
theorem FilledWith.addOffer (h : FilledWith c pairs) (hx : IsOfferOf c.vocabulary x y)
    (hid : y.1 ∉ pairs.map Prod.fst) :
    ∃ d, c.addOffer x = .ok d ∧ FilledWith d (pairs ++ [y]) ∧ c.GrowsTo d := by
  obtain ⟨hname, hread⟩ := hx
  have hoffering := offering h.named x.1 x.2 (.text "")
  have hgrows := hoffering.grows h.named
  have hregisters := hoffering.registers h.named
  have hfree : .text x.1 ∉ c.ids := by
    rw [← h.named.map_fst_registered, h.registered_eq, List.map_map, List.mem_map]
    rintro ⟨z, hz, hkey⟩
    apply hid
    rw [← hname, ← Yaml.Scalar.text.inj hkey]
    exact List.mem_map_of_mem ((distinctBy_sublist _ _).mem hz)
  rw [Catalogue.addOffer]
  generalize c.add (.text x.1) x.2.candidate (.text "") = change at hgrows hregisters ⊢
  rcases hregisters.declined_or_added hfree hread with
    ⟨houtcome, hd, hsame⟩ | ⟨houtcome, hd, hsame⟩
  · refine ⟨change.catalogue, by rw [houtcome]; rfl, ⟨hgrows.named, ?_⟩, hgrows.growsTo⟩
    rw [distinctBy_concat, if_pos (h.exists_same_iff.1 hsame), hd, h.registered_eq]
  · refine ⟨change.catalogue, by rw [houtcome]; rfl, ⟨hgrows.named, ?_⟩, hgrows.growsTo⟩
    rw [distinctBy_concat, if_neg (h.exists_same_iff.not.1 hsame), hd, h.registered_eq, hname,
      List.map_append]
    rfl

/-- **Some offers.** -/
theorem FilledWith.addOffers {voc : Vocabulary V} (h : FilledWith c pairs)
    (hvoc : c.vocabulary = voc) (hoffers : List.Forall₂ (IsOfferOf voc) offers others)
    (hids : ((pairs ++ others).map Prod.fst).Nodup) :
    ∃ d, c.addOffers offers = .ok d ∧ FilledWith d (pairs ++ others) ∧ c.GrowsTo d := by
  induction hoffers generalizing c pairs with
  | nil =>
    rw [List.append_nil]
    exact ⟨c, rfl, h, .refl c⟩
  | @cons x y offers others hx hoffers ih =>
    have hid : y.1 ∉ pairs.map Prod.fst := by
      rw [List.map_append, List.map_cons] at hids
      exact fun hmem ↦ List.disjoint_of_nodup_append hids hmem List.mem_cons_self
    obtain ⟨d, hd, hfilled, hgrows⟩ := h.addOffer (hvoc.symm ▸ hx) hid
    rw [List.append_cons] at hids ⊢
    obtain ⟨e, he, hfilled', hgrows'⟩ := ih hfilled (hgrows.vocabulary.trans hvoc) hids
    refine ⟨e, ?_, hfilled', hgrows.trans hgrows'⟩
    rw [Catalogue.addOffers, List.foldlM_cons, hd]
    exact he

theorem FilledWith.keepsFirst (h : FilledWith c pairs) : KeepsFirst c pairs where
  in_order := by
    rw [h.registered_eq]
    exact (distinctBy_sublist _ _).map _
  mem_iff id p := by
    have hmem : (.text id, p) ∈ c.registered ↔
        (id, p) ∈ distinctBy (fun x ↦ x.2.signature) pairs := by
      rw [h.registered_eq, List.mem_map]
      simp
    rw [hmem, mem_distinctBy_iff]
    simp [Pattern.same]

/-! ## Searching -/

/-- Two searches find the same matches, whatever their order and their ids. -/
def FindAlike (a b : Except (SearchError V) (List (Finding V))) : Prop :=
  ∃ fs fs', a = .ok fs ∧ b = .ok fs' ∧ (fs.map Finding.found).Perm (fs'.map Finding.found)

/-- Two searches end alike: both find the same matches, or both fail. -/
def EndAlike (a b : Except (SearchError V) (List (Finding V))) : Prop :=
  FindAlike a b ∨ ∃ e e', a = .error e ∧ b = .error e'

private theorem EndAlike.findAlike_iff {a b : Except (SearchError V) (List (Finding V))}
    (h : EndAlike a b) : FindAlike a b ↔ ∃ fs, a = .ok fs := by
  constructor
  · rintro ⟨fs, -, ha, -⟩
    exact ⟨fs, ha⟩
  · rintro ⟨fs, ha⟩
    refine h.resolve_right ?_
    rintro ⟨e, -, he, -⟩
    exact nomatch ha.symm.trans he

section Search

variable [DecidableEq V] {g : Graph V}

/-- If no search for a pattern fails, the matches are those of the patterns. -/
theorem Named.exists_search_eq_ok (hc : c.Named) {found : Pattern V → List (Match V)}
    (h : ∀ p ∈ c.registered.map Prod.snd,
      p.search g none (c.limit.map Int.ofNat) = .ok (found p)) :
    ∃ fs, (c.search g).result.1 = .ok fs ∧
      fs.map Finding.found = (c.registered.map Prod.snd).flatMap found := by
  refine ⟨_, (hc.finds g).concatenated found (List.forall_mem_map.1 h), ?_⟩
  rw [List.map_flatMap, List.flatMap_map]
  refine List.flatMap_congr fun x _ ↦ ?_
  rw [List.map_map]
  exact List.map_id _

theorem Named.search_returns_iff (hc : c.Named) :
    (∃ fs, (c.search g).result.1 = .ok fs) ↔ ∀ p ∈ c.registered.map Prod.snd,
      ∃ found, p.search g none (c.limit.map Int.ofNat) = .ok found := by
  constructor
  · rintro ⟨fs, hfs⟩
    rw [(hc.finds g).outcome_eq, mapError_eq_ok_iff] at hfs
    rw [List.forall_mem_map]
    exact exists_search_of_findingsOf hfs
  · intro h
    choose! found hfound using h
    obtain ⟨fs, hfs, -⟩ := hc.exists_search_eq_ok hfound
    exact ⟨fs, hfs⟩

theorem Named.search_endAlike (hc : c.Named) (hd : d.Named) (hlimit : c.limit = d.limit)
    (hperm : (c.registered.map Prod.snd).Perm (d.registered.map Prod.snd)) (g : Graph V) :
    EndAlike (c.search g).result.1 (d.search g).result.1 := by
  by_cases hreturns : ∀ p ∈ c.registered.map Prod.snd,
      ∃ found, p.search g none (c.limit.map Int.ofNat) = .ok found
  · left
    choose! found hfound using hreturns
    obtain ⟨fs, hfs, hmatches⟩ := hc.exists_search_eq_ok hfound
    have hfound' : ∀ p ∈ d.registered.map Prod.snd,
        p.search g none (d.limit.map Int.ofNat) = .ok (found p) :=
      fun p hp ↦ hlimit ▸ hfound p (hperm.mem_iff.2 hp)
    obtain ⟨fs', hfs', hmatches'⟩ := hd.exists_search_eq_ok hfound'
    refine ⟨fs, fs', hfs, hfs', ?_⟩
    rw [hmatches, hmatches']
    exact hperm.flatMap_right found
  · right
    have hreturns' : ¬ ∀ p ∈ d.registered.map Prod.snd,
        ∃ found, p.search g none (d.limit.map Int.ofNat) = .ok found :=
      fun h ↦ hreturns fun p hp ↦ hlimit ▸ h p (hperm.mem_iff.1 hp)
    obtain ⟨e, he⟩ := exists_eq_error_iff.2 (hc.search_returns_iff.not.2 hreturns)
    obtain ⟨e', he'⟩ := exists_eq_error_iff.2 (hd.search_returns_iff.not.2 hreturns')
    exact ⟨e, e', he, he'⟩

end Search

/-! ## Two orders -/

private theorem map_ofNat_of_nonNegativeLimit {limit : Option Int} {n : Option Nat}
    (h : nonNegativeLimit limit = .ok n) : n.map Int.ofNat = limit := by
  rw [nonNegativeLimit.eq_def] at h
  split at h
  · rw [← Except.ok.inj h]
    rfl
  · next i =>
    split at h
    · exact nomatch h
    · next hi =>
      rw [← Except.ok.inj h]
      exact congrArg some (Int.toNat_of_nonneg (Int.not_lt.1 hi))

theorem filledWith_of_create {voc : Vocabulary V} {limit : Option Int}
    (h : create voc limit = .ok c) :
    FilledWith c [] ∧ c.vocabulary = voc ∧ c.limit.map Int.ofNat = limit := by
  have hnamed := named_of_create h
  obtain ⟨n, hn, rfl⟩ := bind_pure_eq_ok_iff.1 h
  exact ⟨⟨hnamed, rfl⟩, rfl, map_ofNat_of_nonNegativeLimit hn⟩

private theorem exists_filledWith {voc : Vocabulary V} {limit : Option Int}
    (h : create voc limit = .ok c) (hids : (pairs.map Prod.fst).Nodup)
    (hoffers : List.Forall₂ (IsOfferOf voc) offers pairs) :
    ∃ d, c.addOffers offers = .ok d ∧ FilledWith d pairs ∧ d.limit.map Int.ofNat = limit := by
  obtain ⟨hfilled, hvoc, hlimit⟩ := filledWith_of_create h
  obtain ⟨d, hd, hfilled', hgrows⟩ := hfilled.addOffers hvoc hoffers hids
  rw [← hgrows.limit] at hlimit
  exact ⟨d, hd, hfilled', hlimit⟩

/-- The patterns are the same in both orders, because equal ones are the same pattern. -/
theorem FilledWith.perm_patterns {voc : Vocabulary V} (hc : FilledWith c pairs)
    (hd : FilledWith d others) (hperm : pairs.Perm others)
    (hcompiled : ∀ x ∈ pairs, ∃ s, Pattern.read voc s = .ok x.2) :
    (c.registered.map Prod.snd).Perm (d.registered.map Prod.snd) := by
  rw [hc.patterns_eq, hd.patterns_eq]
  apply perm_distinctBy _ (hperm.map Prod.snd)
  simp only [List.forall_mem_map]
  intro x hx y hy hsignature
  obtain ⟨s, hs⟩ := hcompiled x hx
  obtain ⟨t, ht⟩ := hcompiled y hy
  exact (Pattern.readable_of_read hs).eq_of_same (Pattern.readable_of_read ht)
    (beq_iff_eq.2 hsignature)

variable [DecidableEq V]

/-- Where all tests answer, a search returns exactly if the limit can be asked for or there is no
pattern to ask for. -/
theorem FilledWith.search_returns_iff {g : Graph V} (hc : FilledWith c pairs)
    (hfree : ∀ x ∈ pairs, x.2.FaultFree g) :
    (∃ fs, (c.search g).result.1 = .ok fs) ↔ pairs = [] ∨ ∀ n ∈ c.limit, n ≤ maxLimit := by
  rw [hc.named.search_returns_iff, hc.patterns_eq]
  have hdistinct : ∀ p ∈ distinctBy Pattern.signature (pairs.map Prod.snd), p.FaultFree g := by
    intro p hp
    obtain ⟨x, hx, rfl⟩ := List.mem_map.1 ((distinctBy_sublist _ _).mem hp)
    exact hfree x hx
  constructor
  · intro h
    refine or_iff_not_imp_left.2 fun hne ↦ ?_
    have hne' : distinctBy Pattern.signature (pairs.map Prod.snd) ≠ [] :=
      distinctBy_ne_nil _ (List.map_eq_nil_iff.not.2 hne)
    obtain ⟨p, hp⟩ := List.exists_mem_of_ne_nil _ hne'
    exact (search_returns_iff_of_faultFree (hdistinct p hp)).1 (h p hp)
  · rintro (rfl | hlimit) p hp
    · exact absurd hp List.not_mem_nil
    · exact (search_returns_iff_of_faultFree (hdistinct p hp)).2 hlimit

/-- **The order of registration does not change what is matched.** Patterns under different ids,
all compiled with one vocabulary, are offered to two new catalogues with one limit, to the second in
another order. No offer is refused. Each catalogue keeps the first of equal patterns, and in the end
both have the same patterns. In every graph they find the same matches, unless both searches fail.
Where all tests answer they find the same matches exactly if the limit can be asked for or there is
no pattern to ask for. -/
theorem addOffers_perm {voc voc₁ voc₂ : Vocabulary V} {limit : Option Int}
    {start₁ start₂ : Catalogue V} {offers₁ offers₂ : List (String × Offer V)}
    (hids : (pairs.map Prod.fst).Nodup) (hperm : pairs.Perm others)
    (hcompiled : ∀ x ∈ pairs, ∃ s, Pattern.read voc s = .ok x.2)
    (hstart₁ : create voc₁ limit = .ok start₁)
    (hoffers₁ : List.Forall₂ (IsOfferOf voc₁) offers₁ pairs)
    (hstart₂ : create voc₂ limit = .ok start₂)
    (hoffers₂ : List.Forall₂ (IsOfferOf voc₂) offers₂ others) :
    ∃ c d, start₁.addOffers offers₁ = .ok c ∧ start₂.addOffers offers₂ = .ok d ∧
      KeepsFirst c pairs ∧ KeepsFirst d others ∧
      (c.registered.map Prod.snd).Perm (d.registered.map Prod.snd) ∧
      ∀ g, EndAlike (c.search g).result.1 (d.search g).result.1 ∧
        ((∀ x ∈ pairs, x.2.FaultFree g) →
          (FindAlike (c.search g).result.1 (d.search g).result.1 ↔
            pairs = [] ∨ ∀ n ∈ limit, n ≤ maxLimit)) := by
  have hids' : (others.map Prod.fst).Nodup := (hperm.map Prod.fst).nodup_iff.1 hids
  obtain ⟨c, hc, hcfilled, hclimit⟩ := exists_filledWith hstart₁ hids hoffers₁
  obtain ⟨d, hd, hdfilled, hdlimit⟩ := exists_filledWith hstart₂ hids' hoffers₂
  have hpatterns := hcfilled.perm_patterns hdfilled hperm hcompiled
  have hlimits : c.limit = d.limit :=
    Option.map_injective Int.ofNat_injective (hclimit.trans hdlimit.symm)
  refine ⟨c, d, hc, hd, hcfilled.keepsFirst, hdfilled.keepsFirst, hpatterns, fun g ↦ ?_⟩
  have halike := hcfilled.named.search_endAlike hdfilled.named hlimits hpatterns g
  refine ⟨halike, fun hfree ↦ ?_⟩
  rw [halike.findAlike_iff, hcfilled.search_returns_iff hfree, ← hclimit]
  simp

/-- A pattern with a test of its only vertex. -/
def quotedPattern : Pattern String :=
  ⟨.ofTest ((Expression.test "self" "a").toTest Expression.echo), []⟩

/-- Patterns of which the first equals the last. -/
def quotedPairs : List (String × Pattern String) :=
  [("single", quotedPattern), ("any", ⟨.any, []⟩), ("double", quotedPattern)]

/-- Their texts, in which the equal ones are written with different quotes. -/
def quotedTexts : List (String × Offer String) :=
  [("single", .text "self='a'"), ("any", .text ".*"), ("double", .text "self=\"a\"")]

theorem quotedPairs_faultFree : ∀ x ∈ quotedPairs, x.2.FaultFree Pattern.loopGraph := by
  have hanswers : ∀ x ∈ quotedPairs, x.2.answersEverywhere Pattern.loopGraph = true := by decide
  exact fun x hx ↦ Pattern.faultFree_of_answersEverywhere (hanswers x hx)

theorem addOffers_perm_reversed :
    (quotedPairs.map Prod.fst).Nodup ∧ quotedPairs.Perm quotedPairs.reverse ∧
    List.Forall₂ (IsOfferOf Expression.echo) quotedTexts quotedPairs ∧
    ∃ c d : Catalogue String, (empty Expression.echo (some 3)).addOffers quotedTexts = .ok c ∧
      (empty Expression.echo (some 3)).addOffers quotedTexts.reverse = .ok d ∧
      c.ids = [.text "single", .text "any"] ∧ d.ids = [.text "double", .text "any"] ∧
      FindAlike (c.search Pattern.loopGraph).result.1 (d.search Pattern.loopGraph).result.1 := by
  have hids : (quotedPairs.map Prod.fst).Nodup := by decide
  have hperm : quotedPairs.Perm quotedPairs.reverse := (List.reverse_perm _).symm
  have hsingle : Pattern.read Expression.echo "self='a'" = .ok quotedPattern := by
    set_option maxRecDepth 2048 in cbv
  have hany : Pattern.read Expression.echo ".*" = .ok ⟨.any, []⟩ := by
    set_option maxRecDepth 2048 in cbv
  have hdouble : Pattern.read Expression.echo "self=\"a\"" = .ok quotedPattern := by
    set_option maxRecDepth 2048 in cbv
  have hoffers : List.Forall₂ (IsOfferOf Expression.echo) quotedTexts quotedPairs :=
    .cons ⟨rfl, hsingle⟩ (.cons ⟨rfl, hany⟩ (.cons ⟨rfl, hdouble⟩ .nil))
  have hcompiled : ∀ x ∈ quotedPairs, ∃ s, Pattern.read Expression.echo s = .ok x.2 := by
    simp only [quotedPairs, List.forall_mem_cons]
    exact ⟨⟨_, hsingle⟩, ⟨_, hany⟩, ⟨_, hdouble⟩, by simp⟩
  have hstart : create Expression.echo (some 3) = .ok (empty Expression.echo (some 3)) := rfl
  obtain ⟨c, d, hc, hd, -, -, -, hsearch⟩ := addOffers_perm hids hperm hcompiled hstart hoffers
    hstart (List.rel_reverse hoffers)
  refine ⟨hids, hperm, hoffers, c, d, hc, hd, ?_, ?_, ?_⟩
  · have heval : ((empty Expression.echo (some 3)).addOffers quotedTexts).map ids =
        .ok [.text "single", .text "any"] := by
      set_option maxRecDepth 2048 in cbv
    rw [hc] at heval
    exact Except.ok.inj heval
  · have heval : ((empty Expression.echo (some 3)).addOffers quotedTexts.reverse).map ids =
        .ok [.text "double", .text "any"] := by
      set_option maxRecDepth 2048 in cbv
    rw [hd] at heval
    exact Except.ok.inj heval
  · exact ((hsearch Pattern.loopGraph).2 quotedPairs_faultFree).2 (.inr (by decide))

/-- Catalogues with a limit that no search can be made with find nothing, though all tests
answer. -/
theorem not_findAlike_beyond_maxLimit :
    ∃ c d : Catalogue String,
      (empty Expression.echo (some 9223372036854775808)).addOffers quotedTexts = .ok c ∧
      (empty Expression.echo (some 9223372036854775808)).addOffers quotedTexts.reverse = .ok d ∧
      (∀ x ∈ quotedPairs, x.2.FaultFree Pattern.loopGraph) ∧
      (c.search Pattern.loopGraph).result.1 = .error (.search (.limit .tooLarge)) ∧
      ¬ FindAlike (c.search Pattern.loopGraph).result.1 (d.search Pattern.loopGraph).result.1 := by
  have hfails : ((empty Expression.echo (some 9223372036854775808)).addOffers quotedTexts).map
      (fun c ↦ (c.search Pattern.loopGraph).result.1) =
        .ok (.error (.search (.limit .tooLarge))) := by
    set_option maxRecDepth 2048 in cbv
  have hreversed : ((empty Expression.echo (some 9223372036854775808)).addOffers
      quotedTexts.reverse).map ids = .ok [.text "double", .text "any"] := by
    set_option maxRecDepth 2048 in cbv
  obtain ⟨c, hc, hcsearch⟩ := map_eq_ok_iff.1 hfails
  obtain ⟨d, hd, -⟩ := map_eq_ok_iff.1 hreversed
  refine ⟨c, d, hc, hd, quotedPairs_faultFree, hcsearch, fun h ↦ ?_⟩
  obtain ⟨fs, -, hfs, -⟩ := h
  rw [hcsearch] at hfs
  cases hfs

end Motif.Catalogue
