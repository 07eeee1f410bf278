import Motif.Pattern.Reader
import Motif.Proofs.Expression.Rendering

/-!
# Capture names in pattern text

A capture name is a word over a small alphabet, so it is found between any blanks, and no delimiter
and no sign of a scan occurs in it. Reading a name gives back the text without the blanks
(`readName_eq_ok_iff`).
-/

namespace Motif.Pattern

private theorem nameChars_isWord : ∀ n < 128,
    isNameChar (Char.ofNat n) = true → Text.isWord (Char.ofNat n) = true := by
  decide +kernel

private theorem toNat_lt_of_isNameChar {c : Char} (h : isNameChar c = true) : c.toNat < 128 := by
  have hle : ∀ d : Char, c ≤ d → c.toNat ≤ d.toNat := fun d hd ↦ hd
  simp only [isNameChar, isNameStart, Bool.or_eq_true, Bool.and_eq_true, decide_eq_true_eq,
    beq_iff_eq] at h
  rcases h with ((⟨-, h⟩ | ⟨-, h⟩) | rfl) | ⟨-, h⟩
  · exact Nat.lt_of_le_of_lt (hle _ h) (by decide)
  · exact Nat.lt_of_le_of_lt (hle _ h) (by decide)
  · decide
  · exact Nat.lt_of_le_of_lt (hle _ h) (by decide)

private theorem isWord_of_isNameChar {c : Char} (h : isNameChar c = true) :
    Text.isWord c = true := by
  have hword := nameChars_isWord c.toNat (toNat_lt_of_isNameChar h)
  rw [Char.ofNat_toNat] at hword
  exact hword h

section Names

variable {cs : List Char}

theorem isWord_of_isName (h : isName cs = true) : ∀ c ∈ cs, Text.isWord c = true := by
  cases cs with
  | nil => exact fun c hc ↦ absurd hc List.not_mem_nil
  | cons c cs =>
    rw [isName, Bool.and_eq_true, List.all_eq_true] at h
    refine List.forall_mem_cons.2
      ⟨isWord_of_isNameChar ?_, fun d hd ↦ isWord_of_isNameChar (h.2 d hd)⟩
    rw [isNameChar, h.1, Bool.true_or]

theorem trimmed_of_isName (h : isName cs = true) : Text.Trimmed cs := by
  have hword := isWord_of_isName h
  exact ⟨fun c hc ↦ Text.isBlank_of_isWord (hword c (List.mem_of_mem_head? hc)),
    fun c hc ↦ Text.isBlank_of_isWord (hword c (List.mem_of_getLast? hc))⟩

theorem not_mem_of_isName (h : isName cs = true) {c : Char} (hc : Text.isWord c = false) :
    c ∉ cs := fun hmem ↦ Text.ne_of_class (isWord_of_isName h c hmem) hc rfl

/-- A character that is neither of a word nor a blank is not in a name, nor around one. -/
theorem not_mem_of_isName_trim (h : isName (Text.trim cs) = true) {c : Char}
    (hword : Text.isWord c = false) (hblank : Text.isBlank c = false) : c ∉ cs := by
  obtain ⟨bs, bs', hcs, hbs, hbs', -⟩ := Text.exists_blanks_trim cs
  rw [hcs, List.mem_append, List.mem_append]
  rintro (hmem | hmem | hmem)
  · exact Text.ne_of_class (hbs c hmem) hblank rfl
  · exact not_mem_of_isName h hword hmem
  · exact Text.ne_of_class (hbs' c hmem) hblank rfl

/-- A name, with or without blanks around it, leaves an open state as it is. -/
theorem run_plain_of_isName (h : isName (Text.trim cs) = true) (depth : Int) :
    (ScanState.plain depth).run cs = ScanState.plain depth := by
  obtain ⟨bs, bs', hcs, hbs, hbs', -⟩ := Text.exists_blanks_trim cs
  refine ScanState.run_plain (fun c hc ↦ ?_) depth
  rw [hcs, List.mem_append, List.mem_append] at hc
  rcases hc with hc | hc | hc
  · exact ScanState.not_mem_signs_of_isBlank (hbs c hc)
  · exact ScanState.not_mem_signs_of_isWord (isWord_of_isName h c hc)
  · exact ScanState.not_mem_signs_of_isBlank (hbs' c hc)

theorem transparent_of_isName {isDelimiter : Char → Bool}
    (hd : ∀ c, Text.isWord c = true → isDelimiter c = false) (h : isName cs = true) (depth : Int) :
    Transparent isDelimiter depth cs :=
  .of_forall fun c hc ↦ ⟨ScanState.not_mem_signs_of_isWord (isWord_of_isName h c hc),
    hd c (isWord_of_isName h c hc)⟩

end Names

theorem readName_eq_ok_iff {used : List String} {position : Nat} {cs : List Char} {a : String} :
    readName used position cs = .ok a ↔
      a.toList = Text.trim cs ∧ isName (Text.trim cs) = true ∧ a ∉ used := by
  have heq : String.ofList (Text.trim cs) = a ↔ a.toList = Text.trim cs :=
    ⟨fun h ↦ by rw [← h, String.toList_ofList], fun h ↦ by rw [← h, String.ofList_toList]⟩
  rw [readName]
  by_cases hname : isName (Text.trim cs) = true
  · by_cases hused : String.ofList (Text.trim cs) ∈ used
    · simp only [hname, List.contains_iff_mem.2 hused, Bool.not_true, Bool.false_eq_true, if_false,
        if_true]
      refine ⟨fun h ↦ absurd h (by simp [refuse]), fun h ↦ absurd hused ?_⟩
      rw [heq.2 h.1]
      exact h.2.2
    · have hcontains : used.contains (String.ofList (Text.trim cs)) = false := by
        rw [Bool.eq_false_iff]
        exact fun h ↦ hused (List.contains_iff_mem.1 h)
      simp only [hname, hcontains, Bool.not_true, Bool.false_eq_true, if_false, true_and]
      constructor
      · intro h
        obtain rfl := Except.ok.inj h
        exact ⟨String.toList_ofList, hused⟩
      · exact fun h ↦ congrArg _ (heq.2 h.1)
  · simp only [Bool.not_eq_true] at hname
    simp [hname, refuse]

end Motif.Pattern
