import Motif.Distinct

/-!
# Maps in insertion order

A finite map that remembers the order in which its keys first came in. Storing a key again replaces
its value and leaves it in its place.
-/

namespace Motif

/-- A finite map from keys to values, in the order in which the keys first came in. -/
structure InsertionMap (κ α : Type) where
  /-- The keys and their values, in order. -/
  entries : List (κ × α)
  /-- No key has two values. -/
  keys_nodup : (entries.map Prod.fst).Nodup

namespace InsertionMap

variable {κ α : Type}

def empty : InsertionMap κ α := ⟨[], by simp⟩

def keys (m : InsertionMap κ α) : List κ := m.entries.map Prod.fst

def values (m : InsertionMap κ α) : List α := m.entries.map Prod.snd

variable [DecidableEq κ]

/-- Stores a value in a list of entries: in the place of the key, or at the end. -/
def store (k : κ) (a : α) : List (κ × α) → List (κ × α)
  | [] => [(k, a)]
  | (l, b) :: rest => if l = k then (k, a) :: rest else (l, b) :: store k a rest

theorem keys_store (k : κ) (a : α) (es : List (κ × α)) :
    (store k a es).map Prod.fst =
      if k ∈ es.map Prod.fst then es.map Prod.fst else es.map Prod.fst ++ [k] := by
  induction es with
  | nil => simp [store]
  | cons e es ih =>
    obtain ⟨l, b⟩ := e
    by_cases h : l = k
    · simp [store, h]
    · have h' : ¬ k = l := fun hk ↦ h hk.symm
      simp only [store, h, if_false, List.map_cons, ih, List.mem_cons, h', false_or]
      split <;> simp

def insert (m : InsertionMap κ α) (k : κ) (a : α) : InsertionMap κ α where
  entries := store k a m.entries
  keys_nodup := by
    rw [keys_store]
    split
    · exact m.keys_nodup
    · rename_i h
      refine List.nodup_append.2 ⟨m.keys_nodup, by simp, ?_⟩
      intro x hx y hy hxy
      simp only [List.mem_singleton] at hy
      exact h (hy ▸ hxy ▸ hx)

def get? (m : InsertionMap κ α) (k : κ) : Option α :=
  (m.entries.find? fun e ↦ e.1 = k).map Prod.snd

def contains (m : InsertionMap κ α) (k : κ) : Bool := m.entries.any fun e ↦ e.1 = k

/-- The map after storing a list of entries one after the other. -/
def insertAll (m : InsertionMap κ α) (es : List (κ × α)) : InsertionMap κ α :=
  es.foldl (fun m e ↦ m.insert e.1 e.2) m

/-- The map that a list of entries leaves when they are stored one after the other. -/
def ofList (es : List (κ × α)) : InsertionMap κ α := es.foldl (fun m e ↦ m.insert e.1 e.2) empty

/-- Whether two maps send the same keys to the same values, whatever their orders. -/
def sameContent [DecidableEq α] (m n : InsertionMap κ α) : Bool :=
  m.entries.length == n.entries.length && m.entries.all fun e ↦ n.get? e.1 == some e.2

theorem keys_insert (m : InsertionMap κ α) (k : κ) (a : α) :
    (m.insert k a).keys = if k ∈ m.keys then m.keys else m.keys ++ [k] := keys_store k a m.entries

theorem find?_store (k : κ) (a : α) (es : List (κ × α)) (l : κ) :
    ((store k a es).find? fun e ↦ e.1 = l).map Prod.snd =
      if l = k then some a else (es.find? fun e ↦ e.1 = l).map Prod.snd := by
  induction es with
  | nil => by_cases h : l = k <;> simp [store, h, eq_comm]
  | cons e es ih =>
    obtain ⟨x, b⟩ := e
    by_cases hx : x = k
    · subst hx
      by_cases hl : l = x
      · simp [store, hl]
      · have hl' : ¬ x = l := fun h ↦ hl h.symm
        simp [store, hl, hl']
    · by_cases hl : x = l
      · subst hl
        simp [store, hx]
      · simp [store, hx, hl, ih]

/-- A look-up after storing a key finds the new value there and the old values elsewhere. -/
theorem get?_insert (m : InsertionMap κ α) (k : κ) (a : α) (l : κ) :
    (m.insert k a).get? l = if l = k then some a else m.get? l := find?_store k a m.entries l

/-! ## Storing several entries -/

/-- The value that the last entry of a key gives it. -/
def lastOf (k : κ) (es : List (κ × α)) : Option α :=
  (es.filter fun e ↦ e.1 = k).getLast?.map Prod.snd

theorem lastOf_append (k : κ) (es fs : List (κ × α)) :
    lastOf k (es ++ fs) = (lastOf k fs).or (lastOf k es) := by
  simp only [lastOf, List.filter_append, List.getLast?_append, Option.map_or]

theorem lastOf_eq_none {k : κ} {es : List (κ × α)} (h : k ∉ es.map Prod.fst) :
    lastOf k es = none := by
  have hfilter : es.filter (fun e ↦ e.1 = k) = [] := by
    refine List.filter_eq_nil_iff.2 fun e he hk ↦ h ?_
    exact List.mem_map.2 ⟨e, he, of_decide_eq_true hk⟩
  rw [lastOf, hfilter]
  rfl

theorem exists_lastOf {k : κ} {es : List (κ × α)} (h : k ∈ es.map Prod.fst) :
    ∃ a, lastOf k es = some a := by
  obtain ⟨e, he, hkey⟩ := List.mem_map.1 h
  have hmem : e ∈ es.filter fun e ↦ e.1 = k := List.mem_filter.2 ⟨he, decide_eq_true hkey⟩
  rw [lastOf, List.getLast?_eq_some_getLast (List.ne_nil_of_mem hmem)]
  exact ⟨_, rfl⟩

/-- Where no key occurs twice, the order of the entries does not matter. -/
theorem lastOf_reverse {k : κ} {es : List (κ × α)} (h : (es.map Prod.fst).Nodup) :
    lastOf k es.reverse = lastOf k es := by
  induction es with
  | nil => rfl
  | cons e es ih =>
    rw [List.map_cons, List.nodup_cons] at h
    have hcons : lastOf k (e :: es) = (lastOf k es).or (lastOf k [e]) := lastOf_append k [e] es
    rw [List.reverse_cons, lastOf_append, ih h.2, hcons]
    by_cases hk : e.1 = k
    · have hnone : lastOf k es = none := lastOf_eq_none (hk ▸ h.1)
      rw [hnone, Option.or_none, Option.none_or]
    · have hnone : lastOf k [e] = none :=
        lastOf_eq_none fun hmem ↦ hk (List.mem_singleton.1 hmem).symm
      rw [hnone, Option.or_none, Option.none_or]

/-- The last entry of a key stays the last one if every entry gets a new value. -/
theorem lastOf_mapValues {β : Type} {k : κ} {es : List (κ × α)} (f : κ → α → β) :
    lastOf k (es.map fun e ↦ (e.1, f e.1 e.2)) = (lastOf k es).map (f k) := by
  rw [lastOf, lastOf, List.filter_map, List.getLast?_map, Option.map_map, Option.map_map]
  refine Option.map_congr fun e he ↦ ?_
  obtain ⟨-, hkey⟩ := List.mem_filter.1 (List.mem_of_getLast? he)
  exact congrArg (f · e.2) (of_decide_eq_true hkey)

theorem lastOf_map {β : Type} {k : κ} {es : List (κ × α)} (f : α → β) :
    lastOf k (es.map fun e ↦ (e.1, f e.2)) = (lastOf k es).map f := lastOf_mapValues fun _ ↦ f

@[simp] theorem insertAll_nil (m : InsertionMap κ α) : m.insertAll [] = m := rfl

theorem insertAll_cons (m : InsertionMap κ α) (e : κ × α) (es : List (κ × α)) :
    m.insertAll (e :: es) = (m.insert e.1 e.2).insertAll es := rfl

@[simp] theorem insertAll_append (m : InsertionMap κ α) (es fs : List (κ × α)) :
    m.insertAll (es ++ fs) = (m.insertAll es).insertAll fs := List.foldl_append

@[simp] theorem empty_insertAll (es : List (κ × α)) : empty.insertAll es = ofList es := rfl

@[simp] theorem get?_empty (k : κ) : (empty : InsertionMap κ α).get? k = none := rfl

/-- The last entry of a key wins, and keys without an entry keep their values. -/
theorem get?_insertAll (m : InsertionMap κ α) (es : List (κ × α)) (k : κ) :
    (m.insertAll es).get? k = (lastOf k es).or (m.get? k) := by
  induction es generalizing m with
  | nil => rfl
  | cons e es ih =>
    rw [insertAll_cons, ih, get?_insert, lastOf, lastOf, List.filter_cons]
    by_cases h : e.1 = k
    · rw [if_pos h.symm, if_pos (decide_eq_true h), List.getLast?_cons]
      cases (es.filter fun e ↦ e.1 = k).getLast? <;> rfl
    · rw [if_neg fun hk ↦ h hk.symm, if_neg (by simpa using h)]

/-- In the map that a list of entries leaves, the last entry of a key decides. -/
theorem get?_ofList (es : List (κ × α)) (k : κ) : (ofList es).get? k = lastOf k es := by
  rw [← empty_insertAll, get?_insertAll, get?_empty, Option.or_none]

/-! ## Keys of several entries -/

/-- Storing entries one after the other adds the new keys among theirs, in order. -/
theorem keys_insertAll (m : InsertionMap κ α) (es : List (κ × α)) :
    (m.insertAll es).keys =
      m.keys ++ (distinct (es.map Prod.fst)).filter fun k ↦ k ∉ m.keys := by
  induction es generalizing m with
  | nil => simp [distinctBy]
  | cons e es ih =>
    have hdistinct : distinct ((e :: es).map Prod.fst) =
        e.1 :: (distinct (es.map Prod.fst)).filter fun k ↦ k ≠ e.1 := rfl
    rw [insertAll_cons, ih, keys_insert, hdistinct]
    by_cases he : e.1 ∈ m.keys
    · -- The first key is there already: it is not among the new ones.
      rw [if_pos he, List.filter_cons_of_neg (by simpa using he), List.filter_filter]
      refine congrArg _ (List.filter_congr fun k _ ↦ ?_)
      by_cases hk : k = e.1 <;> simp [hk, he]
    · rw [if_neg he, List.filter_cons_of_pos (by simpa using he), List.filter_filter,
        List.append_assoc]
      refine congrArg _ (congrArg _ (List.filter_congr fun k _ ↦ ?_))
      simp [Bool.and_comm]

@[simp] theorem keys_ofList (es : List (κ × α)) :
    (ofList es).keys = distinct (es.map Prod.fst) := by
  rw [← empty_insertAll, keys_insertAll]
  exact List.filter_eq_self.2 fun k _ ↦ by simp [keys, empty]

/-! ## Entries with different keys -/

theorem store_of_not_mem {k : κ} {es : List (κ × α)} (h : k ∉ es.map Prod.fst) (a : α) :
    store k a es = es ++ [(k, a)] := by
  induction es with
  | nil => rfl
  | cons e es ih =>
    rw [List.map_cons, List.mem_cons, not_or] at h
    rw [store, if_neg fun hk ↦ h.1 hk.symm, ih h.2]
    rfl

theorem entries_insertAll {m : InsertionMap κ α} {es : List (κ × α)}
    (h : ((m.entries ++ es).map Prod.fst).Nodup) : (m.insertAll es).entries = m.entries ++ es := by
  induction es generalizing m with
  | nil => rw [insertAll_nil, List.append_nil]
  | cons e es ih =>
    have hnew : e.1 ∉ m.entries.map Prod.fst := by
      rw [List.map_append, List.nodup_append] at h
      exact fun hmem ↦ h.2.2 _ hmem _ List.mem_cons_self rfl
    have hinsert : (m.insert e.1 e.2).entries = m.entries ++ [e] := store_of_not_mem hnew e.2
    rw [insertAll_cons, ih] <;> rw [hinsert, List.append_assoc]
    · rfl
    · exact h

/-- A map keeps the entries that it is made of, if their keys are different. -/
theorem entries_ofList {es : List (κ × α)} (h : (es.map Prod.fst).Nodup) :
    (ofList es).entries = es := entries_insertAll h

theorem get?_of_mem {m : InsertionMap κ α} {k : κ} {a : α} (h : (k, a) ∈ m.entries) :
    m.get? k = some a := by
  have hfind (es : List (κ × α)) (hes : (es.map Prod.fst).Nodup) (hmem : (k, a) ∈ es) :
      (es.find? fun e ↦ e.1 = k) = some (k, a) := by
    induction es with
    | nil => exact absurd hmem List.not_mem_nil
    | cons e es ih =>
      rw [List.map_cons, List.nodup_cons] at hes
      rcases List.mem_cons.1 hmem with rfl | hmem
      · exact List.find?_cons_of_pos (decide_eq_true rfl)
      · have hne : ¬ e.1 = k := fun hk ↦ hes.1 (hk ▸ List.mem_map_of_mem hmem)
        rw [List.find?_cons_of_neg (by simpa using hne), ih hes.2 hmem]
  rw [get?, hfind m.entries m.keys_nodup h]
  rfl

theorem mem_values_of_get? {m : InsertionMap κ α} {k : κ} {a : α} (h : m.get? k = some a) :
    a ∈ m.values := by
  obtain ⟨e, he, rfl⟩ := Option.map_eq_some_iff.1 h
  exact List.mem_map_of_mem (List.mem_of_find?_eq_some he)

theorem mem_of_mem_ofList {es : List (κ × α)} {e : κ × α} (h : e ∈ (ofList es).entries) :
    e ∈ es := by
  have hlast : lastOf e.1 es = some e.2 := (get?_ofList es e.1).symm.trans (get?_of_mem h)
  obtain ⟨f, hf, hvalue⟩ := Option.map_eq_some_iff.1 hlast
  obtain ⟨hmem, hkey⟩ := List.mem_filter.1 (List.mem_of_getLast? hf)
  have hfe : f = e := Prod.ext (of_decide_eq_true hkey) hvalue
  exact hfe ▸ hmem

end InsertionMap

end Motif
