/-!
# Sequences on demand

A sequence whose items are computed when they are asked for, and which may break off with a fault
instead of coming to an end. Items before the fault are good: whoever asks for no more of them never
learns of it. This is the form in which a search gives its matches.
-/

namespace Motif

/-- A sequence that is computed item by item and ends or breaks off. -/
inductive OnDemand (ε α : Type) where
  /-- No more items. -/
  | done
  /-- No more items because of a fault. -/
  | broken (fault : ε)
  /-- An item and what follows it. -/
  | next (item : α) (rest : Unit → OnDemand ε α)

namespace OnDemand

variable {ε α β : Type}

def single (a : α) : OnDemand ε α := next a fun _ ↦ done

/-- One sequence and then, unless it breaks off, another. -/
def append : OnDemand ε α → (Unit → OnDemand ε α) → OnDemand ε α
  | done, t => t ()
  | broken e, _ => broken e
  | next a rest, t => next a fun u ↦ (rest u).append t

/-- The sequences that the members of a list give, one after the other. -/
def each : List β → (β → OnDemand ε α) → OnDemand ε α
  | [], _ => done
  | b :: bs, f => (f b).append fun _ ↦ each bs f

/-- All items, and the fault if the sequence breaks off. -/
def toList : OnDemand ε α → List α × Option ε
  | done => ([], none)
  | broken e => ([], some e)
  | next a rest =>
    let r := (rest ()).toList
    (a :: r.1, r.2)

/-- The first `n` items, and the fault if the sequence breaks off before them. No item after them is
computed. -/
def take : (n : Nat) → (Unit → OnDemand ε α) → List α × Option ε
  | 0, _ => ([], none)
  | n + 1, s =>
    match s () with
    | done => ([], none)
    | broken e => ([], some e)
    | next a rest =>
      let r := take n rest
      (a :: r.1, r.2)

/-- All items, or as many as a limit allows. -/
def collect (limit : Option Nat) (s : Unit → OnDemand ε α) : List α × Option ε :=
  match limit with
  | none => (s ()).toList
  | some n => take n s

/-- A sequence that does not break off is followed by all of the other sequence. -/
theorem toList_append {s : OnDemand ε α} {xs : List α} (h : s.toList = (xs, none))
    (t : Unit → OnDemand ε α) :
    (s.append t).toList = (xs ++ (t ()).toList.1, (t ()).toList.2) := by
  induction s generalizing xs with
  | done =>
    obtain rfl : [] = xs := congrArg Prod.fst h
    rw [append, List.nil_append]
  | broken e => simp [toList] at h
  | next a rest ih =>
    simp only [toList, Prod.mk.injEq] at h
    obtain ⟨rfl, hr⟩ := h
    have hrest : (rest ()).toList = ((rest ()).toList.1, none) := by rw [← hr]
    simp only [append, toList, ih () hrest, List.cons_append]

/-- A limit leaves the first items, and a fault only if it comes before there are enough of them. -/
theorem take_eq (n : Nat) (s : Unit → OnDemand ε α) :
    take n s = ((s ()).toList.1.take n,
      if n ≤ (s ()).toList.1.length then none else (s ()).toList.2) := by
  induction n generalizing s with
  | zero => simp [take]
  | succ n ih =>
    rw [take]
    cases s () with
    | done => rfl
    | broken e => rfl
    | next a rest =>
      simp only [ih, toList, List.take_succ_cons, List.length_cons, Nat.add_le_add_iff_right]

theorem collect_eq {s : Unit → OnDemand ε α} {xs : List α} (h : (s ()).toList = (xs, none))
    (limit : Option Nat) : collect limit s = (limit.elim xs xs.take, none) := by
  cases limit with
  | none => exact h
  | some n => rw [collect, take_eq, h, ite_self, Option.elim_some]

/-- Sequences none of which breaks off give their items one after the other. -/
theorem toList_each {bs : List β} {f : β → OnDemand ε α} {items : β → List α}
    (h : ∀ b ∈ bs, (f b).toList = (items b, none)) :
    (each bs f).toList = (bs.flatMap items, none) := by
  induction bs with
  | nil => rfl
  | cons b bs ih =>
    rw [each, toList_append (h b List.mem_cons_self),
      ih fun c hc ↦ h c (List.mem_cons_of_mem b hc), List.flatMap_cons]

/-- The items, or else the fault that came before they were all there. -/
def outcome (r : List α × Option ε) : Except ε (List α) :=
  match r.2 with
  | none => .ok r.1
  | some e => .error e

end OnDemand

end Motif
