import Motif.Proofs.Pattern.Involution
import Motif.Proofs.Pattern.NormalForm

/-!
# The text of a reflection

The reflection of a pattern has its edges between the opposite delimiters, and what stands between
them is the same. It was scanned to its end for one delimiter, so the question is whether it is
scanned to the same end for the other (`EdgeMatcher.Turnable`). Nothing else can keep the text of a
reflection from being read back (`read_reflection_iff`).

It is the labels between slashes that can. A label is a regular expression if it begins and ends
with a slash, whatever is in between, but a scan takes the first slash that is not escaped for the
end of the regular expression and looks for the delimiter from there on. In `</a/>b//<` this does no
harm, while in `>/a/>b//>` the edge ends too early.
-/

namespace Motif

open Pattern

/-! ## Edges between the opposite delimiters -/

/-- A scan for the delimiter of the edge seen from the other side finds nothing between the
delimiters. -/
def EdgeMatcher.Turnable (m : EdgeMatcher) : Prop :=
  scanTo (· == m.flip.symbol) m.body.toList = none

instance (m : EdgeMatcher) : Decidable m.Turnable :=
  inferInstanceAs (Decidable (scanTo (· == m.flip.symbol) m.body.toList = none))

namespace EdgeMatcher

variable {m : EdgeMatcher}

@[simp] theorem body_flip (m : EdgeMatcher) : m.flip.body = m.body := by
  rw [body, body, name_flip, test_flip]

private theorem Readable.directionsOf?_flip (h : m.Readable) :
    directionsOf? m.flip.symbol = some m.flip.directions := by
  have hlength := h.length_directions_le
  match hdirections : m.directions with
  | [] =>
    rw [flip_of_nil hdirections]
    exact h.directions
  | [d] =>
    rw [symbol, directions_flip_of_cons hdirections]
    cases d <;> rfl
  | _ :: _ :: _ =>
    rw [hdirections] at hlength
    exact absurd hlength (by simp)

/-- A matcher is readable between the opposite delimiters exactly if it can be turned. -/
theorem Readable.flip_iff (h : m.Readable) : m.flip.Readable ↔ m.Turnable := by
  constructor
  · intro hflip
    have hbody := hflip.body
    rw [body_flip] at hbody
    exact scanTo_eq_none hbody.passes
  · intro hturn
    constructor
    case directions => exact h.directionsOf?_flip
    case name => exact (name_flip m).symm ▸ h.name
    case test => exact (test_flip m).symm ▸ h.test
    case label => rw [name_flip, test_flip]; exact h.label
    case body =>
      rw [body_flip]
      exact ⟨passes_of_scanTo hturn, h.body.closed⟩

end EdgeMatcher

/-! ## Reflections -/

namespace Pattern

variable {V : Type} {voc : Vocabulary V} {p : Pattern V}

private theorem readable_of_forall (hcaptures : p.captures.Nodup)
    (hnodes : ∀ m ∈ p.nodes, m.Readable voc) (hedges : ∀ m ∈ p.edges, m.Readable) :
    p.Readable voc := by
  obtain ⟨hfirst, hlinks⟩ := List.forall_mem_cons.1 hnodes
  exact ⟨hcaptures, hfirst, fun l hl ↦ ⟨hedges _ (List.mem_map_of_mem hl),
    hlinks _ (List.mem_map_of_mem hl)⟩⟩

theorem Readable.reflection_iff (hp : p.Readable voc) :
    p.reflection.Readable voc ↔ ∀ m ∈ p.edges, m.Turnable := by
  have hmem {m : EdgeMatcher} (hm : m ∈ p.edges) : m.flip ∈ p.reflection.edges := by
    rw [edges_reflection, List.mem_reverse]
    exact List.mem_map_of_mem hm
  constructor
  · intro h m hm
    exact (hp.edges m hm).flip_iff.1 (h.edges _ (hmem hm))
  · intro hturn
    apply readable_of_forall
    · rw [captures_reflection]
      exact List.nodup_reverse.2 hp.captures_nodup
    · intro m hm
      rw [nodes_reflection, List.mem_reverse] at hm
      exact hp.nodes m hm
    · intro m hm
      rw [edges_reflection, List.mem_reverse] at hm
      obtain ⟨n, hn, rfl⟩ := List.mem_map.1 hm
      exact (hp.edges n hn).flip_iff.2 (hturn n hn)

private theorem edges_eq_of_signature {p q : Pattern V} (h : p.signature = q.signature) :
    p.edges = q.edges := (signature_eq_iff.1 h).1

theorem exists_read_of_turnable (hp : p.Readable voc) (hturn : ∀ m ∈ p.edges, m.Turnable) :
    ∃ q, read voc (Display.text p.reflection) = .ok q ∧ q.same p.reflection = true := by
  obtain ⟨q, hread, hsignature⟩ := (hp.reflection_iff.2 hturn).exists_read
  refine ⟨q, hread, ?_⟩
  rw [same, hsignature]
  exact beq_self_eq_true _

/-- **The text of a reflection is read as the reflection** exactly if no label has the opposite
delimiter where a scan for it would end. -/
theorem read_reflection_iff {text : String} (h : read voc text = .ok p) :
    (∃ q, read voc (Display.text p.reflection) = .ok q ∧ q.same p.reflection = true) ↔
      ∀ m ∈ p.edges, m.Turnable := by
  have hp := readable_of_read h
  constructor
  · rintro ⟨q, hread, hsame⟩ m hm
    have hedges := edges_eq_of_signature (eq_of_beq hsame)
    have hmem : m.flip ∈ q.edges := by
      rw [hedges, edges_reflection, List.mem_reverse]
      exact List.mem_map_of_mem hm
    exact (hp.edges m hm).flip_iff.1 ((readable_of_read hread).edges _ hmem)
  · exact exists_read_of_turnable hp

theorem read_reflection_iff_echo :
    ∃ p, read Expression.echo "\x7bx\x7d <\x7be:/a>b/\x7d< .*" = .ok p ∧
      Display.text p.reflection = ".* >\x7be:/a>b/\x7d> \x7bx\x7d" ∧
      (∀ m ∈ p.edges, m.Turnable) ∧
      ∃ q, read Expression.echo (Display.text p.reflection) = .ok q ∧
        q.same p.reflection = true := by
  have hread : (read Expression.echo "\x7bx\x7d <\x7be:/a>b/\x7d< .*").toOption.map
      (fun p ↦ (Display.text p.reflection, p.edges.all fun m ↦ decide m.Turnable)) =
        some (".* >\x7be:/a>b/\x7d> \x7bx\x7d", true) := by
    decide +kernel
  obtain ⟨p, hp, h⟩ := Option.map_eq_some_iff.1 hread
  obtain ⟨htext, hturn⟩ := Prod.mk.inj h
  rw [toOption_eq_some_iff] at hp
  have hturn' : ∀ m ∈ p.edges, m.Turnable := by simpa using hturn
  exact ⟨p, hp, htext, hturn', (read_reflection_iff hp).2 hturn'⟩

/-- A label between slashes with a slash inside that is not escaped. Between the delimiters that the
pattern is read with it is found whole, and between the opposite ones its first half is taken for
all of it. -/
theorem not_read_reflection_of_slash :
    ∃ p, read Expression.echo ".* </a/>b//< .*" = .ok p ∧
      Display.text p.reflection = ".* >/a/>b//> .*" ∧
      ¬ ∃ q, read Expression.echo (Display.text p.reflection) = .ok q ∧
        q.same p.reflection = true := by
  have hread : (read Expression.echo ".* </a/>b//< .*").toOption.map
      (fun p ↦ Display.text p.reflection) = some ".* >/a/>b//> .*" := by
    decide +kernel
  have hrefused : (read Expression.echo ".* >/a/>b//> .*").toOption.isNone = true := by
    decide +kernel
  obtain ⟨p, hp, htext⟩ := Option.map_eq_some_iff.1 hread
  rw [toOption_eq_some_iff] at hp
  refine ⟨p, hp, htext, ?_⟩
  rintro ⟨q, hq, -⟩
  rw [htext] at hq
  rw [hq] at hrefused
  exact Bool.false_ne_true hrefused

end Pattern

end Motif
