import Motif.Graph.Basic
import Motif.OnDemand
import Motif.Pattern.Match

/-!
# Searching a graph

A search walks through a graph along a pattern. At a vertex the next node matcher is asked; where it
accepts, the next edge matcher is offered the steps that leave the vertex, in order, except those
over an edge that the walk has used in either direction. Every way to the end of the pattern is a
match.

Matches come on demand, so a limit on their number also bounds the work, and a fault of a node test
matters only if the search gets that far. It leaves the search as it leaves a sequence.
-/

namespace Motif

/-- The largest number of matches that can be asked for. -/
def maxLimit : Nat := 9223372036854775807

/-- Why a number is no limit on the number of matches. -/
inductive LimitFault where
  | negative (limit : Int)
  | tooLarge
deriving DecidableEq, Repr

def LimitFault.message : LimitFault → String
  | negative n => "max_matches must be non-negative, got " ++ n.repr
  | tooLarge =>
    "Stop argument for islice() must be None or an integer: 0 <= x <= sys.maxsize."

/-- A limit that is not negative, or no limit. -/
def nonNegativeLimit : Option Int → Except LimitFault (Option Nat)
  | none => .ok none
  | some n => if n < 0 then .error (.negative n) else .ok (some n.toNat)

/-- A limit that can be asked for, or no limit. -/
def feasibleLimit : Option Nat → Except LimitFault (Option Nat)
  | none => .ok none
  | some n => if n ≤ maxLimit then .ok (some n) else .error .tooLarge

/-- What can go wrong in a search. -/
inductive SearchFault (V : Type) where
  /-- The limit on the number of matches is no limit. -/
  | limit (fault : LimitFault)
  /-- A vertex that the graph does not have. -/
  | graph (fault : GraphFault V)
  /-- A test that gave no answer. -/
  | test (fault : FieldFault)
deriving DecidableEq, Repr

def SearchFault.message {V : Type} [Display V] : SearchFault V → String
  | limit fault => fault.message
  | graph fault => fault.message
  | test fault => fault.message

/-- What a search has recorded on its way: the steps, the last first, and the captures. -/
structure Trail (V : Type) where
  /-- The steps taken, the last first. -/
  steps : List (Step V)
  /-- The vertices by name. -/
  nodes : InsertionMap String (Capture V)
  /-- The steps by name. -/
  edges : InsertionMap String (Capture (Step V))

namespace Trail

variable {V : Type}

def start : Trail V := ⟨[], .empty, .empty⟩

/-- Records a vertex if its matcher has a name for it. -/
def atNode (t : Trail V) (name : Option String) (v : V) (text : String) : Trail V :=
  match name with
  | none => t
  | some a => { t with nodes := t.nodes.insert a ⟨v, text⟩ }

/-- Adds a step and records it if its matcher has a name for it. -/
def takeStep (t : Trail V) (name : Option String) (d : Step V) (text : String) : Trail V where
  steps := d :: t.steps
  nodes := t.nodes
  edges :=
    match name with
    | none => t.edges
    | some a => t.edges.insert a ⟨d, text⟩

/-- Whether the trail has used an edge, in either direction. -/
def uses [DecidableEq V] (t : Trail V) (e : Edge V) : Bool := t.steps.any fun d ↦ d.edge = e

/-- The match that the trail is at the end of a pattern. -/
def toMatch (t : Trail V) (p : Pattern V) : Match V := ⟨p, ⟨t.steps.reverse⟩, t.nodes, t.edges⟩

end Trail

namespace Pattern

variable {V : Type} [DecidableEq V]

/-- The matches that continue a trail which has reached the vertex `v`, where the node matcher `m`
and the links after it are due. -/
def explore (p : Pattern V) (g : Graph V) (m : NodeMatcher V) :
    List (Link V) → V → Trail V → OnDemand (SearchFault V) (Match V)
  | links, v, t =>
    match m.matchText v with
    | .error fault => .broken (.test fault.inSequence)
    | .ok none => .done
    | .ok (some text) =>
      -- The vertex is recorded before the steps from it, and so the captures come in pattern order.
      let t := t.atNode m.name v text
      match links with
      | [] => .single (t.toMatch p)
      | l :: links =>
        match g.incident? v with
        | .error fault => .broken (.graph fault)
        | .ok steps => OnDemand.each steps fun d ↦
          -- The edge counts, not the direction it is taken in.
          if t.uses d.edge then .done
          else
            match l.edge.matchText d with
            | none => .done
            | some text => explore p g l.node links d.finish (t.takeStep l.edge.name d text)

def matchesFrom (p : Pattern V) (g : Graph V) (v : V) : OnDemand (SearchFault V) (Match V) :=
  p.explore g p.first p.links v .start

/-- The matches that begin at the anchor, or at any vertex if there is no anchor. -/
def allMatches (p : Pattern V) (g : Graph V) (anchor : Option V) :
    OnDemand (SearchFault V) (Match V) :=
  match anchor with
  | none => OnDemand.each g.vertices (p.matchesFrom g)
  | some v =>
    match g.incident? v with
    | .error fault => .broken (.graph fault)
    | .ok _ => p.matchesFrom g v

/-- The first matches, up to a limit if there is one. -/
def firstMatches (p : Pattern V) (g : Graph V) (anchor : Option V) (limit : Option Nat) :
    Except (SearchFault V) (List (Match V)) := do
  let limit ← (feasibleLimit limit).mapError .limit
  OnDemand.outcome (OnDemand.collect limit fun _ ↦ p.allMatches g anchor)

/-- The matches, up to a limit that must not be negative. -/
def search (p : Pattern V) (g : Graph V) (anchor : Option V) (limit : Option Int) :
    Except (SearchFault V) (List (Match V)) := do
  let limit ← (nonNegativeLimit limit).mapError .limit
  p.firstMatches g anchor limit

end Pattern

end Motif
