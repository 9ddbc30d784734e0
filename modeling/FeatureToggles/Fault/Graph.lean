import FeatureToggles.Fault

/-!
# Graphs of errors

Errors that were linked by hand may form cycles.  The chain of an error in a graph stops before the
first error that was met already.

Main statement: a chain is never longer than the graph (`length_chain_le`).
-/

namespace FeatureToggles

/-- An error in a graph, linked to others by their numbers. -/
structure FaultNode where
  failure : Failure
  cause : Option Nat
  context : Option Nat

/-- Errors with links between them, which may form cycles. -/
structure FaultGraph where
  nodes : List FaultNode

namespace FaultNode

/-- The next error of a chain. -/
def next? (n : FaultNode) : Option Nat := n.cause <|> n.context

end FaultNode

namespace FaultGraph

/-- The chain from an error on, through errors of which none was met yet. -/
def chainWithin (g : FaultGraph) (unmet : List Nat) (i : Nat) : List Failure :=
  if h : i ∈ unmet then
    match g.nodes[i]? with
    | none => []
    | some n =>
      match n.next? with
      | none => [n.failure]
      | some j =>
        have : (unmet.erase i).length < unmet.length := by
          rw [List.length_erase_of_mem h]
          exact Nat.sub_lt (List.length_pos_of_mem h) Nat.one_pos
        n.failure :: g.chainWithin (unmet.erase i) j
  else []
termination_by unmet.length

/-- The chain of an error: up to the end of its links, or to the first error that was met already. -/
def chain (g : FaultGraph) (i : Nat) : List Failure :=
  g.chainWithin (List.range g.nodes.length) i

theorem length_chainWithin_le (g : FaultGraph) (unmet : List Nat) (i : Nat) :
    (g.chainWithin unmet i).length ≤ unmet.length := by
  fun_induction chainWithin g unmet i with
  | case1 => simp
  | case2 unmet i h n hn hnext =>
    simpa [Nat.succ_le_iff] using List.length_pos_of_mem h
  | case3 unmet i h n hn j hnext _ ih =>
    rw [List.length_erase_of_mem h] at ih
    have := List.length_pos_of_mem h
    simp only [List.length_cons]
    omega
  | case4 => simp

theorem length_chain_le (g : FaultGraph) (i : Nat) : (g.chain i).length ≤ g.nodes.length := by
  simpa [chain] using length_chainWithin_le g (List.range g.nodes.length) i

/-- The nodes of a fault and the errors it came from, numbered from `first` on: the fault itself,
then those of its cause, then those of its context. -/
def nodesOf (first : Nat) : Fault → List FaultNode
  | .mk failure none none => [⟨failure, none, none⟩]
  | .mk failure (some cause) none => ⟨failure, some (first + 1), none⟩ :: nodesOf (first + 1) cause
  | .mk failure none (some context) =>
    ⟨failure, none, some (first + 1)⟩ :: nodesOf (first + 1) context
  | .mk failure (some cause) (some context) =>
    let causes := nodesOf (first + 1) cause
    let second := first + 1 + causes.length
    ⟨failure, some (first + 1), some second⟩ :: causes ++ nodesOf second context

/-- The graph of a fault, whose first node is the fault itself. -/
def ofFault (f : Fault) : FaultGraph := ⟨nodesOf 0 f⟩

/-- The graph of a fault in which the last error along the causes has the first one as its cause. -/
def closed (f : Fault) : FaultGraph :=
  ⟨(nodesOf 0 f).modify f.causeDepth fun n => { n with cause := some 0 }⟩

end FaultGraph

end FeatureToggles
