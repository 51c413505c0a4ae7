/-
# Levels and batches

The level of a node is one more than the deepest of its dependencies, and zero when it has none.
Levels are filled along the order, where every dependency comes first.  Nodes of one level form a
batch: they become ready in the same round.

When ids are repeated, the order may hold an id before one of its dependencies; such a dependency
has no level yet (`unplacedDependency?`).
-/
import PromptChain.Graph.Order
import PromptChain.Store

namespace PromptChain.Graph

/-- The dependencies of an id that are ids of nodes. -/
def dependenciesOf (g : Graph) (id : String) : List String :=
  match g.find? id with
  | some n => g.knownDependencies n
  | none => []

/-- One more than the greatest of some levels. -/
def above (levels : List Nat) : Nat := levels.foldl (fun m l => max m (l + 1)) 0

/-- Gives an id its level. -/
def addLevel (g : Graph) (levels : Store Nat) (id : String) : Store Nat :=
  levels.put id (above ((g.dependenciesOf id).filterMap levels.get?))

/-- The level of every id. -/
def levels (g : Graph) : Store Nat := g.order.foldl g.addLevel ⟨[]⟩

/-- The ids by level. -/
def batches (g : Graph) : List (List String) :=
  let order := g.order
  let levels := g.levels
  (List.range (above (levels.entries.map (·.2)))).map fun l =>
    order.filter fun id => levels.get? id == some l

/-- The first dependency in some ids that does not come before its dependent. -/
def unplacedAmong (g : Graph) : List String → List String → Option String
  | _, [] => none
  | before, id :: rest =>
    match (g.dependenciesOf id).find? fun d => decide (d ∉ before) with
    | some d => some d
    | none => g.unplacedAmong (id :: before) rest

/-- The first dependency in the order that does not come before its dependent. -/
def unplacedDependency? (g : Graph) : Option String := g.unplacedAmong [] g.order

end PromptChain.Graph
