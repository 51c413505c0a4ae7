/-
# The dependency graph

The graph of some nodes has an edge from a dependency to every node that waits for it.  A
dependency on an id that no node has is no edge; it only keeps its node from becoming ready.

Nodes are plain data: a list may repeat an id.  The graph then looks an id up as the last node that
has it, while edges come from all of them.
-/
import PromptChain.Node.Basic

namespace PromptChain

/-- The nodes whose dependencies are looked at. -/
structure Graph where
  nodes : List Node

namespace Graph

/-! ## 1. Nodes and edges -/

/-- The node with an id. -/
def find? (g : Graph) (id : String) : Option Node := (g.nodes.filter (·.id == id)).getLast?

/-- The ids of the nodes, each once. -/
def ids (g : Graph) : List String := (g.nodes.map (·.id)).foldl Node.addNew []

/-- Whether a node has this id. -/
def knows (g : Graph) (id : String) : Bool := g.nodes.any (·.id == id)

/-- The dependencies of a node that are ids of nodes. -/
def knownDependencies (g : Graph) (n : Node) : List String := n.dependencies.filter g.knows

/-- The ids that wait for an id, once for every time they name it. -/
def dependents (g : Graph) (id : String) : List String :=
  g.nodes.flatMap fun n => ((g.knownDependencies n).filter (· == id)).map fun _ => n.id

/-- The nodes that are not completed and whose dependencies all are. -/
def ready (g : Graph) (completed : List String) : List Node :=
  g.nodes.filter fun n =>
    decide (n.id ∉ completed) && n.dependencies.all fun d => decide (d ∈ completed)

/-! ## 2. What they hold -/

theorem knows_iff {g : Graph} {id : String} : g.knows id = true ↔ ∃ n ∈ g.nodes, n.id = id := by
  simp [knows]

theorem mem_ids {g : Graph} {id : String} : id ∈ g.ids ↔ g.knows id = true := by
  simp [ids, Node.mem_foldl_addNew, knows]

/-- **A node waits for an id exactly when it has it among its dependencies.** -/
theorem mem_dependents {g : Graph} {a d : String} :
    a ∈ g.dependents d ↔ ∃ n ∈ g.nodes, n.id = a ∧ d ∈ n.dependencies ∧ g.knows d = true := by
  simp only [dependents, List.mem_flatMap, List.mem_map, List.mem_filter, knownDependencies,
    beq_iff_eq]
  constructor
  · rintro ⟨n, hn, x, ⟨⟨hx, hknown⟩, rfl⟩, rfl⟩
    exact ⟨n, hn, rfl, hx, hknown⟩
  · rintro ⟨n, hn, rfl, hd, hknown⟩
    exact ⟨n, hn, d, ⟨⟨hd, hknown⟩, rfl⟩, rfl⟩

/-- **A node is ready when it is not completed and all it waits for is.** -/
theorem mem_ready {g : Graph} {completed : List String} {n : Node} :
    n ∈ g.ready completed ↔
      n ∈ g.nodes ∧ n.id ∉ completed ∧ ∀ d ∈ n.dependencies, d ∈ completed := by
  simp [ready]

end Graph
end PromptChain
