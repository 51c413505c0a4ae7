/-
# Finding a cycle

A search follows the edges from a node, deeper first, and never enters a node twice.  When an edge
leads back to a node of the path that is being followed, the part of the path from there on is a
cycle.  Nodes outside the given candidates are not entered.

The searches start at the nodes in their order, so the same nodes always give the same cycle.  A
path never holds a node twice, hence its length, and with it the depth of the search, is bounded by
the number of nodes; that is the bound the search is given.  A search goes one call deeper with each
node of its path, and no stack of calls limits it here: a limit of that kind comes from the place
where the service runs, not from the graph.
-/
import PromptChain.Graph.Basic

namespace PromptChain.Graph

/-- Follows the edges from an id.  `path` leads to it, and `visited` were entered before; the
answer is a cycle, or the ids entered by now.  The first argument bounds the depth; a search
that `searchAll` starts never comes to that bound. -/
def search (g : Graph) (candidates : List String) :
    Nat → List String → List String → String → Except (List String) (List String)
  | 0, _, visited, _ => .ok visited
  | depth + 1, path, visited, id =>
    let path := path ++ [id]
    (g.dependents id).foldlM
      (fun visited next =>
        if next ∉ candidates then .ok visited
        else if next ∉ visited then g.search candidates depth path visited next
        else if next ∈ path then .error (path.dropWhile (· != next))
        else .ok visited)
      (id :: visited)

/-- Searches from every candidate that was not entered before. -/
def searchAll (g : Graph) (candidates : List String) : Except (List String) (List String) :=
  g.nodes.foldlM
    (fun visited n =>
      if n.id ∈ candidates ∧ n.id ∉ visited then
        g.search candidates (g.nodes.length + 1) [] visited n.id
      else .ok visited)
    []

/-- A cycle among the candidates, empty when there is none. -/
def cycleAmong (g : Graph) (candidates : List String) : List String :=
  match g.searchAll candidates with
  | .error cycle => cycle
  | .ok _ => []

/-- A cycle of the graph, empty when there is none. -/
def cycle (g : Graph) : List String := g.cycleAmong g.ids

end PromptChain.Graph
