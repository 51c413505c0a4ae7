/-
# Links between nodes

A script's text says more than its layout: a reference to a node of the script makes its text wait
for that node, and a model that is the id of a static node, bare or as a reference, stands for
that node's output.  A reference to an id that no node has means nothing and stays in the text.

Linking keeps everything else about the nodes, their number and their order.
-/
import PromptChain.Template.Reference

namespace PromptChain.Script

open PromptChain.Template

/-- The id that a model is written as, when it is a reference; the model itself otherwise. -/
def modelId (model : String) : String := (soleReference? model).getD model

/-- The kind of a node once models that are ids of static nodes stand for their outputs. -/
def linkedKind (staticIds : List String) : NodeKind → NodeKind
  | .llm (.nickname model) =>
    if modelId model ∈ staticIds then .llm (.output (modelId model)) else .llm (.nickname model)
  | kind => kind

/-- A node with its references to known ids, and its model linked. -/
def linkedNode (knownIds staticIds : List String) (n : Node) : Node :=
  { n with
    references := (referenceIds n.template).filter fun id => decide (id ∈ knownIds)
    kind := linkedKind staticIds n.kind }

/-- The ids of some nodes. -/
def idsOf (nodes : List Node) : List String := nodes.map (·.id)

/-- The ids of the static nodes among some. -/
def staticIdsOf (nodes : List Node) : List String := idsOf (nodes.filter (·.isStatic))

/-- The nodes with the links that their texts and models declare. -/
def linked (nodes : List Node) : List Node :=
  nodes.map (linkedNode (idsOf nodes) (staticIdsOf nodes))

@[simp] theorem linkedNode_id (knownIds staticIds : List String) (n : Node) :
    (linkedNode knownIds staticIds n).id = n.id := rfl

/-- **Linking keeps the ids.** -/
@[simp] theorem idsOf_linked (nodes : List Node) : idsOf (linked nodes) = idsOf nodes := by
  simp [idsOf, linked]

end PromptChain.Script
