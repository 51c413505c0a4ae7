/-
# What is wrong with a graph

A report lists what keeps a chain from running to its end, the errors, and what is probably a
mistake, the warnings.

* A node that refers to its own output is an error, and so is a cycle.
* A reference to an id that no node has stays in the text; a warning says so.
* A node that nothing waits for, and that is not part of the result, is useless; the result is
  made of the model nodes without indent.

Errors and warnings come in this order, and each sort in the order of the nodes.
-/
import PromptChain.Graph.Cycle
import PromptChain.Graph.Levels
import PromptChain.Template.Reference
import PromptChain.Text.Ordered
import PromptChain.Text.Quoted

namespace PromptChain.Graph

open PromptChain.Template PromptChain.Text

/-! ## 1. Issues -/

/-- Something wrong with a graph. -/
inductive Issue where
  | selfReference (id : String)
  | cycle (ids : List String)
  | unknownReference (id ref : String)
  | unusedOutput (id : String)
  deriving DecidableEq, Repr

namespace Issue

/-- The short name of an issue. -/
def code : Issue → String
  | selfReference _ => "SELF_REFERENCE"
  | cycle _ => "CYCLE_DETECTED"
  | unknownReference _ _ => "UNKNOWN_REFERENCE"
  | unusedOutput _ => "UNUSED_OUTPUT"

/-- The sentence for an issue. -/
def message : Issue → String
  | selfReference id => "Node '" ++ id ++ "' references its own output"
  | cycle ids =>
    "Workflow contains circular dependencies involving nodes: " ++ quotedList ids
  | unknownReference id ref =>
    "Node '" ++ id ++ "' references unknown node '" ++ ref ++ "'; it stays literal text"
  | unusedOutput id =>
    "Output of node '" ++ id ++ "' is not used by any other node or the result"

/-- The node an issue is about, if it is about one. -/
def node? : Issue → Option String
  | selfReference id => some id
  | cycle _ => none
  | unknownReference id _ => some id
  | unusedOutput id => some id

end Issue

/-! ## 2. The checks -/

/-- Nodes that refer to their own outputs. -/
def selfReferences (g : Graph) : List Issue :=
  (g.nodes.filter fun n => decide (n.id ∈ n.references)).map fun n => .selfReference n.id

/-- The cycle to report: one among the ids that could not be placed, or all of these. -/
def reportedCycle (g : Graph) : List String :=
  if g.isOrdered then []
  else
    let found := g.cycleAmong g.unplaced
    if found.isEmpty then ordered g.unplaced else found

/-- References to ids that no node has. -/
def unknownReferences (g : Graph) : List Issue :=
  g.nodes.flatMap fun n =>
    ((referenceIds n.template).filter fun ref => !g.knows ref).map (.unknownReference n.id)

/-- Whether a node's output is part of the result. -/
def inResult (n : Node) : Bool := n.isLlm && n.indent == 0

/-- Nodes whose outputs go nowhere. -/
def unusedOutputs (g : Graph) : List Issue :=
  (g.nodes.filter fun n => (g.dependents n.id).isEmpty && !inResult n).map fun n =>
    .unusedOutput n.id

/-! ## 3. The report -/

/-- What was found out about a graph.  Order and levels are empty when there is a cycle. -/
structure Report where
  errors : List Issue
  warnings : List Issue
  order : List String
  levels : Store Nat
  cycle : List String

/-- Whether nothing keeps the chain from running to its end. -/
def Report.isValid (r : Report) : Bool := r.errors.isEmpty

/-- The report on a graph. -/
def report (g : Graph) : Report where
  errors := g.selfReferences ++ if g.isOrdered then [] else [.cycle g.reportedCycle]
  warnings := g.unknownReferences ++ g.unusedOutputs
  order := g.order
  levels := g.levels
  cycle := g.reportedCycle

/-- The report on a graph whose order puts every dependency first; otherwise the first dependency
that it does not. -/
def analyse (g : Graph) : Except String Report :=
  match g.unplacedDependency? with
  | some id => .error id
  | none => .ok g.report

end PromptChain.Graph
