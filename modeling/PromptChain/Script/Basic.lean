/-
# Scripts

`parse` reads a script into its nodes, in the order of their lines; `load` also links them.  An
entry with a model is a model node, one without is static, and its children are the entries nested
beneath it.
-/
import PromptChain.Script.Linked
import PromptChain.Script.Nesting

namespace PromptChain.Script

/-- The kind of the node of an entry. -/
def Entry.kind (e : Entry) : NodeKind :=
  match e.model with
  | some model => .llm (.nickname model)
  | none => .static

/-- The node of an entry with given children. -/
def Entry.toNode (e : Entry) (children : List String) : Node where
  id := e.id
  kind := e.kind
  template := e.prompt
  indent := e.indent
  line := e.line
  children := children
  flags := e.flags

/-- The nodes of some entries. -/
def nodesOf (entries : List Entry) : List Node :=
  let nested := nestings entries
  entries.map fun e => e.toNode (childrenOf nested e.id)

/-- Reads the nodes of a script. -/
def parse (source : String) : Except Refusal (List Node) := (entries source).map nodesOf

/-- Reads the nodes of a script and links them. -/
def load (source : String) : Except Refusal (List Node) := (parse source).map linked

end PromptChain.Script
