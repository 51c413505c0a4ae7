/-
# The models a chain needs

Before a chain is run, the models it needs are looked up.  A model node needs the model it names,
or the one that its static node's text names.  A text that is blank or has placeholders names
nothing yet; such a model is looked up when the node runs.
-/
import PromptChain.Graph.Basic
import PromptChain.Run.Fault

namespace PromptChain

open PromptChain.Template PromptChain.Text

namespace Graph

/-- The nickname that a text names before the run. -/
def nicknameIn (template : String) : Option String :=
  let nickname := trim template
  if nickname.isEmpty || hasPlaceholder nickname then none else some nickname

/-- The nickname that a node needs, if it is known before the run; or the id of the node that
should name it and is not there. -/
def neededBy (g : Graph) (n : Node) : Except String (Option String) :=
  match n.kind with
  | .static => .ok none
  | .llm (.nickname name) => .ok (some name)
  | .llm (.output id) =>
    match g.find? id with
    | none => .error id
    | some target => .ok (nicknameIn target.template)

/-- The nicknames that some nodes need. -/
def neededByAll (g : Graph) : List Node → Except String (List String)
  | [] => .ok []
  | n :: rest =>
    match g.neededBy n with
    | .error id => .error id
    | .ok needed =>
      match g.neededByAll rest with
      | .error id => .error id
      | .ok more => .ok (needed.toList ++ more)

/-- Checks that a client offers every model that is known to be needed. -/
def checkModels (g : Graph) (c : Client) : Except RunFault Unit :=
  match g.neededByAll g.nodes with
  | .error id => .error (.noSuchNode id)
  | .ok needed =>
    let missing := needed.filter fun nickname => !c.offers nickname
    if missing.isEmpty then .ok () else .error (.models (.of missing))

end Graph
end PromptChain
