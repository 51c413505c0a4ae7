/-
# What stops a run

A run is stopped by the first thing that goes wrong: the script is refused, a model is not offered,
a node fails, or no node can run any more.  Each has a sentence of its own; a node's fault names
the node and gives the sentence of its cause.
-/
import PromptChain.Client.Basic
import PromptChain.Run.Phase
import PromptChain.Script.Fault
import PromptChain.Template.Context
import PromptChain.Text.Ordered

namespace PromptChain

open PromptChain.Text

/-! ## 1. Nodes that fail -/

/-- Why the output of a node does not name a model. -/
inductive ModelFault where
  | noValue (id : String)
  | blank (id : String)
  | notOffered (nickname id : String)
  deriving DecidableEq, Repr

/-- The sentence for a model that could not be found. -/
def ModelFault.message : ModelFault → String
  | .noValue id => "Model variable '" ++ id ++ "' has no value"
  | .blank id => "Model variable '" ++ id ++ "' is empty"
  | .notOffered nickname id =>
    "Model '" ++ nickname ++ "' from variable '" ++ id ++ "' is not defined"

/-- Why a node failed. -/
inductive NodeCause where
  | template (e : TemplateError)
  | model (e : ModelFault)
  | client (f : ClientFault)
  deriving DecidableEq, Repr

/-- The sentence for the cause of a failure. -/
def NodeCause.message : NodeCause → String
  | .template e => e.message
  | .model e => e.message
  | .client f => f.message

/-- A node that failed, its cause if one is known, and a remark that replaces the cause's sentence
unless it is empty. -/
structure NodeFailure where
  node : String
  cause : Option NodeCause := none
  remark : String := ""
  deriving DecidableEq, Repr

/-- The sentence for a node that failed. -/
def NodeFailure.message (f : NodeFailure) : String :=
  let detail := if f.remark.isEmpty then
      match f.cause with
      | some cause => cause.message
      | none => "unknown error"
    else f.remark
  "Error executing node " ++ f.node ++ ": " ++ detail

/-! ## 2. Runs that cannot go on -/

/-- Nodes that can never run, and a cycle among them if there is one. -/
structure Deadlock where
  pending : List String
  cycle : List String := []
  deriving DecidableEq, Repr

/-- The sentence for a deadlock. -/
def Deadlock.message (d : Deadlock) : String :=
  "Deadlock detected: no runnable nodes found, but nodes are still pending: " ++
    joined ", " d.pending ++
    if d.cycle.isEmpty then "" else " (dependency cycle: " ++ joined " -> " d.cycle ++ ")"

/-- Nicknames that no offered model has, in increasing order. -/
structure MissingModels where
  nicknames : List String
  deriving DecidableEq, Repr

namespace MissingModels

/-- The missing models among some nicknames. -/
def of (nicknames : List String) : MissingModels := ⟨ordered nicknames⟩

/-- The sentence for missing models. -/
def message (m : MissingModels) : String :=
  "Workflow aborted: the following models are not defined: " ++ joined ", " m.nicknames

end MissingModels

/-- What stops a run. -/
inductive RunFault where
  /-- The script cannot be read. -/
  | script (r : Script.Refusal)
  /-- Models are missing, and nothing was started. -/
  | models (m : MissingModels)
  /-- A model is to be named by a node that is not there. -/
  | noSuchNode (id : String)
  /-- A node failed. -/
  | node (f : NodeFailure)
  /-- No node can run any more. -/
  | deadlock (d : Deadlock)
  /-- A node was moved to a phase it cannot go to. -/
  | rejected (r : Rejection)
  deriving DecidableEq, Repr

end PromptChain
