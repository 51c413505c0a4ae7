/-
# Running a chain

`runNodes` runs given nodes from the start to the end; `runScript` first reads the script and looks
up its models.  A script without nodes is completed at once, and nothing is held.

The result of a run is made of the outputs of the model nodes without indent, in their order, each
set off by a blank line.
-/
import PromptChain.Run.Clock
import PromptChain.Run.Models
import PromptChain.Script.Basic

namespace PromptChain

/-- What a completed run leaves. -/
structure RunRecord where
  result : String := ""
  outputs : Store String := {}
  nodes : Store Phase := {}
  rounds : Nat := 0
  /-- The seconds it took. -/
  elapsed : Float := 0.0

/-- How a run ended. -/
inductive Outcome where
  | completed (r : RunRecord)
  | stopped (f : RunFault)
  /-- It was cancelled at its limit. -/
  | cancelled

/-- A run: how it ended, and what it held then, if it was started at all. -/
structure Run where
  outcome : Outcome
  execution : Option Execution

namespace Execution

/-- The phases of the nodes. -/
def phases (x : Execution) : Store Phase := ⟨x.nodes.entries.map fun e => (e.1, e.2.phase)⟩

/-- The result of a completed run. -/
def result (x : Execution) (nodes : List Node) : String :=
  Text.joined "\n\n" <|
    (nodes.filter fun n => n.isLlm && n.indent == 0).filterMap fun n => x.outputs.get? n.id

/-- The record of a completed run. -/
def record (x : Execution) (nodes : List Node) : RunRecord where
  result := x.result nodes
  outputs := x.outputs
  nodes := x.phases
  rounds := x.rounds.length
  elapsed := x.now

/-- The reasons of the nodes that failed, in the order of the nodes. -/
def failures (x : Execution) : List (String × Option String) :=
  (x.nodes.entries.filter fun e => e.2.phase == .failed).map fun e =>
    (e.1, e.2.history.getLast?.bind (·.reason))

end Execution

namespace Run

/-- How a run ended. -/
def outcomeOf (s : Setup) (e : RunState.Ending) : Outcome :=
  if e.cancelled then .cancelled
  else match e.state.waiting with
    | .ended (some f) => .stopped f
    | _ => .completed (e.state.execution.record s.nodes)

/-- Runs some nodes. -/
def ofNodes (s : Setup) (limit : Option Float := none) : Run :=
  let ending := RunState.drive s limit
  ⟨outcomeOf s ending, some ending.state.execution⟩

/-- A run that was stopped before anything was started. -/
def refused (f : RunFault) : Run := ⟨.stopped f, none⟩

/-- Runs a script against a client. -/
def ofScript (source : String) (client : Client) (config : RunConfig) (input : String)
    (listener : Option Listener) (limit : Option Float := none) : Run :=
  match Script.load source with
  | .error r => refused (.script r)
  | .ok [] => ⟨.completed {}, none⟩
  | .ok nodes =>
    match (Graph.mk nodes).checkModels client with
    | .error f => refused f
    | .ok () => ofNodes { nodes, client, config, input, listener } limit

end Run
end PromptChain
