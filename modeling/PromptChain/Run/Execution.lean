/-
# What a run holds

An execution is everything a run holds at one moment: where the run and each node stand, the
outputs stored so far in the order of completion, the ids begun in each round, the calls made, what
the listener was told, and the clock.

Everything that happens to a node is one of the operations below.  They touch only the node's own
lifecycle and output, so what was stored for another node stays.
-/
import PromptChain.Client.Basic
import PromptChain.Graph.Basic
import PromptChain.Run.Config
import PromptChain.Run.Event
import PromptChain.Run.Fault

namespace PromptChain

/-- What a run is given. -/
structure Setup where
  nodes : List Node
  client : Client
  config : RunConfig
  input : String
  listener : Option Listener
  /-- What each node meets when it turns to the client. -/
  meets : Node → Encounter := fun _ => client.encounter

namespace Setup

/-- The dependency graph of the nodes. -/
def graph (s : Setup) : Graph := ⟨s.nodes⟩

end Setup

/-- What a run holds at one moment. -/
structure Execution where
  workflow : Lifecycle := {}
  /-- Where the nodes stand, by id. -/
  nodes : Store Lifecycle
  outputs : Store String := {}
  /-- The ids that were begun in each round. -/
  rounds : List (List String) := []
  /-- The calls made, each with the node that made it. -/
  calls : List (String × Call) := []
  /-- What the listener was told. -/
  progress : List Event := []
  /-- Seconds since the run began. -/
  now : Float := 0.0

namespace Execution

/-! ## 1. Looking -/

/-- The execution of some nodes before anything ran. -/
def initial (nodes : List Node) : Execution where
  nodes := Store.ofList (nodes.map fun n => (n.id, {}))

/-- The phase of a node. -/
def phase? (x : Execution) (id : String) : Option Phase := (x.nodes.get? id).map (·.phase)

/-- Whether a node has not come to its end. -/
def isUnresolved (x : Execution) (id : String) : Bool :=
  match x.nodes.get? id with
  | some l => l.isUnresolved
  | none => false

/-- Whether some node has not come to its end. -/
def hasUnresolved (x : Execution) : Bool := x.nodes.entries.any fun e => e.2.isUnresolved

/-- The ids of the nodes that are completed. -/
def completed (x : Execution) : List String :=
  (x.nodes.entries.filter fun e => e.2.phase == .completed).map (·.1)

/-- The nodes that can be begun now. -/
def runnable (x : Execution) (g : Graph) : List Node :=
  (g.ready x.completed).filter fun n => x.phase? n.id == some .pending

/-- What placeholders stand for at this moment. -/
def context (x : Execution) (s : Setup) : Context := ⟨x.outputs, s.input⟩

/-! ## 2. Single changes -/

/-- Moves a node to a phase. -/
def move (x : Execution) (id : String) (target : Phase) (reason : Option String := none) :
    Except Rejection Execution :=
  match ((x.nodes.get? id).getD {}).move target reason with
  | .ok l => .ok { x with nodes := x.nodes.put id l }
  | .error r => .error r

/-- Moves the run to a phase, if it can go there. -/
def moveWorkflow (x : Execution) (target : Phase) : Execution :=
  match x.workflow.move target with
  | .ok l => { x with workflow := l }
  | .error _ => x

/-- Tells the listener, if there is one, and drops what it answers. -/
def tell (x : Execution) (listener : Option Listener) (e : Event) : Execution :=
  match listener with
  | none => x
  | some hear =>
    match hear x.progress e with
    | .ok () | .error _ => { x with progress := x.progress ++ [e] }

/-- Notes that a call was answered. -/
def finishCall (x : Execution) (index : Nat) : Execution :=
  { x with calls := x.calls.modify index fun c => (c.1, { c.2 with finished := some x.now }) }

/-- Stores the output of a node and completes it. -/
def complete (x : Execution) (s : Setup) (id output : String) : Execution × Option RunFault :=
  let x := { x with outputs := x.outputs.put id output }
  match x.move id .completed with
  | .error r => (x, some (.rejected r))
  | .ok x => (x.tell s.listener (.completed id), none)

/-- Lets a node fail. -/
def fail (x : Execution) (s : Setup) (id : String) (cause : NodeCause) : Execution × RunFault :=
  match x.move id .failed (some cause.message) with
  | .error r => (x, .rejected r)
  | .ok x =>
    (x.tell s.listener (.failed id cause.message), .node { node := id, cause := some cause })

end Execution
end PromptChain
