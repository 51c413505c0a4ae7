/-
# The work of a node

A static node resolves its text and is completed at once.

A model node works in up to four steps, and may sleep between two of them:

1. *Begin.*  If it is to be held back and there is a delay, it sleeps for the delay.
2. *Launch.*  It finds its model and composes its prompt.  If it asks for the transcript it sleeps
   until the client has that, if there is anything to wait for.
3. *Send.*  It makes its call, and sleeps for the client's latency, if there is any.
4. *Answer.*  It stores what the client answers and is completed.

Whatever goes wrong after the first step lets the node fail.  A step changes what the run
holds and tells how the node goes on: it is settled, asleep until some moment, or it stops the run.
-/
import PromptChain.Run.Execution

namespace PromptChain

/-! ## 1. Steps and sleepers -/

/-- A step of a model node. -/
inductive Step where
  /-- The first one; whether the node is held back. -/
  | begin (heldBack : Bool)
  | launch
  /-- The transcript can be had: the prompt goes to the model. -/
  | send (model prompt : String)
  /-- The last one: the client answers the call with this index and request. -/
  | answer (call : Nat) (request : Request)
  deriving DecidableEq, Repr

/-- A step that a node is to do. -/
structure Task where
  node : Node
  step : Step
  deriving DecidableEq, Repr

/-- A task that waits for a moment. -/
structure Sleeper where
  task : Task
  due : Float

/-- How a node goes on after a step. -/
inductive Pace where
  | settled
  | asleep (z : Sleeper)
  | stops (f : RunFault)

/-- The flag with which a node asks for the transcript. -/
def historyFlag : String := "history"

/-- The sender of a prompt. -/
def userSender : String := "User"

/-! ## 2. The request of a node -/

/-- The model a node calls. -/
def Context.modelOf (c : Context) (e : Encounter) : ModelSource → Except NodeCause String
  | .nickname name => .ok name
  | .output id =>
    match c.outputs.get? id with
    | none => .error (.model (.noValue id))
    | some value =>
      let nickname := Text.trim value
      if nickname.isEmpty then .error (.model (.blank id))
      else match e.models with
        | .error f => .error (.client f)
        | .ok models =>
          if models.any (·.answersTo nickname) then .ok nickname
          else .error (.model (.notOffered nickname id))

/-- The messages of a node: its prompt, after the transcript if it asks for that. -/
def Encounter.messages (e : Encounter) (flags : List String) (prompt : String) :
    Except ClientFault (List Message) :=
  let turn : Message := ⟨userSender, prompt⟩
  if historyFlag ∈ flags then
    match e.transcript with
    | .error f => .error f
    | .ok earlier => .ok (earlier.getD [] ++ [turn])
  else .ok [turn]

namespace Execution

/-! ## 3. The steps -/

/-- The pace of a node that failed. -/
def failing (x : Execution) (s : Setup) (id : String) (cause : NodeCause) : Execution × Pace :=
  let (x, f) := x.fail s id cause
  (x, .stops f)

/-- Takes the client's answer to a call. -/
def answer (x : Execution) (s : Setup) (n : Node) (call : Nat) (r : Request) : Execution × Pace :=
  match (s.meets n).answer r with
  | .error f => x.failing s n.id (.client f)
  | .ok output =>
    match (x.finishCall call).complete s n.id output with
    | (x, some f) => (x, .stops f)
    | (x, none) => (x, .settled)

/-- Makes a call: notes it and sleeps for the client's latency, if there is any. -/
def call (x : Execution) (s : Setup) (n : Node) (r : Request) : Execution × Pace :=
  let index := x.calls.length
  let x := { x with calls := x.calls ++ [(n.id, ⟨r, x.now, none⟩)] }
  let latency := (s.meets n).latency r
  if 0 < latency then (x, .asleep ⟨⟨n, .answer index r⟩, x.now + latency⟩)
  else x.answer s n index r

/-- Sends the prompt of a node to a model. -/
def send (x : Execution) (s : Setup) (n : Node) (model prompt : String) : Execution × Pace :=
  match (s.meets n).messages n.flags prompt with
  | .error f => x.failing s n.id (.client f)
  | .ok messages => x.call s n ⟨model, messages, n.flags⟩

/-- Sends the prompt of a node to a model, when the transcript is there if the node asks for it. -/
def converse (x : Execution) (s : Setup) (n : Node) (model prompt : String) : Execution × Pace :=
  let wait := (s.meets n).recollection
  if historyFlag ∈ n.flags ∧ 0 < wait then (x, .asleep ⟨⟨n, .send model prompt⟩, x.now + wait⟩)
  else x.send s n model prompt

/-- Composes the prompt of a node for a model. -/
def launchFor (x : Execution) (s : Setup) (n : Node) (model : String) : Execution × Pace :=
  let x := x.tell s.listener (.running n.id model)
  match (x.context s).prompt n with
  | .error e => x.failing s n.id (.template e)
  | .ok prompt => x.converse s n model prompt

/-- Finds the model of a node and composes its prompt; a static node has no call. -/
def launch (x : Execution) (s : Setup) (n : Node) : Execution × Pace :=
  match n.kind with
  | .static => (x, .settled)
  | .llm source =>
    match (x.context s).modelOf (s.meets n) source with
    | .error cause => x.failing s n.id cause
    | .ok model => x.launchFor s n model

/-- Begins a node. -/
def begin (x : Execution) (s : Setup) (n : Node) (heldBack : Bool) : Execution × Pace :=
  if heldBack && decide (0 < s.config.delay) then
    (x.tell s.listener (.waiting s.config.delay n.id),
      .asleep ⟨⟨n, .launch⟩, x.now + s.config.delay⟩)
  else x.launch s n

/-- Does a step of a model node. -/
def perform (x : Execution) (s : Setup) (t : Task) : Execution × Pace :=
  match t.step with
  | .begin heldBack => x.begin s t.node heldBack
  | .launch => x.launch s t.node
  | .send model prompt => x.send s t.node model prompt
  | .answer index r => x.answer s t.node index r

/-- Resolves a static node. -/
def resolveStatic (x : Execution) (s : Setup) (n : Node) : Execution × Option RunFault :=
  let x := x.tell s.listener (.resolving n.id)
  match (x.context s).staticText n with
  | .error e =>
    let (x, f) := x.fail s n.id (.template e)
    (x, some f)
  | .ok text => x.complete s n.id text

end Execution
end PromptChain
