/-
# The flow of a run

A run goes in rounds.  At the start of a round it looks for the nodes that can run: pending ones all
of whose dependencies are completed.  All of them are set running, the static ones are resolved, and
then the model nodes are called, one after the other or all at once.  When the last is settled the
run rests, and the next round begins.  The run ends when no node is left unresolved, when something
stops it, or when nothing could run for more rounds on end than it puts up with.

Between two moments at which something happens a run is suspended: it rests, or some model nodes
are asleep.  A state is what the run holds together with what it waits for (`Waiting`); `resume`
leads from one suspension to the next.  Which of the sleeping nodes wake first is the schedule's
choice and not the run's, so `resume` is given it: everything that holds of all choices holds of
every schedule.

Nodes that wake at the same moment all do their steps before a fault among them is noticed; the
first fault then stops the run, and the nodes still asleep are abandoned where they are.
-/
import PromptChain.Graph.Cycle
import PromptChain.Run.Work

namespace PromptChain

/-! ## 1. States -/

/-- What a run waits for. -/
inductive Waiting where
  /-- Some nodes of a round are asleep, and others are to be begun when these are settled. -/
  | calls (asleep : List Sleeper) (queue : List Node)
  /-- The end of the rest after a round. -/
  | rest (due : Float)
  /-- Nothing: the run is over, stopped by a fault or not. -/
  | ended (fault : Option RunFault)

/-- A suspended run. -/
structure RunState where
  execution : Execution
  /-- How many rounds on end had nothing to run. -/
  idle : Nat
  waiting : Waiting

namespace RunState

/-! ## 2. Ends of a round -/

/-- A run stopped by a fault. -/
def stopped (x : Execution) (f : RunFault) : RunState := ⟨x.moveWorkflow .failed, 0, .ended (some f)⟩

/-- A run that came to its end. -/
def finished (x : Execution) : RunState := ⟨x.moveWorkflow .completed, 0, .ended none⟩

/-- A run that rests after a round. -/
def resting (s : Setup) (x : Execution) (idle : Nat) : RunState :=
  ⟨x, idle, .rest (x.now + s.config.pause)⟩

/-! ## 3. Calls of a round -/

/-- Does some steps in their order: the nodes that fell asleep, and the faults. -/
def performAll (s : Setup) : List Task → Execution → Execution × List Sleeper × List RunFault
  | [], x => (x, [], [])
  | t :: rest, x =>
    let (x, pace) := x.perform s t
    let (x, asleep, faults) := performAll s rest x
    match pace with
    | .settled => (x, asleep, faults)
    | .asleep z => (x, z :: asleep, faults)
    | .stops f => (x, asleep, f :: faults)

/-- Begins the nodes of a queue, each when the one before it is settled; a node that falls asleep or
stops the run keeps the rest from being begun. -/
def serve (s : Setup) : (heldBack : Bool) → List Node → Execution → RunState
  | _, [], x => resting s x 0
  | heldBack, n :: rest, x =>
    match x.begin s n heldBack with
    | (x, .settled) => serve s true rest x
    | (x, .asleep z) => ⟨x, 0, .calls [z] rest⟩
    | (x, .stops f) => stopped x f

/-- Goes on after some steps of a round. -/
def afterSteps (s : Setup) (asleep : List Sleeper) (faults : List RunFault) (queue : List Node)
    (x : Execution) : RunState :=
  match faults with
  | f :: _ => stopped x f
  | [] => match asleep with
    | [] => serve s true queue x
    | asleep => ⟨x, 0, .calls asleep queue⟩

/-- Begins the calls of a round. -/
def beginCalls (s : Setup) (nodes : List Node) (x : Execution) : RunState :=
  if s.config.sequential then serve s false nodes x
  else
    let (x, asleep, faults) := performAll s (nodes.map fun n => ⟨n, .begin true⟩) x
    afterSteps s asleep faults [] x

/-! ## 4. Rounds -/

/-- Sets nodes running, up to the first that cannot be. -/
def startAll : List Node → Execution → Execution × Option RunFault
  | [], x => (x, none)
  | n :: rest, x =>
    match x.move n.id .running with
    | .error r => (x, some (.rejected r))
    | .ok x => startAll rest x

/-- Resolves static nodes, up to the first that fails. -/
def resolveAll (s : Setup) : List Node → Execution → Execution × Option RunFault
  | [], x => (x, none)
  | n :: rest, x =>
    match x.resolveStatic s n with
    | (x, some f) => (x, some f)
    | (x, none) => resolveAll s rest x

/-- A round with something to run. -/
def round (s : Setup) (nodes : List Node) (x : Execution) : RunState :=
  let x := { x with rounds := x.rounds ++ [nodes.map (·.id)] }
  match startAll nodes x with
  | (x, some f) => stopped x f
  | (x, none) =>
    match resolveAll s (nodes.filter (·.isStatic)) x with
    | (x, some f) => stopped x f
    | (x, none) => beginCalls s (nodes.filter (·.isLlm)) x

/-- The deadlock that a run is in. -/
def deadlock (s : Setup) (x : Execution) : Deadlock :=
  let pending := (s.nodes.map (·.id)).filter x.isUnresolved
  ⟨pending, s.graph.cycleAmong pending⟩

/-- The start of a round, after `idle` rounds on end without anything to run. -/
def poll (s : Setup) (idle : Nat) (x : Execution) : RunState :=
  if x.hasUnresolved then
    match x.runnable s.graph with
    | [] =>
      if s.config.grace < idle then stopped x (.deadlock (deadlock s x))
      else resting s x (idle + 1)
    | nodes => round s nodes x
  else finished x

/-! ## 5. Suspension and resumption -/

/-- The first suspension of a run. -/
def start (s : Setup) : RunState :=
  poll s 0 ((Execution.initial s.nodes).moveWorkflow .running)

/-- Leads a suspended run on to its next suspension: at a moment, some of the sleeping nodes
wake. -/
def resume (s : Setup) (wakes : Sleeper → Bool) (moment : Float) (st : RunState) : RunState :=
  let x := { st.execution with now := moment }
  match st.waiting with
  | .ended _ => st
  | .rest _ => poll s st.idle x
  | .calls asleep queue =>
    let (x, again, faults) := performAll s ((asleep.filter wakes).map (·.task)) x
    afterSteps s (asleep.filter (fun z => !wakes z) ++ again) faults queue x

/-- The states a run can be suspended in, under whatever schedule. -/
inductive Reachable (s : Setup) : RunState → Prop where
  | start : Reachable s (start s)
  | resume {st : RunState} (wakes : Sleeper → Bool) (moment : Float) (h : Reachable s st) :
      Reachable s (st.resume s wakes moment)

end RunState
end PromptChain
