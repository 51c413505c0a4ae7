/-
# What a listener changes

A run may have a listener, and may have another instead or none.  That changes what was told and
nothing else, whatever the listener answers.

What was told to one listener tells what another would have been told (`Retelling`): nothing if
there is none, and the same if there is one.  An execution in which that was told is the execution
with the other listener (`retold`).  Every function of a run takes the one to the other, so it need
not be known what the function does: of those that tell something it is shown by way of
`tell_retold`, and of those that call others by way of these.  It follows for steps, for what the
clock does, for whole runs and for courses.
-/
import PromptChain.Proofs.Run.Scripts

namespace PromptChain

/-! ## 1. Other listeners -/

/-- A run with another listener. -/
def Setup.hearing (s : Setup) (listener : Option Listener) : Setup := { s with listener }

section Hearing

variable (s : Setup) (listener : Option Listener)

@[simp] theorem Setup.listener_hearing : (s.hearing listener).listener = listener := rfl

@[simp] theorem Setup.meets_hearing : (s.hearing listener).meets = s.meets := rfl

@[simp] theorem Setup.nodes_hearing : (s.hearing listener).nodes = s.nodes := rfl

@[simp] theorem Setup.graph_hearing : (s.hearing listener).graph = s.graph := rfl

@[simp] theorem Execution.context_hearing (x : Execution) :
    x.context (s.hearing listener) = x.context s := rfl

end Hearing

/-- What has been told when one more event happens: it is told if there is a listener. -/
def toldWith (listener : Option Listener) (told : List Event) (e : Event) : List Event :=
  if listener.isSome then told ++ [e] else told

/-- A way to tell from what one listener has been told what another has. -/
structure Retelling (listener listener' : Option Listener) where
  retell : List Event → List Event
  nothing : retell [] = []
  more : ∀ told e, retell (toldWith listener told e) = toldWith listener' (retell told) e

namespace Retelling

/-- Without a listener nothing is told. -/
def silence (listener : Option Listener) : Retelling listener none where
  retell _ := []
  nothing := rfl
  more _ _ := rfl

/-- Two listeners are told the same. -/
def same {listener listener' : Option Listener} (h : listener.isSome = listener'.isSome) :
    Retelling listener listener' where
  retell told := told
  nothing := rfl
  more _ _ := by rw [toldWith, toldWith, h]

end Retelling

section Retold

variable {listener listener' : Option Listener}

/-- An execution as it is with another listener. -/
def Execution.retold (x : Execution) (r : Retelling listener listener') : Execution :=
  { x with progress := r.retell x.progress }

/-- An execution as it is with another listener, with what comes of it. -/
def Retelling.along {α : Type} (r : Retelling listener listener') (p : Execution × α) :
    Execution × α :=
  (p.1.retold r, p.2)

@[simp] theorem Execution.context_retold (x : Execution) (r : Retelling listener listener')
    (s : Setup) : (x.retold r).context s = x.context s := rfl

/-! The functions of a run change an execution in the middle of what they do.  Such a change has a
name here, and the function is written with it, so that the change can be seen to do the same to
what is retold. -/

/-- An execution in which an output is stored. -/
def Execution.storing (x : Execution) (id output : String) : Execution :=
  { x with outputs := x.outputs.put id output }

/-- An execution in which a call is noted. -/
def Execution.noting (x : Execution) (n : Node) (request : Request) : Execution :=
  { x with calls := x.calls ++ [(n.id, ⟨request, x.now, none⟩)] }

/-- An execution in which a round with some nodes is noted. -/
def Execution.opening (x : Execution) (nodes : List Node) : Execution :=
  { x with rounds := x.rounds ++ [nodes.map (·.id)] }

/-- An execution at another moment. -/
def Execution.atMoment (x : Execution) (moment : Float) : Execution := { x with now := moment }

end Retold

/-! ## 2. Changes of one node -/

namespace Execution

variable {listener listener' : Option Listener} (r : Retelling listener listener') (s : Setup)
  (x : Execution)

theorem tell_eq (listener : Option Listener) (e : Event) :
    x.tell listener e = { x with progress := toldWith listener x.progress e } := by
  cases listener with
  | none => rfl
  | some hear =>
    rw [tell]
    split <;> rfl

theorem tell_retold (e : Event) :
    (x.retold r).tell listener' e = (x.tell listener e).retold r := by
  simp only [tell_eq, retold, r.more]

theorem move_retold (id : String) (target : Phase) (reason : Option String) :
    (x.retold r).move id target reason = (x.move id target reason).map (·.retold r) := by
  simp only [move, retold]
  cases ((x.nodes.get? id).getD {}).move target reason <;> rfl

theorem moveWorkflow_retold (target : Phase) :
    (x.retold r).moveWorkflow target = (x.moveWorkflow target).retold r := by
  simp only [moveWorkflow, retold]
  cases x.workflow.move target <;> rfl

theorem complete_eq (id output : String) : x.complete s id output =
    match (x.storing id output).move id .completed with
    | .error rejection => (x.storing id output, some (.rejected rejection))
    | .ok y => (y.tell s.listener (.completed id), none) := rfl

theorem complete_retold (id output : String) :
    (x.retold r).complete (s.hearing listener') id output =
      r.along (x.complete (s.hearing listener) id output) := by
  have hstore : (x.retold r).storing id output = (x.storing id output).retold r := rfl
  rw [complete_eq, complete_eq, hstore, move_retold]
  cases (x.storing id output).move id .completed with
  | error rejection => rfl
  | ok y => exact congrArg (·, none) (tell_retold r y _)

theorem fail_retold (id : String) (cause : NodeCause) :
    (x.retold r).fail (s.hearing listener') id cause =
      r.along (x.fail (s.hearing listener) id cause) := by
  rw [fail, fail, move_retold]
  cases x.move id .failed (some cause.message) with
  | error rejection => rfl
  | ok y => exact congrArg (·, _) (tell_retold r y _)

theorem resolveStatic_retold (n : Node) :
    (x.retold r).resolveStatic (s.hearing listener') n =
      r.along (x.resolveStatic (s.hearing listener) n) := by
  simp only [resolveStatic, Setup.listener_hearing, tell_retold r]
  generalize x.tell listener (.resolving n.id) = y
  simp only [context_hearing, context_retold]
  cases (y.context s).staticText n with
  | error e =>
    simp only [fail_retold r]
    rfl
  | ok text => exact complete_retold r s y n.id text

/-! ## 3. Steps of model nodes -/

theorem failing_retold (id : String) (cause : NodeCause) :
    (x.retold r).failing (s.hearing listener') id cause =
      r.along (x.failing (s.hearing listener) id cause) := by
  simp only [failing, fail_retold r]
  rfl

theorem answer_retold (n : Node) (index : Nat) (request : Request) :
    (x.retold r).answer (s.hearing listener') n index request =
      r.along (x.answer (s.hearing listener) n index request) := by
  have hfinish : (x.retold r).finishCall index = (x.finishCall index).retold r := rfl
  cases hanswer : (s.meets n).answer request with
  | error f => simp only [answer, Setup.meets_hearing, hanswer, failing_retold r]
  | ok output =>
    simp only [answer, Setup.meets_hearing, hanswer, hfinish, complete_retold r]
    rcases (x.finishCall index).complete (s.hearing listener) n.id output with ⟨y, fault⟩
    cases fault <;> rfl

theorem call_eq (n : Node) (request : Request) : x.call s n request =
    if 0 < (s.meets n).latency request then
      (x.noting n request,
        .asleep ⟨⟨n, .answer x.calls.length request⟩, x.now + (s.meets n).latency request⟩)
    else (x.noting n request).answer s n x.calls.length request := rfl

theorem call_retold (n : Node) (request : Request) :
    (x.retold r).call (s.hearing listener') n request =
      r.along (x.call (s.hearing listener) n request) := by
  have hnote : (x.retold r).noting n request = (x.noting n request).retold r := rfl
  simp only [call_eq, hnote, answer_retold r]
  -- the two conditions are about the same client, though they do not look the same
  rw [apply_ite r.along]
  exact if_congr Iff.rfl rfl rfl

theorem send_retold (n : Node) (model prompt : String) :
    (x.retold r).send (s.hearing listener') n model prompt =
      r.along (x.send (s.hearing listener) n model prompt) := by
  simp only [send, Setup.meets_hearing]
  cases (s.meets n).messages n.flags prompt with
  | error f => exact failing_retold r s x n.id (.client f)
  | ok messages => exact call_retold r s x n _

theorem converse_retold (n : Node) (model prompt : String) :
    (x.retold r).converse (s.hearing listener') n model prompt =
      r.along (x.converse (s.hearing listener) n model prompt) := by
  simp only [converse, send_retold r]
  rw [apply_ite r.along]
  exact if_congr Iff.rfl rfl rfl

theorem launchFor_retold (n : Node) (model : String) :
    (x.retold r).launchFor (s.hearing listener') n model =
      r.along (x.launchFor (s.hearing listener) n model) := by
  simp only [launchFor, Setup.listener_hearing, tell_retold r]
  generalize x.tell listener (.running n.id model) = y
  simp only [context_hearing, context_retold]
  cases (y.context s).prompt n with
  | error e => exact failing_retold r s y n.id (.template e)
  | ok prompt => exact converse_retold r s y n model prompt

theorem launch_retold (n : Node) :
    (x.retold r).launch (s.hearing listener') n = r.along (x.launch (s.hearing listener) n) := by
  simp only [launch, context_hearing, context_retold, Setup.meets_hearing]
  cases n.kind with
  | static => rfl
  | llm source =>
    cases hmodel : (x.context s).modelOf (s.meets n) source with
    | error cause => simp only [hmodel, failing_retold r]
    | ok model => simp only [hmodel, launchFor_retold r]

theorem begin_retold (n : Node) (heldBack : Bool) :
    (x.retold r).begin (s.hearing listener') n heldBack =
      r.along (x.begin (s.hearing listener) n heldBack) := by
  simp only [begin, launch_retold r, Setup.listener_hearing, tell_retold r]
  rw [apply_ite r.along]
  exact if_congr Iff.rfl rfl rfl

/-- **What a model node does in a step, and how it goes on, does not depend on the listener.** -/
theorem perform_retold (t : Task) :
    (x.retold r).perform (s.hearing listener') t = r.along (x.perform (s.hearing listener) t) := by
  rw [perform, perform]
  cases t.step with
  | begin heldBack => exact begin_retold r s x t.node heldBack
  | launch => exact launch_retold r s x t.node
  | send model prompt => exact send_retold r s x t.node model prompt
  | answer index request => exact answer_retold r s x t.node index request

end Execution

/-! ## 4. Rounds -/

namespace RunState

variable {listener listener' : Option Listener} (r : Retelling listener listener') (s : Setup)
  (x : Execution)

/-- A suspended run as it is with another listener. -/
def retold (st : RunState) (r : Retelling listener listener') : RunState :=
  { st with execution := st.execution.retold r }

theorem stopped_retold (f : RunFault) : stopped (x.retold r) f = (stopped x f).retold r := by
  simp only [stopped, retold, Execution.moveWorkflow_retold]

theorem finished_retold : finished (x.retold r) = (finished x).retold r := by
  simp only [finished, retold, Execution.moveWorkflow_retold]

theorem performAll_retold (ts : List Task) :
    performAll (s.hearing listener') ts (x.retold r) =
      r.along (performAll (s.hearing listener) ts x) := by
  induction ts generalizing x with
  | nil => rfl
  | cons t rest ih =>
    simp only [performAll, Execution.perform_retold r]
    rcases x.perform (s.hearing listener) t with ⟨y, pace⟩
    simp only [Retelling.along, ih]
    cases pace <;> rfl

theorem serve_retold (heldBack : Bool) (nodes : List Node) :
    serve (s.hearing listener') heldBack nodes (x.retold r) =
      (serve (s.hearing listener) heldBack nodes x).retold r := by
  induction nodes generalizing heldBack x with
  | nil => rfl
  | cons n rest ih =>
    simp only [serve, Execution.begin_retold r]
    rcases x.begin (s.hearing listener) n heldBack with ⟨y, pace⟩
    cases pace with
    | settled => exact ih y true
    | asleep z => rfl
    | stops f => exact stopped_retold r y f

theorem afterSteps_retold (asleep : List Sleeper) (faults : List RunFault) (queue : List Node) :
    afterSteps (s.hearing listener') asleep faults queue (x.retold r) =
      (afterSteps (s.hearing listener) asleep faults queue x).retold r := by
  cases faults with
  | cons f rest => exact stopped_retold r x f
  | nil =>
    cases asleep with
    | nil => exact serve_retold r s x true queue
    | cons z rest => rfl

theorem beginCalls_retold (nodes : List Node) :
    beginCalls (s.hearing listener') nodes (x.retold r) =
      (beginCalls (s.hearing listener) nodes x).retold r := by
  simp only [beginCalls, performAll_retold r]
  rw [apply_ite (retold · r)]
  exact if_congr Iff.rfl (serve_retold r s x false nodes) (afterSteps_retold r s _ _ _ [])

theorem startAll_retold (nodes : List Node) :
    startAll nodes (x.retold r) = r.along (startAll nodes x) := by
  induction nodes generalizing x with
  | nil => rfl
  | cons n rest ih =>
    simp only [startAll, Execution.move_retold r]
    cases x.move n.id .running with
    | error rejection => rfl
    | ok y => exact ih y

theorem resolveAll_retold (nodes : List Node) :
    resolveAll (s.hearing listener') nodes (x.retold r) =
      r.along (resolveAll (s.hearing listener) nodes x) := by
  induction nodes generalizing x with
  | nil => rfl
  | cons n rest ih =>
    simp only [resolveAll, Execution.resolveStatic_retold r]
    rcases x.resolveStatic (s.hearing listener) n with ⟨y, fault⟩
    cases fault with
    | none => exact ih y
    | some f => rfl

theorem round_eq (nodes : List Node) : round s nodes x =
    match startAll nodes (x.opening nodes) with
    | (y, some f) => stopped y f
    | (y, none) =>
      match resolveAll s (nodes.filter (·.isStatic)) y with
      | (z, some f) => stopped z f
      | (z, none) => beginCalls s (nodes.filter (·.isLlm)) z := rfl

theorem round_retold (nodes : List Node) :
    round (s.hearing listener') nodes (x.retold r) =
      (round (s.hearing listener) nodes x).retold r := by
  have hopening : (x.retold r).opening nodes = (x.opening nodes).retold r := rfl
  simp only [round_eq, hopening, startAll_retold r]
  rcases startAll nodes (x.opening nodes) with ⟨y, fault⟩
  cases fault with
  | some f => exact stopped_retold r y f
  | none =>
    simp only [Retelling.along, resolveAll_retold r]
    rcases resolveAll (s.hearing listener) (nodes.filter (·.isStatic)) y with ⟨z, fault⟩
    cases fault with
    | some f => exact stopped_retold r z f
    | none => exact beginCalls_retold r s z _

theorem poll_retold (idle : Nat) :
    poll (s.hearing listener') idle (x.retold r) =
      (poll (s.hearing listener) idle x).retold r := by
  have hunresolved : (x.retold r).hasUnresolved = x.hasUnresolved := rfl
  have hrunnable : (x.retold r).runnable s.graph = x.runnable s.graph := rfl
  simp only [poll, Setup.graph_hearing, hunresolved, hrunnable]
  cases x.hasUnresolved with
  | false => exact finished_retold r x
  | true =>
    cases x.runnable s.graph with
    | nil =>
      simp only [if_true]
      rw [apply_ite (retold · r)]
      exact if_congr Iff.rfl (stopped_retold r x _) rfl
    | cons n rest => exact round_retold r s x (n :: rest)

theorem running_retold :
    ((Execution.initial s.nodes).moveWorkflow .running).retold r =
      (Execution.initial s.nodes).moveWorkflow .running := by
  have hinitial : (Execution.initial s.nodes).retold r = Execution.initial s.nodes := by
    simp only [Execution.retold, Execution.initial, r.nothing]
  rw [← Execution.moveWorkflow_retold, hinitial]

theorem start_retold :
    start (s.hearing listener') = (start (s.hearing listener)).retold r := by
  rw [start, Setup.nodes_hearing, ← running_retold r]
  exact poll_retold r s _ 0

theorem resume_calls (wakes : Sleeper → Bool) (moment : Float) (idle : Nat) (asleep : List Sleeper)
    (queue : List Node) : resume s wakes moment ⟨x, idle, .calls asleep queue⟩ =
      let p := performAll s ((asleep.filter wakes).map (·.task)) (x.atMoment moment)
      afterSteps s (asleep.filter (fun z => !wakes z) ++ p.2.1) p.2.2 queue p.1 := rfl

/-- **What a run comes to when sleepers wake does not depend on the listener.** -/
theorem resume_retold (wakes : Sleeper → Bool) (moment : Float) (st : RunState) :
    (st.retold r).resume (s.hearing listener') wakes moment =
      (st.resume (s.hearing listener) wakes moment).retold r := by
  obtain ⟨x, idle, waiting⟩ := st
  cases waiting with
  | ended fault => rfl
  | rest due => exact poll_retold r s (x.atMoment moment) idle
  | calls asleep queue =>
    have hstate : retold ⟨x, idle, .calls asleep queue⟩ r =
        ⟨x.retold r, idle, .calls asleep queue⟩ := rfl
    have hmoment : (x.retold r).atMoment moment = (x.atMoment moment).retold r := rfl
    rw [hstate, resume_calls, resume_calls, hmoment, performAll_retold r]
    exact afterSteps_retold r s _ _ _ queue

/-! ## 5. Whole runs -/

/-- The end of a run as it is with another listener. -/
def Ending.retold (e : Ending) (r : Retelling listener listener') : Ending :=
  { e with state := e.state.retold r }

theorem driveFor_retold (limit : Option Float) (fuel : Nat) (st : RunState) :
    driveFor (s.hearing listener') limit fuel (st.retold r) =
      (driveFor (s.hearing listener) limit fuel st).retold r := by
  induction fuel generalizing st with
  | zero => rfl
  | succ fuel ih =>
    have hmoment : (st.retold r).nextMoment = st.nextMoment := rfl
    have htick : ∀ moment, (st.retold r).tick (s.hearing listener') moment =
        (st.tick (s.hearing listener) moment).retold r :=
      fun moment => resume_retold r s _ moment st
    cases hnext : st.nextMoment with
    | none =>
      simp only [driveFor, hmoment, hnext]
      rfl
    | some moment =>
      cases limit with
      | none => simp only [driveFor, hmoment, hnext, htick, ih]
      | some limit =>
        simp only [driveFor, hmoment, hnext, htick, ih]
        rw [apply_ite (Ending.retold · r)]
        exact if_congr Iff.rfl rfl rfl

theorem drive_retold (limit : Option Float) :
    drive (s.hearing listener') limit = (drive (s.hearing listener) limit).retold r := by
  rw [drive, drive, start_retold r s]
  exact driveFor_retold r s limit _ _

end RunState

namespace Run

variable {listener listener' : Option Listener} (r : Retelling listener listener') (s : Setup)

/-- A run as it is with another listener. -/
def retold (run : Run) (r : Retelling listener listener') : Run :=
  { run with execution := run.execution.map (·.retold r) }

theorem ofNodes_retold (limit : Option Float) :
    ofNodes (s.hearing listener') limit = (ofNodes (s.hearing listener) limit).retold r := by
  rw [ofNodes, RunState.drive_retold r]
  rfl

theorem ofScript_retold (source : String) (client : Client) (config : RunConfig) (input : String)
    (limit : Option Float) :
    ofScript source client config input listener' limit =
      (ofScript source client config input listener limit).retold r := by
  cases hload : Script.load source with
  | error refusal =>
    simp only [ofScript, hload]
    rfl
  | ok nodes =>
    by_cases hne : nodes = []
    · rw [ofScript_of_nil (hne ▸ hload), ofScript_of_nil (hne ▸ hload)]
      rfl
    cases hcheck : (Graph.mk nodes).checkModels client with
    | error f =>
      rw [ofScript_of_error hload hcheck hne, ofScript_of_error hload hcheck hne]
      rfl
    | ok =>
      rw [ofScript_eq_ofNodes hload hcheck hne, ofScript_eq_ofNodes hload hcheck hne]
      exact ofNodes_retold r { nodes, client, config, input, listener } limit

end Run

/-! ## 6. Courses -/

namespace Snapshot

variable {listener listener' : Option Listener} (r : Retelling listener listener') {s : Setup}
  {m m' : Snapshot} {past : List Snapshot}

/-- A snapshot as it is with another listener. -/
def retold (m : Snapshot) (r : Retelling listener listener') : Snapshot :=
  { m with execution := m.execution.retold r }

theorem opened_eq (s : Setup) (nodes : List Node) (x : Execution) : opened s nodes x =
    let p := RunState.startAll nodes (x.opening nodes)
    ⟨p.1, .round (nodes.filter (·.isStatic))
      (firstTasks (!s.config.sequential) (nodes.filter (·.isLlm))) p.2.toList⟩ := rfl

theorem opened_retold (nodes : List Node) (x : Execution) :
    opened (s.hearing listener') nodes (x.retold r) =
      (opened (s.hearing listener) nodes x).retold r := by
  have hopening : (x.retold r).opening nodes = (x.opening nodes).retold r := rfl
  rw [opened_eq, opened_eq, hopening, RunState.startAll_retold r]
  rfl

/-- **A step is one with another listener too.** -/
theorem Next.retold (h : Next (s.hearing listener) m m') :
    Next (s.hearing listener') (m.retold r) (m'.retold r) := by
  cases h with
  | @finishes x idle h =>
    have hnext : Next (s.hearing listener') ⟨x.retold r, .between idle⟩ _ := .finishes h
    rwa [Execution.moveWorkflow_retold] at hnext
  | @opens x idle h hrun =>
    have hnext : Next (s.hearing listener') ⟨x.retold r, .between idle⟩ _ := .opens h hrun
    rwa [opened_retold r] at hnext
  | stalls h hrun hidle => exact .stalls h hrun hidle
  | @deadlocks x idle h hrun hidle =>
    have hnext : Next (s.hearing listener') ⟨x.retold r, .between idle⟩ _ :=
      .deadlocks h hrun hidle
    rwa [Execution.moveWorkflow_retold] at hnext
  | @resolves x n rest tasks =>
    have hnext : Next (s.hearing listener') ⟨x.retold r, .round (n :: rest) tasks []⟩ _ :=
      .resolves
    rwa [Execution.resolveStatic_retold r] at hnext
  | @works x t tasks faults =>
    have hnext : Next (s.hearing listener') ⟨x.retold r, .round [] (t ::ₘ tasks) faults⟩ _ :=
      .works
    rwa [Execution.perform_retold r] at hnext
  | settles => exact .settles
  | @stops x statics tasks f faults =>
    have hnext : Next (s.hearing listener') ⟨x.retold r, .round statics tasks (f :: faults)⟩ _ :=
      .stops
    rwa [Execution.moveWorkflow_retold] at hnext

/-- **What is a step with another listener is one.** -/
theorem Next.exists_of_retold {n : Snapshot}
    (h : Next (s.hearing listener') (m.retold r) n) :
    ∃ m', Next (s.hearing listener) m m' ∧ m'.retold r = n := by
  obtain ⟨x, stage⟩ := m
  cases h with
  | finishes h =>
    exact ⟨_, .finishes h, congrArg (mk · _) (Execution.moveWorkflow_retold r x _).symm⟩
  | opens h hrun => exact ⟨_, .opens h hrun, (opened_retold r _ x).symm⟩
  | stalls h hrun hidle => exact ⟨_, .stalls h hrun hidle, rfl⟩
  | deadlocks h hrun hidle =>
    refine ⟨_, .deadlocks h hrun hidle, ?_⟩
    exact congrArg (mk · _) (Execution.moveWorkflow_retold r x _).symm
  | resolves =>
    refine ⟨_, .resolves, ?_⟩
    rw [Execution.resolveStatic_retold r]
    rfl
  | works =>
    refine ⟨_, .works, ?_⟩
    rw [Execution.perform_retold r]
    rfl
  | settles => exact ⟨_, .settles, rfl⟩
  | stops => exact ⟨_, .stops, congrArg (mk · _) (Execution.moveWorkflow_retold r x _).symm⟩

theorem initial_retold :
    (initial (s.hearing listener)).retold r = initial (s.hearing listener') :=
  congrArg (mk · _) (RunState.running_retold r s)

/-- **A course is one with another listener too.** -/
theorem Leads.retold {a : Snapshot} (h : Leads (s.hearing listener) a past m) :
    Leads (s.hearing listener') (a.retold r) (past.map (·.retold r)) (m.retold r) := by
  induction h with
  | refl => exact .refl
  | pass moment _ ih => exact .pass moment ih
  | next _ hn ih =>
    rw [List.map_append]
    exact .next ih (hn.retold r)

/-- **What is a course with another listener is one.** -/
theorem Leads.exists_of_retold {a n : Snapshot}
    (h : Leads (s.hearing listener') (a.retold r) past n) :
    ∃ past' m, Leads (s.hearing listener) a past' m ∧
      past'.map (·.retold r) = past ∧ m.retold r = n := by
  induction h with
  | refl => exact ⟨[], a, .refl, rfl, rfl⟩
  | pass moment _ ih =>
    obtain ⟨past', m, hm, rfl, rfl⟩ := ih
    exact ⟨past', m.atMoment moment, .pass moment hm, rfl, rfl⟩
  | next _ hn ih =>
    obtain ⟨past', m, hm, rfl, rfl⟩ := ih
    obtain ⟨m', hnext, rfl⟩ := hn.exists_of_retold r
    exact ⟨past' ++ [m], m', .next hm hnext, List.map_append, rfl⟩

end Snapshot

/-! ## 7. What a listener changes -/

/-- An execution apart from what was told. -/
def Execution.untold (x : Execution) : Execution := { x with progress := [] }

/-- A snapshot apart from what was told. -/
def Snapshot.untold (m : Snapshot) : Snapshot := { m with execution := m.execution.untold }

/-- Whether two runs end alike and hold the same apart from what was told. -/
structure Run.SameButTold (run run' : Run) : Prop where
  outcome : run.outcome = run'.outcome
  execution : run.execution.map (·.untold) = run'.execution.map (·.untold)

section Listeners

variable {listener listener' : Option Listener}

/-- Runs that are the same when nobody listens differ in what was told only. -/
theorem Run.SameButTold.of_retold (listener listener' : Option Listener) {run run' : Run}
    (h : run.retold (.silence listener) = run'.retold (.silence listener')) :
    run.SameButTold run' := by
  have houtcome := congrArg Run.outcome h
  have hexecution := congrArg Run.execution h
  exact ⟨houtcome, hexecution⟩

theorem Run.retold_same (run : Run) (h : listener.isSome = listener'.isSome) :
    run.retold (.same h) = run := by
  obtain ⟨outcome, execution⟩ := run
  cases execution <;> rfl

/-- **Whatever a course comes to, another listener's comes to.** -/
theorem Snapshot.Leads.exists_of_hearing {s : Setup} {past : List Snapshot} {m : Snapshot}
    (h : Leads (s.hearing listener) (initial (s.hearing listener)) past m) :
    ∃ past' m', Leads (s.hearing listener') (initial (s.hearing listener')) past' m' ∧
      past'.map (·.untold) = past.map (·.untold) ∧ m'.untold = m.untold := by
  have hsilent := h.retold (Retelling.silence listener)
  rw [initial_retold, ← initial_retold (Retelling.silence listener')] at hsilent
  exact hsilent.exists_of_retold

end Listeners

/-- **A listener only listens.** Take two listeners, or one and none.  A script that is run with the
one ends as it does with the other, and what is held then is the same apart from what was told; so
it is with nodes that are run against a client that may change.  And on whatever course, nothing but
what was told shows which of them there is.  When there is one in both cases, what was told is the
same as well. -/
theorem listener_only_listens :
    (∀ source client config input limit listener listener',
      let run := Run.ofScript source client config input listener limit
      let run' := Run.ofScript source client config input listener' limit
      run.SameButTold run' ∧ (listener.isSome = listener'.isSome → run = run')) ∧
    ∀ (s : Setup) (listener listener' : Option Listener),
      (∀ limit, let run := Run.ofNodes (s.hearing listener) limit
        let run' := Run.ofNodes (s.hearing listener') limit
        run.SameButTold run' ∧ (listener.isSome = listener'.isSome → run = run')) ∧
      ∀ {past m},
        Snapshot.Leads (s.hearing listener) (Snapshot.initial (s.hearing listener)) past m →
        (∃ past' m', Snapshot.Leads (s.hearing listener') (Snapshot.initial (s.hearing listener'))
            past' m' ∧ past'.map (·.untold) = past.map (·.untold) ∧ m'.untold = m.untold) ∧
        (listener.isSome = listener'.isSome → Snapshot.Leads (s.hearing listener')
          (Snapshot.initial (s.hearing listener')) past m) := by
  refine ⟨fun source client config input limit listener listener' => ⟨?_, fun h => ?_⟩,
    fun s listener listener' => ⟨fun limit => ⟨?_, fun h => ?_⟩,
      fun {past m} hl => ⟨hl.exists_of_hearing, fun h => ?_⟩⟩⟩
  · refine .of_retold listener listener' ?_
    rw [← Run.ofScript_retold, ← Run.ofScript_retold]
  · rw [Run.ofScript_retold (.same h), Run.retold_same]
  · refine .of_retold listener listener' ?_
    rw [← Run.ofNodes_retold, ← Run.ofNodes_retold]
  · rw [Run.ofNodes_retold (.same h), Run.retold_same]
  · have hsame := hl.retold (.same h)
    rw [Snapshot.initial_retold] at hsame
    have hpast : past.map (·.retold (.same h)) = past := List.map_id past
    rwa [hpast] at hsame

/-- A listener that fails every other time makes as little of a difference as one that never does,
and is told as much. -/
theorem listener_only_listens_relay :
    let fails : Listener := fun told _ => if told.length % 2 = 0 then .error "full" else .ok ()
    let hears : Listener := fun _ _ => .ok ()
    let run := fun listener => Run.ofScript Script.relayScript echoClient {} "rain" listener
    (run (some fails)).SameButTold (run none) ∧ run (some fails) = run (some hears) ∧
      ((run (some fails)).execution.map fun x => x.progress.map Event.node) =
        some ["model", "model", "note", "note", "draft", "draft"] ∧
      ∃ past m, Snapshot.Leads (relay.hearing (some fails))
          (Snapshot.initial (relay.hearing (some fails))) past m ∧
        Snapshot.Leads (relay.hearing (some hears))
          (Snapshot.initial (relay.hearing (some hears))) past m := by
  intro fails hears run
  obtain ⟨hscripts, hnodes⟩ := listener_only_listens
  have hscript := hscripts Script.relayScript echoClient {} "rain" none (some fails)
  obtain ⟨past, -, hl⟩ := RunState.comes_drive (relay.hearing (some fails)) none
  have hcourse := ((hnodes relay (some fails) (some hears)).2 hl).2 rfl
  exact ⟨(hscript none).1, (hscript (some hears)).2 rfl, by decide +kernel, past, _, hl, hcourse⟩

end PromptChain
