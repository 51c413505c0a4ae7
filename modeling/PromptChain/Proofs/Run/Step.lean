/-
# What a step does

A step of a running node does one of three things: the node falls asleep and nothing on the board
changes, the node is completed, or the node fails (`Worked`).  A move that is rejected is not
among them.

What comes of a node depends on the outputs of the nodes before it and on what the node meets at
the client, and on nothing else (`Setup.resultFor`).  A node that sleeps may carry a part of that
with it, a prompt or a request; when what it carries is right, so is what it takes from there
(`Carries`).  Hence it does not matter when a node does its steps.
-/
import PromptChain.Proofs.Run.Board
import PromptChain.Run.Flow

namespace PromptChain

/-! ## 1. What comes of a node -/

namespace Setup

/-- The request of a model node when some outputs are stored. -/
def requestFor (s : Setup) (o : Store String) (n : Node) (source : ModelSource) :
    Except NodeCause Request := do
  let model ← Context.modelOf ⟨o, s.input⟩ (s.meets n) source
  let prompt ← (Context.prompt ⟨o, s.input⟩ n).mapError NodeCause.template
  let messages ← ((s.meets n).messages n.flags prompt).mapError NodeCause.client
  return ⟨model, messages, n.flags⟩

/-- What comes of a node when some outputs are stored. -/
def resultFor (s : Setup) (o : Store String) (n : Node) : Except NodeCause String :=
  match n.kind with
  | .static => (Context.staticText ⟨o, s.input⟩ n).mapError NodeCause.template
  | .llm source => do
    let r ← s.requestFor o n source
    ((s.meets n).answer r).mapError NodeCause.client

end Setup

/-- How many times a node may still fall asleep, the step it is to do included. -/
def Step.left : Step → Nat
  | .begin _ => 4
  | .launch => 3
  | .send _ _ => 2
  | .answer _ _ => 1

/-- What a node carries to its next step is what some stored outputs give. -/
def Carries (s : Setup) (o : Store String) (n : Node) : Step → Prop
  | .begin _ => True
  | .launch => True
  | .send model prompt =>
    ∃ source, n.kind = .llm source ∧
      Context.modelOf ⟨o, s.input⟩ (s.meets n) source = .ok model ∧
      Context.prompt ⟨o, s.input⟩ n = .ok prompt
  | .answer _ r => ∃ source, n.kind = .llm source ∧ s.requestFor o n source = .ok r

/-- What a running node has done in a step, on a board.  `left` is how often it could fall asleep
before, and `sure` says that what it carried was right. -/
inductive Worked (s : Setup) (b : Board) (n : Node) (left : Nat) (sure : Prop) :
    Execution × Pace → Prop where
  | sleeps {y : Execution} {z : Sleeper} (hboard : y.board = b) (hnode : z.task.node = n)
      (hleft : z.task.step.left < left) (hcarries : sure → Carries s b.outputs n z.task.step) :
      Worked s b n left sure (y, .asleep z)
  | completes {y : Execution} {text : String} (hboard : y.board = b.set n.id (.completed text))
      (hresult : sure → s.resultFor b.outputs n = .ok text) :
      Worked s b n left sure (y, .settled)
  | fails {y : Execution} {cause : NodeCause}
      (hboard : y.board = b.set n.id (.failed cause.message))
      (hresult : sure → s.resultFor b.outputs n = .error cause) :
      Worked s b n left sure (y, .stops (.node { node := n.id, cause := some cause }))

/-- A model node has a source of its model. -/
theorem Node.exists_source {n : Node} (h : n.isLlm = true) : ∃ source, n.kind = .llm source := by
  cases hkind : n.kind with
  | static => simp [isLlm, isStatic, hkind] at h
  | llm source => exact ⟨source, rfl⟩

/-- It has no other. -/
theorem Node.source_eq {n : Node} {a b : ModelSource} (h : n.kind = .llm a)
    (h' : n.kind = .llm b) : a = b := by
  simpa using h.symm.trans h'

/-! ## 2. Completing and failing -/

namespace Execution

variable {x : Execution} {s : Setup} {n : Node} {b : Board} {left : Nat} {sure : Prop}

@[simp] theorem board_tell (x : Execution) (listener : Option Listener) (e : Event) :
    (x.tell listener e).board = x.board := by
  cases listener with
  | none => rfl
  | some hear =>
    simp only [tell]
    split <;> rfl

/-- A move to a standing that may follow the one shown is not rejected. -/
theorem move_of_shows {id : String} (st st' : Standing) (reason : Option String)
    (h : x.nodes.get? id = some st.lifecycle) (hnext : st'.phase ∈ st.phase.next)
    (hmoves : st'.moves = st.moves ++ [⟨st.phase, st'.phase, reason⟩]) :
    x.move id st'.phase reason = .ok { x with nodes := x.nodes.put id st'.lifecycle } := by
  have hmove : st.lifecycle.move st'.phase reason = .ok st'.lifecycle :=
    Lifecycle.move_eq_ok_iff.2 ⟨hnext, by rw [Standing.lifecycle, hmoves]; rfl⟩
  simp only [move, h, Option.getD_some, hmove]

/-- A pending node can be set running. -/
theorem start_of_pending {id : String} (h : x.board.Shows id .pending) :
    x.move id .running = .ok { x with nodes := x.nodes.put id Standing.running.lifecycle } :=
  move_of_shows .pending .running none h.1 (by decide) rfl

/-- A running node can be completed. -/
theorem complete_of_running {id : String} (h : x.board.Shows id .running) (s : Setup)
    (text : String) :
    (x.complete s id text).1.board = x.board.set id (.completed text) ∧
      (x.complete s id text).2 = none := by
  have hmove := move_of_shows (x := { x with outputs := x.outputs.put id text }) .running
    (.completed text) none h.1 (by simp [Standing.phase, Phase.next]) rfl
  rw [show (Standing.completed text).phase = .completed from rfl] at hmove
  simp only [complete, hmove, board_tell]
  exact ⟨rfl, trivial⟩

/-- A running node can fail. -/
theorem fail_of_running {id : String} (h : x.board.Shows id .running) (s : Setup)
    (cause : NodeCause) :
    (x.fail s id cause).1.board = x.board.set id (.failed cause.message) ∧
      (x.fail s id cause).2 = .node { node := id, cause := some cause } := by
  have hmove := move_of_shows .running (.failed cause.message) (some cause.message) h.1
    (by simp [Standing.phase, Phase.next]) rfl
  rw [show (Standing.failed cause.message).phase = .failed from rfl] at hmove
  simp only [fail, hmove, board_tell]
  exact ⟨rfl, trivial⟩

/-! ## 3. The steps of a model node -/

theorem failing_worked (h : x.board.Shows n.id .running) {cause : NodeCause}
    (hresult : sure → s.resultFor x.outputs n = .error cause) :
    Worked s x.board n left sure (x.failing s n.id cause) := by
  obtain ⟨hboard, hfault⟩ := fail_of_running h s cause
  simp only [failing, hfault]
  exact .fails hboard hresult

theorem answer_worked (h : x.board.Shows n.id .running) {source : ModelSource}
    (hkind : n.kind = .llm source) (index : Nat) {r : Request}
    (hr : sure → s.requestFor x.outputs n source = .ok r) :
    Worked s x.board n left sure (x.answer s n index r) := by
  have hresult : sure → s.resultFor x.outputs n =
      ((s.meets n).answer r).mapError NodeCause.client := by
    intro hsure
    simp only [Setup.resultFor, hkind, hr hsure]
    rfl
  unfold answer
  cases hans : (s.meets n).answer r with
  | error f => exact failing_worked h fun hsure => by rw [hresult hsure, hans]; rfl
  | ok text =>
    obtain ⟨hboard, hfault⟩ := complete_of_running (x := x.finishCall index) h s text
    rcases hc : (x.finishCall index).complete s n.id text with ⟨y, fault⟩
    rw [hc] at hboard hfault
    subst hfault
    simp only [hc]
    exact .completes hboard fun hsure => (hresult hsure).trans (by rw [hans]; rfl)

theorem call_worked (h : x.board.Shows n.id .running) {source : ModelSource}
    (hkind : n.kind = .llm source) (hleft : 1 < left) {r : Request}
    (hr : sure → s.requestFor x.outputs n source = .ok r) :
    Worked s x.board n left sure (x.call s n r) := by
  simp only [call]
  split
  · exact .sleeps rfl rfl hleft fun hsure => ⟨source, hkind, hr hsure⟩
  · exact answer_worked (x := { x with calls := x.calls ++ [(n.id, ⟨r, x.now, none⟩)] }) h hkind _ hr

theorem send_worked (h : x.board.Shows n.id .running) {source : ModelSource}
    (hkind : n.kind = .llm source) (hleft : 1 < left) {model prompt : String}
    (hmodel : sure → Context.modelOf ⟨x.outputs, s.input⟩ (s.meets n) source = .ok model)
    (hprompt : sure → Context.prompt ⟨x.outputs, s.input⟩ n = .ok prompt) :
    Worked s x.board n left sure (x.send s n model prompt) := by
  unfold send
  cases hms : (s.meets n).messages n.flags prompt with
  | error f =>
    refine failing_worked h fun hsure => ?_
    simp only [Setup.resultFor, hkind, Setup.requestFor, hmodel hsure, hprompt hsure]
    simp [Except.mapError, hms, bind, Except.bind]
  | ok messages =>
    refine call_worked h hkind hleft fun hsure => ?_
    simp only [Setup.requestFor, hmodel hsure, hprompt hsure]
    simp [Except.mapError, hms, bind, Except.bind, pure, Except.pure]

theorem converse_worked (h : x.board.Shows n.id .running) {source : ModelSource}
    (hkind : n.kind = .llm source) (hleft : 2 < left) {model prompt : String}
    (hmodel : sure → Context.modelOf ⟨x.outputs, s.input⟩ (s.meets n) source = .ok model)
    (hprompt : sure → Context.prompt ⟨x.outputs, s.input⟩ n = .ok prompt) :
    Worked s x.board n left sure (x.converse s n model prompt) := by
  simp only [converse]
  split
  · exact .sleeps rfl rfl hleft fun hsure => ⟨source, hkind, hmodel hsure, hprompt hsure⟩
  · exact send_worked h hkind (Nat.lt_of_succ_lt hleft) hmodel hprompt

theorem launchFor_worked (h : x.board.Shows n.id .running) {source : ModelSource}
    (hkind : n.kind = .llm source) (hleft : 2 < left) {model : String}
    (hmodel : sure → Context.modelOf ⟨x.outputs, s.input⟩ (s.meets n) source = .ok model) :
    Worked s x.board n left sure (x.launchFor s n model) := by
  have htell : (x.tell s.listener (.running n.id model)).board = x.board := board_tell _ _ _
  simp only [launchFor]
  generalize x.tell s.listener (.running n.id model) = y at htell ⊢
  rw [show x.outputs = y.outputs from congrArg Board.outputs htell.symm] at hmodel
  rw [← htell] at h ⊢
  have hcontext : y.context s = ⟨y.outputs, s.input⟩ := rfl
  rw [hcontext]
  cases hprompt : Context.prompt ⟨y.outputs, s.input⟩ n with
  | error e =>
    refine failing_worked h fun hsure => ?_
    simp only [Setup.resultFor, hkind, Setup.requestFor, hmodel hsure, hprompt]
    rfl
  | ok prompt => exact converse_worked h hkind hleft hmodel fun _ => hprompt

theorem launch_worked (h : x.board.Shows n.id .running) (hllm : n.isLlm = true)
    (hleft : 2 < left) : Worked s x.board n left sure (x.launch s n) := by
  obtain ⟨source, hkind⟩ := Node.exists_source hllm
  have hcontext : x.context s = ⟨x.outputs, s.input⟩ := rfl
  simp only [launch, hkind, hcontext]
  cases hmodel : Context.modelOf ⟨x.outputs, s.input⟩ (s.meets n) source with
  | error cause =>
    refine failing_worked h fun _ => ?_
    simp only [Setup.resultFor, hkind, Setup.requestFor, hmodel]
    rfl
  | ok model => exact launchFor_worked h hkind hleft fun _ => hmodel

theorem begin_worked (h : x.board.Shows n.id .running) (hllm : n.isLlm = true)
    (hleft : 3 < left) (heldBack : Bool) :
    Worked s x.board n left sure (x.begin s n heldBack) := by
  unfold begin
  split
  · exact .sleeps (board_tell _ _ _) rfl hleft fun _ => trivial
  · exact launch_worked h hllm (Nat.lt_of_succ_lt hleft)

/-- **A step of a running model node lets it sleep, completes it, or lets it fail**; and when what
the node carries to the step is right, so is what comes of it. -/
theorem perform_worked {t : Task} (h : x.board.Shows t.node.id .running)
    (hllm : t.node.isLlm = true) :
    Worked s x.board t.node t.step.left (Carries s x.outputs t.node t.step) (x.perform s t) := by
  obtain ⟨n, step⟩ := t
  obtain ⟨source, hkind⟩ := Node.exists_source hllm
  cases step with
  | begin heldBack => exact begin_worked h hllm (by simp [Step.left]) heldBack
  | launch => exact launch_worked h hllm (by simp [Step.left])
  | send model prompt =>
    refine send_worked h hkind (by simp [Step.left]) ?_ ?_
    -- what a node carries names a source of its model, which is its own
    · rintro ⟨source', hkind', hmodel, -⟩
      exact Node.source_eq hkind' hkind ▸ hmodel
    · rintro ⟨source', hkind', -, hprompt⟩
      exact hprompt
  | answer index r =>
    refine answer_worked h hkind index ?_
    rintro ⟨source', hkind', hr⟩
    exact Node.source_eq hkind' hkind ▸ hr

/-! ## 4. Resolving a static node -/

/-- What a running static node has done when it was resolved. -/
inductive Resolved (s : Setup) (b : Board) (n : Node) : Execution × Option RunFault → Prop where
  | completes {y : Execution} {text : String} (hboard : y.board = b.set n.id (.completed text))
      (hresult : s.resultFor b.outputs n = .ok text) : Resolved s b n (y, none)
  | fails {y : Execution} {cause : NodeCause}
      (hboard : y.board = b.set n.id (.failed cause.message))
      (hresult : s.resultFor b.outputs n = .error cause) :
      Resolved s b n (y, some (.node { node := n.id, cause := some cause }))

/-- **Resolving a running static node completes it or lets it fail.** -/
theorem resolveStatic_resolved (h : x.board.Shows n.id .running) (hstatic : n.isStatic = true) :
    Resolved s x.board n (x.resolveStatic s n) := by
  have hkind : n.kind = .static := by
    cases hkind : n.kind with
    | static => rfl
    | llm source => simp [Node.isStatic, hkind] at hstatic
  have htell : (x.tell s.listener (.resolving n.id)).board = x.board := board_tell _ _ _
  simp only [resolveStatic]
  generalize x.tell s.listener (.resolving n.id) = y at htell ⊢
  rw [← htell] at h ⊢
  have hcontext : y.context s = ⟨y.outputs, s.input⟩ := rfl
  rw [hcontext]
  cases htext : Context.staticText ⟨y.outputs, s.input⟩ n with
  | error e =>
    obtain ⟨hboard, hfault⟩ := fail_of_running h s (.template e)
    simp only [hfault]
    refine .fails hboard ?_
    simp only [Setup.resultFor, hkind]
    exact congrArg (Except.mapError NodeCause.template) htext
  | ok text =>
    obtain ⟨hboard, hfault⟩ := complete_of_running h s text
    rcases hc : y.complete s n.id text with ⟨w, fault⟩
    rw [hc] at hboard hfault
    subst hfault
    simp only [hc]
    refine .completes hboard ?_
    simp only [Setup.resultFor, hkind]
    exact congrArg (Except.mapError NodeCause.template) htext

end Execution

/-! ## 5. Setting nodes running -/

namespace Board

/-- A board on which some nodes have been set running. -/
def start (b : Board) (nodes : List Node) : Board :=
  nodes.foldl (fun b n => b.set n.id .running) b

variable {b : Board} {nodes more : List Node} {id : String} {st : Standing}

theorem outputs_start (b : Board) (nodes : List Node) : (b.start nodes).outputs = b.outputs := by
  induction nodes generalizing b with
  | nil => rfl
  | cons n rest ih => exact ih (b.set n.id .running)

theorem rounds_start (b : Board) (nodes : List Node) : (b.start nodes).rounds = b.rounds := by
  induction nodes generalizing b with
  | nil => rfl
  | cons n rest ih => exact ih (b.set n.id .running)

theorem workflow_start (b : Board) (nodes : List Node) :
    (b.start nodes).workflow = b.workflow := by
  induction nodes generalizing b with
  | nil => rfl
  | cons n rest ih => exact ih (b.set n.id .running)

/-- The other nodes show what they showed. -/
theorem shows_start_of_not_mem (h : id ∉ nodes.map (·.id)) :
    (b.start nodes).Shows id st ↔ b.Shows id st := by
  induction nodes generalizing b with
  | nil => rfl
  | cons n rest ih =>
    simp only [List.map_cons, List.mem_cons, not_or] at h
    exact (ih h.2).trans (shows_set_ne h.1)

/-- The nodes show that they run. -/
theorem shows_start_of_mem (h : ∀ n ∈ nodes, b.outputs.get? n.id = none)
    (hid : id ∈ nodes.map (·.id)) : (b.start nodes).Shows id .running := by
  induction nodes generalizing b with
  | nil => exact absurd hid List.not_mem_nil
  | cons n rest ih =>
    by_cases hrest : id ∈ rest.map (·.id)
    · exact ih (fun k hk => h k (List.mem_cons_of_mem n hk)) hrest
    · obtain rfl : id = n.id := (List.mem_cons.1 hid).resolve_right hrest
      exact (shows_start_of_not_mem hrest).2 (shows_set_self (h n List.mem_cons_self))

theorem Tidy.start (h : b.Tidy more) (hsub : ∀ n ∈ nodes, n ∈ more)
    (hout : ∀ n ∈ nodes, b.outputs.get? n.id = none) : (b.start nodes).Tidy more := by
  induction nodes generalizing b with
  | nil => exact h
  | cons n rest ih =>
    have hn := h.set (hsub n List.mem_cons_self) (hout n List.mem_cons_self) .running
    exact ih hn (fun m hm => hsub m (List.mem_cons_of_mem n hm))
      fun m hm => hout m (List.mem_cons_of_mem n hm)

end Board

section Started

variable {x : Execution} {b : Board} {nodes : List Node}

theorem Execution.rounds_of_start (h : x.board = b.start nodes) : x.rounds = b.rounds :=
  (congrArg Board.rounds h).trans (Board.rounds_start b nodes)

theorem Execution.outputs_of_start (h : x.board = b.start nodes) : x.outputs = b.outputs :=
  (congrArg Board.outputs h).trans (Board.outputs_start b nodes)

theorem Execution.workflow_of_start (h : x.board = b.start nodes) : x.workflow = b.workflow :=
  (congrArg Board.workflow h).trans (Board.workflow_start b nodes)

end Started

namespace RunState

/-- **Pending nodes with distinct ids are all set running**, and nothing else changes. -/
theorem startAll_of_pending {nodes : List Node} {x : Execution}
    (hdistinct : (nodes.map (·.id)).Nodup) (h : ∀ n ∈ nodes, x.board.Shows n.id .pending) :
    (startAll nodes x).2 = none ∧ (startAll nodes x).1.board = x.board.start nodes := by
  induction nodes generalizing x with
  | nil => exact ⟨rfl, rfl⟩
  | cons n rest ih =>
    obtain ⟨hn, hrest⟩ := List.nodup_cons.1 hdistinct
    simp only [startAll, Execution.start_of_pending (h n List.mem_cons_self)]
    refine ih hrest fun m hm => ?_
    have hne : m.id ≠ n.id := by
      intro heq
      exact hn (List.mem_map.2 ⟨m, hm, heq⟩)
    exact (Board.shows_set_ne hne).2 (h m (List.mem_cons_of_mem n hm))

end RunState
end PromptChain
