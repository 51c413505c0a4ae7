/-
# What a step tells

A model node tells that it waits, if it is held back and there is a delay, then which model it
calls, if that can be found, and at its end that it is completed or has failed.  The first of these
it tells when it begins, the second when it launches, and the last when it has come to its end; so
the next step of a node tells what it has told so far (`Step.told`).

A step adds to what the listener was told, and only about its own node.  When the node had told
what the step supposes, it has told what its pace says afterwards (`Execution.perform_tells`).
-/
import PromptChain.Proofs.Run.Step

namespace PromptChain

/-! ## 1. What a node has told -/

namespace Setup

/-- What a model node tells when it begins: that it waits, if it is held back and there is a
delay. -/
def delaying (s : Setup) (n : Node) (heldBack : Bool) : List Event :=
  if heldBack && decide (0 < s.config.delay) then [.waiting s.config.delay n.id] else []

/-- What a model node tells when it launches: its model, if that can be found. -/
def launching (s : Setup) (o : Store String) (n : Node) : List Event :=
  match n.kind with
  | .static => []
  | .llm source =>
    match Context.modelOf ⟨o, s.input⟩ (s.meets n) source with
    | .ok model => [.running n.id model]
    | .error _ => []

end Setup

/-- What a model node has told before a step, from what it tells when it begins and when it
launches. -/
def Step.told (beginning launch : List Event) : Step → List Event
  | .begin _ => []
  | .launch => beginning
  | .send _ _ => beginning ++ launch
  | .answer _ _ => beginning ++ launch

/-- What is told of a fault. -/
def RunFault.told : RunFault → List Event
  | .node ⟨id, some cause, _⟩ => [.failed id cause.message]
  | _ => []

/-- What a model node has told when it has done a step. -/
def Pace.told (id : String) (beginning launch : List Event) : Pace → List Event
  | .asleep z => z.task.step.told beginning launch
  | .settled => beginning ++ launch ++ [.completed id]
  | .stops f => beginning ++ launch ++ f.told

/-- Whether a step of a node that had told some events has added to the progress, about this node
only, what its pace says. -/
def Tells (x : Execution) (id : String) (beginning launch before : List Event)
    (p : Execution × Pace) : Prop :=
  ∃ new, p.1.progress = x.progress ++ new ∧ (∀ e ∈ new, e.node = id) ∧
    before ++ new = p.2.told id beginning launch

/-! ## 2. Single changes -/

namespace Execution

variable {x y : Execution} {s : Setup} {n : Node} {beginning launch before : List Event}

/-- A listener is told an event whatever it answers. -/
theorem progress_tell {listener : Option Listener} (h : listener.isSome = true) (e : Event) :
    (x.tell listener e).progress = x.progress ++ [e] := by
  obtain ⟨hear, rfl⟩ := Option.isSome_iff_exists.1 h
  simp only [tell]
  split <;> rfl

theorem progress_complete (hheard : s.listener.isSome = true) (h : x.board.Shows n.id .running)
    (text : String) :
    (x.complete s n.id text).1.progress = x.progress ++ [.completed n.id] := by
  have hmove := move_of_shows (x := { x with outputs := x.outputs.put n.id text }) .running
    (.completed text) none h.1 (by simp [Standing.phase, Phase.next]) rfl
  rw [show (Standing.completed text).phase = .completed from rfl] at hmove
  simp only [complete, hmove, progress_tell hheard]

theorem progress_fail (hheard : s.listener.isSome = true) (h : x.board.Shows n.id .running)
    (cause : NodeCause) :
    (x.fail s n.id cause).1.progress = x.progress ++ [.failed n.id cause.message] := by
  have hmove := move_of_shows .running (.failed cause.message) (some cause.message) h.1
    (by simp [Standing.phase, Phase.next]) rfl
  rw [show (Standing.failed cause.message).phase = .failed from rfl] at hmove
  simp only [fail, hmove, progress_tell hheard]

theorem progress_moveWorkflow (x : Execution) (p : Phase) :
    (x.moveWorkflow p).progress = x.progress := by
  unfold moveWorkflow
  split <;> rfl

theorem progress_startAll (nodes : List Node) (x : Execution) :
    (RunState.startAll nodes x).1.progress = x.progress := by
  induction nodes generalizing x with
  | nil => rfl
  | cons n rest ih =>
    unfold RunState.startAll
    split
    · rfl
    · rename_i y hmove
      rw [ih]
      unfold move at hmove
      split at hmove
      · cases hmove
        rfl
      · cases hmove

/-! ## 3. The steps of a model node -/

/-- What was told before belongs to what has been told. -/
theorem Tells.after {p : Execution × Pace} {new : List Event}
    (hprogress : y.progress = x.progress ++ new) (hnode : ∀ e ∈ new, e.node = n.id)
    (h : Tells y n.id beginning launch (before ++ new) p) :
    Tells x n.id beginning launch before p := by
  obtain ⟨more, hmore, hother, htold⟩ := h
  refine ⟨new ++ more, ?_, ?_, ?_⟩
  · rw [hmore, hprogress, List.append_assoc]
  · intro e he
    rcases List.mem_append.1 he with he | he
    · exact hnode e he
    · exact hother e he
  · rw [← htold, List.append_assoc]

variable (hheard : s.listener.isSome = true) (hrun : x.board.Shows n.id .running)

include hheard hrun

theorem failing_tells (cause : NodeCause) :
    Tells x n.id beginning launch (beginning ++ launch) (x.failing s n.id cause) := by
  obtain ⟨-, hfault⟩ := fail_of_running hrun s cause
  refine ⟨[.failed n.id cause.message], progress_fail hheard hrun cause, by simp [Event.node], ?_⟩
  simp only [failing, hfault, Pace.told, RunFault.told]

theorem answer_tells (index : Nat) (r : Request) :
    Tells x n.id beginning launch (beginning ++ launch) (x.answer s n index r) := by
  unfold answer
  cases (s.meets n).answer r with
  | error f => exact failing_tells hheard hrun _
  | ok text =>
    have hprogress := progress_complete (x := x.finishCall index) hheard hrun text
    obtain ⟨-, hfault⟩ := complete_of_running (x := x.finishCall index) hrun s text
    rcases hc : (x.finishCall index).complete s n.id text with ⟨y, fault⟩
    rw [hc] at hprogress hfault
    subst hfault
    simp only [hc]
    exact ⟨[.completed n.id], hprogress, by simp [Event.node], rfl⟩

theorem call_tells (r : Request) :
    Tells x n.id beginning launch (beginning ++ launch) (x.call s n r) := by
  simp only [call]
  split
  · exact ⟨[], (List.append_nil _).symm, by simp, List.append_nil _⟩
  · exact answer_tells (x := { x with calls := x.calls ++ [(n.id, ⟨r, x.now, none⟩)] }) hheard
      hrun _ r

theorem send_tells (model prompt : String) :
    Tells x n.id beginning launch (beginning ++ launch) (x.send s n model prompt) := by
  unfold send
  cases (s.meets n).messages n.flags prompt with
  | error f => exact failing_tells hheard hrun _
  | ok messages => exact call_tells hheard hrun _

theorem converse_tells (model prompt : String) :
    Tells x n.id beginning launch (beginning ++ launch) (x.converse s n model prompt) := by
  simp only [converse]
  split
  · exact ⟨[], (List.append_nil _).symm, by simp, List.append_nil _⟩
  · exact send_tells hheard hrun model prompt

theorem launchFor_tells (model : String) :
    Tells x n.id beginning [.running n.id model] beginning (x.launchFor s n model) := by
  have hboard : (x.tell s.listener (.running n.id model)).board = x.board := board_tell _ _ _
  refine Tells.after (progress_tell hheard (.running n.id model)) (by simp [Event.node]) ?_
  simp only [launchFor]
  generalize x.tell s.listener (.running n.id model) = y at hboard ⊢
  rw [← hboard] at hrun
  cases (y.context s).prompt n with
  | error e => exact failing_tells hheard hrun _
  | ok prompt => exact converse_tells hheard hrun model prompt

theorem launch_tells (hllm : n.isLlm = true) :
    Tells x n.id beginning (s.launching x.outputs n) beginning (x.launch s n) := by
  obtain ⟨source, hkind⟩ := Node.exists_source hllm
  have hcontext : x.context s = ⟨x.outputs, s.input⟩ := rfl
  simp only [launch, Setup.launching, hkind, hcontext]
  cases Context.modelOf ⟨x.outputs, s.input⟩ (s.meets n) source with
  | ok model => exact launchFor_tells hheard hrun model
  | error cause =>
    -- without a model the node has told nothing more when it fails
    have htells : Tells x n.id beginning [] (beginning ++ []) (x.failing s n.id cause) :=
      failing_tells hheard hrun cause
    rwa [List.append_nil] at htells

theorem begin_tells (hllm : n.isLlm = true) (heldBack : Bool) :
    Tells x n.id (s.delaying n heldBack) (s.launching x.outputs n) [] (x.begin s n heldBack) := by
  simp only [begin, Setup.delaying]
  split
  · exact ⟨[.waiting s.config.delay n.id], progress_tell hheard _, by simp [Event.node], rfl⟩
  · exact launch_tells hheard hrun hllm

omit hrun

/-- **What a step of a running model node tells** is what its pace says, when what the node had
told is what the step supposes. -/
theorem perform_tells {t : Task} (hrun : x.board.Shows t.node.id .running)
    (hllm : t.node.isLlm = true)
    (hheldBack : ∀ heldBack, t.step = .begin heldBack → beginning = s.delaying t.node heldBack) :
    Tells x t.node.id beginning (s.launching x.outputs t.node)
      (t.step.told beginning (s.launching x.outputs t.node)) (x.perform s t) := by
  obtain ⟨n, step⟩ := t
  cases step with
  | begin heldBack =>
    rw [hheldBack heldBack rfl]
    exact begin_tells hheard hrun hllm heldBack
  | launch => exact launch_tells hheard hrun hllm
  | send model prompt => exact send_tells hheard hrun model prompt
  | answer index r => exact answer_tells hheard hrun index r

/-- A node that has begun told whether it waits, and one that begins tells it. -/
theorem exists_tells {t : Task} (hrun : x.board.Shows t.node.id .running)
    (hllm : t.node.isLlm = true) :
    ∃ held, (∀ heldBack, t.step = .begin heldBack → held = heldBack) ∧
      Tells x t.node.id (s.delaying t.node held) (s.launching x.outputs t.node)
        (t.step.told (s.delaying t.node held) (s.launching x.outputs t.node)) (x.perform s t) := by
  obtain ⟨held, hheld⟩ : ∃ held, ∀ heldBack, t.step = .begin heldBack → held = heldBack := by
    cases hstep : t.step with
    | begin held => exact ⟨held, fun heldBack heq => by cases heq; rfl⟩
    | _ => exact ⟨false, fun heldBack heq => by cases heq⟩
  have hbeginning : ∀ heldBack, t.step = .begin heldBack →
      s.delaying t.node held = s.delaying t.node heldBack := by
    intro heldBack heq
    rw [hheld heldBack heq]
  exact ⟨held, hheld, perform_tells hheard hrun hllm hbeginning⟩

end Execution

/-! ## 4. Resolving a static node -/

/-- What is told of a static node: that it is resolved and, right after, that it is completed. -/
def resolution (n : Node) : List Event := [.resolving n.id, .completed n.id]

/-- **A static node that is completed tells its resolution.** -/
theorem Execution.progress_resolveStatic {x : Execution} {s : Setup} {n : Node}
    (hheard : s.listener.isSome = true) (hrun : x.board.Shows n.id .running)
    (h : (x.resolveStatic s n).2 = none) :
    (x.resolveStatic s n).1.progress = x.progress ++ resolution n := by
  have hboard : (x.tell s.listener (.resolving n.id)).board = x.board := board_tell _ _ _
  have hresolving := progress_tell (x := x) hheard (.resolving n.id)
  simp only [resolveStatic] at h ⊢
  generalize x.tell s.listener (.resolving n.id) = y at hboard hresolving h ⊢
  rw [← hboard] at hrun
  cases htext : (y.context s).staticText n with
  | error e =>
    rw [htext] at h
    cases h
  | ok text =>
    rw [progress_complete hheard hrun text, hresolving, List.append_assoc]
    rfl

end PromptChain
