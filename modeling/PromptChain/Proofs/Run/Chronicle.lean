/-
# A run is told round by round

What the listener of a run is told is one block for every round, one after the other (`InRounds`).
A block begins with the static nodes of its round, each of which is resolved and completed before
anything else is told; all that follows is about the model nodes of the round.  What is told of one
model node, taken by itself, is its story (`Story`): whether it waits, which model it calls, and how
it ended, as far as it has come.

Two invariants carry this.  The order is that of the steps: a step adds to the block of the round
that is underway, and to no other (`Paced`).  And a step adds to the story of one node only, as far
as its next step supposes (`Heard`); which nodes wait, which tell a model, and what they read is
settled when their round begins.  A static node of a script never fails, so its resolution is never
cut short.
-/
import PromptChain.Proofs.Run.Failures
import PromptChain.Proofs.Run.Rounds
import PromptChain.Proofs.Run.Telling
import Mathlib.Data.List.Forall2

namespace PromptChain

open PromptChain.Graph Snapshot

/-! ## 1. Blocks and stories -/

/-- The nodes that were begun in a round, in the order of the script. -/
def Setup.begun (s : Setup) (round : List String) : List Node :=
  s.nodes.filter fun n => decide (n.id ∈ round)

/-- Whether a model node of a round is held back: every one is, but in a sequential run the
first. -/
def Setup.heldBack (s : Setup) (round : List Node) (n : Node) : Bool :=
  !s.config.sequential || decide (round.find? (·.isLlm) ≠ some n)

/-- What a model node of a round tells up to its end. -/
def Setup.opening (s : Setup) (o : Store String) (round : List Node) (n : Node) : List Event :=
  s.delaying n (s.heldBack round n) ++ s.launching o n

/-- What is told of a node, among other things. -/
def eventsOf (id : String) (events : List Event) : List Event :=
  events.filter fun e => e.node == id

/-- Whether some events are what a model node has told where it stands, from what it tells up to
its end. -/
inductive Story (id : String) (opening : List Event) : Standing → List Event → Prop where
  | running {told : List Event} (h : told <+: opening) : Story id opening .running told
  | completed (output : String) : Story id opening (.completed output) (opening ++ [.completed id])
  | failed (reason : String) : Story id opening (.failed reason) (opening ++ [.failed id reason])

/-- Whether some events are those of a round: its static nodes come first, and each model node has
told its story. -/
structure Block (s : Setup) (x : Execution) (round : List Node) (block : List Event) : Prop where
  statics : ∃ rest, block = (round.filter (·.isStatic)).flatMap resolution ++ rest ∧
    ∀ e ∈ rest, ∃ n ∈ round, n.isLlm = true ∧ n.id = e.node
  resolved : ∀ n ∈ round, n.isStatic = true → x.phase? n.id = some .completed
  stories : ∀ n ∈ round, n.isLlm = true → ∃ st, x.board.Shows n.id st ∧
    Story n.id (s.opening x.outputs round n) st (eventsOf n.id block)

/-- Whether the progress of a run is one block for every round. -/
def InRounds (s : Setup) (x : Execution) : Prop :=
  ∃ blocks : List (List Event), x.progress = blocks.flatten ∧
    List.Forall₂ (fun round block => Block s x (s.begun round) block) x.rounds blocks

/-- The static nodes that are still to be resolved where a run stands.  They are resolved without a
pause, so a run that is suspended has none. -/
def Stage.statics : Stage → List Node
  | round statics _ _ => statics
  | _ => []

/-- A run that is suspended has none left. -/
theorem RunState.statics_snapshot (st : RunState) : st.snapshot.stage.statics = [] := by
  obtain ⟨x, idle, waiting⟩ := st
  cases waiting <;> rfl

/-! ## 2. The order of events -/

/-- Whether some events are those of a round of which some static nodes are left. -/
def OfRound (round left : List Node) (block : List Event) : Prop :=
  ∃ done rest, done ++ left = round.filter (·.isStatic) ∧
    block = done.flatMap resolution ++ rest ∧ (left ≠ [] → rest = []) ∧
    ∀ e ∈ rest, ∃ n ∈ round, n.isLlm = true ∧ n.id = e.node

/-- Whether some events are those of a number of rounds, and some static nodes are left of the
last. -/
inductive Paced (s : Setup) : Nat → List Node → List Event → Prop where
  | start : Paced s 0 [] []
  | round {k : Nat} {left : List Node} {events block : List Event} (h : Paced s k [] events)
      (hblock : OfRound (s.graph.wave k) left block) : Paced s (k + 1) left (events ++ block)

section Order

variable {s : Setup} {k : Nat} {left : List Node} {events new : List Event} {n : Node}

theorem Paced.opens (h : Paced s k [] events) :
    Paced s (k + 1) ((s.graph.wave k).filter (·.isStatic)) events := by
  have hround : Paced s (k + 1) ((s.graph.wave k).filter (·.isStatic)) (events ++ []) :=
    h.round ⟨[], [], rfl, rfl, fun _ => rfl, fun e he => absurd he List.not_mem_nil⟩
  rwa [List.append_nil] at hround

theorem Paced.resolves (h : Paced s k (n :: left) events) :
    Paced s k left (events ++ resolution n) := by
  cases h with
  | round h hblock =>
    obtain ⟨done, rest, hdone, rfl, hnil, -⟩ := hblock
    obtain rfl := hnil (List.cons_ne_nil _ _)
    rw [List.append_assoc]
    refine h.round ⟨done ++ [n], [], ?_, ?_, fun _ => rfl, fun e he => absurd he List.not_mem_nil⟩
    · rw [List.append_assoc]
      exact hdone
    · simp

theorem Paced.works (h : Paced s (k + 1) [] events) (hn : n ∈ s.graph.wave k)
    (hllm : n.isLlm = true) (hnew : ∀ e ∈ new, e.node = n.id) :
    Paced s (k + 1) [] (events ++ new) := by
  cases h with
  | round h hblock =>
    obtain ⟨done, rest, hdone, rfl, -, hrest⟩ := hblock
    rw [List.append_assoc, List.append_assoc]
    refine h.round ⟨done, rest ++ new, hdone, rfl, fun hne => absurd rfl hne, fun e he => ?_⟩
    rcases List.mem_append.1 he with he | he
    · exact hrest e he
    · exact ⟨n, hn, hllm, (hnew e he).symm⟩

theorem OfRound.exists_node {round : List Node} {block : List Event}
    (h : OfRound round left block) {e : Event} (he : e ∈ block) : ∃ n ∈ round, n.id = e.node := by
  obtain ⟨done, rest, hdone, rfl, -, hrest⟩ := h
  rcases List.mem_append.1 he with he | he
  · obtain ⟨n, hn, he⟩ := List.mem_flatMap.1 he
    have hmem : n ∈ round.filter (·.isStatic) := hdone ▸ List.mem_append_left left hn
    refine ⟨n, (List.mem_filter.1 hmem).1, ?_⟩
    simp only [resolution, List.mem_cons, List.not_mem_nil, or_false] at he
    rcases he with rfl | rfl <;> rfl
  · obtain ⟨n, hn, -, hid⟩ := hrest e he
    exact ⟨n, hn, hid⟩

/-- What is told is about nodes whose round has begun. -/
theorem Paced.mem_settled (h : Paced s k left events) {e : Event} (he : e ∈ events) :
    e.node ∈ s.graph.settled k := by
  induction h with
  | start => exact absurd he List.not_mem_nil
  | round h hblock ih =>
    rcases List.mem_append.1 he with he | he
    · exact mem_settled_succ.2 (Or.inl (ih he))
    · exact mem_settled_succ.2 (Or.inr (hblock.exists_node he))

/-- Nothing is told of a node before its round. -/
theorem Paced.eventsOf_eq_nil (h : Paced s k left events) {id : String}
    (hid : id ∉ s.graph.settled k) : eventsOf id events = [] := by
  refine List.filter_eq_nil_iff.2 fun e he hnode => hid ?_
  rw [← beq_iff_eq.1 hnode]
  exact h.mem_settled he

theorem eventsOf_append (id : String) (events new : List Event) :
    eventsOf id (events ++ new) = eventsOf id events ++ eventsOf id new :=
  List.filter_append ..

/-- **What is told in order is one block for every round**, and each holds all that is told of the
nodes of its round. -/
theorem Paced.blocks (h : Paced s k [] events) :
    ∃ blocks : List (List Event), events = blocks.flatten ∧
      List.Forall₂ (fun j block => j < k ∧ OfRound (s.graph.wave j) [] block ∧
        ∀ n ∈ s.graph.wave j, eventsOf n.id block = eventsOf n.id events)
        (List.range k) blocks := by
  generalize hleft : [] = left at h
  induction h with
  | start => exact ⟨[], rfl, .nil⟩
  | @round k left events block h hblock ih =>
    subst hleft
    obtain ⟨blocks, rfl, hblocks⟩ := ih rfl
    refine ⟨blocks ++ [block], by simp, ?_⟩
    rw [List.range_succ]
    refine List.rel_append (hblocks.imp fun j b hj => ?_)
      (.cons ⟨Nat.lt_succ_self k, hblock, ?_⟩ .nil)
    · obtain ⟨hlt, hb, hevents⟩ := hj
      refine ⟨Nat.lt_succ_of_lt hlt, hb, fun n hn => ?_⟩
      -- the last round is not that of an earlier node
      have hnil : eventsOf n.id block = [] := by
        refine List.filter_eq_nil_iff.2 fun e he hnode => ?_
        obtain ⟨m, hm, hid⟩ := hblock.exists_node he
        refine (mem_wave.1 hm).2.1 ?_
        rw [hid, beq_iff_eq.1 hnode]
        exact settled_mono hlt (mem_settled_succ.2 (Or.inr ⟨n, hn, rfl⟩))
      rw [hevents n hn, eventsOf_append, hnil, List.append_nil]
    · intro n hn
      rw [eventsOf_append, h.eventsOf_eq_nil (mem_wave.1 hn).2.1, List.nil_append]

end Order

/-! ## 3. The stories of nodes -/

/-- What a run has told of its nodes. -/
structure Heard (s : Setup) (m : Snapshot) : Prop where
  /-- A static node whose round has begun is completed, or its turn is still to come. -/
  resolved : ∀ k < m.execution.rounds.length, ∀ n ∈ s.graph.wave k, n.isStatic = true →
    n ∈ m.stage.statics ∨ ∃ output, m.execution.board.Shows n.id (.completed output)
  /-- A model node whose round has begun has told its story. -/
  stories : ∀ k < m.execution.rounds.length, ∀ n ∈ s.graph.wave k, n.isLlm = true →
    ∃ st, m.execution.board.Shows n.id st ∧
      Story n.id (s.opening m.execution.outputs (s.graph.wave k) n) st
        (eventsOf n.id m.execution.progress)
  /-- A model node that has a step to do has told what the step supposes. -/
  steps : ∀ k, m.execution.rounds.length = k + 1 → ∀ n step, (n, some step) ∈ m.stage.todo →
    eventsOf n.id m.execution.progress =
        step.told (s.delaying n (s.heldBack (s.graph.wave k) n))
          (s.launching m.execution.outputs n) ∧
      ∀ heldBack, step = .begin heldBack → heldBack = s.heldBack (s.graph.wave k) n

section Stories

variable {s : Setup} {m m' : Snapshot} {x y : Execution} {stage stage' : Stage} {n : Node}

theorem heard_initial (s : Setup) : Heard s (Snapshot.initial s) where
  resolved k hk := absurd hk (Nat.not_lt_zero k)
  stories k hk := absurd hk (Nat.not_lt_zero k)
  steps _ hk := by cases hk

/-- What a model node tells when it launches depends on what it reads. -/
theorem Setup.launching_congr {o p : Store String} (hvar : n.modelVariable? ≠ some "")
    (h : ∀ d ∈ n.dependencies, o.get? d = p.get? d) : s.launching o n = s.launching p n := by
  unfold launching
  split
  · rfl
  · rename_i source hkind
    rw [Setup.modelOf_congr (Alike.refl s) hvar h hkind]

/-- A node whose round has begun tells the same model ever after. -/
theorem Sound.launching_kept (hs : Distinct s.nodes)
    (hvar : ∀ n ∈ s.nodes, n.modelVariable? ≠ some "") (h : Sound s m) (hn : Next s m m') {k : Nat}
    (hk : k < m.execution.rounds.length) (hwave : n ∈ s.graph.wave k) :
    s.launching m'.execution.outputs n = s.launching m.execution.outputs n := by
  have hmem := (mem_wave.1 hwave).1
  have hleft : m.execution.phase? n.id ≠ some .pending := by
    rw [ne_eq, h.pending_iff hmem, not_not]
    exact settled_mono hk (mem_settled_succ.2 (Or.inr ⟨n, hwave, rfl⟩))
  refine Setup.launching_congr (hvar n hmem) fun d hd => ?_
  obtain ⟨output, hget, hget'⟩ := h.reads_kept hs (.single hn) hmem hleft d hd
  rw [hget, hget']

theorem Step.left_le_begin (step : Step) (heldBack : Bool) :
    step.left ≤ (Step.begin heldBack).left := by
  cases step <;> simp [left]

theorem Step.told_prefix (beginning launch : List Event) (step : Step) :
    step.told beginning launch <+: beginning ++ launch := by
  cases step with
  | begin heldBack => exact List.nil_prefix
  | launch => exact List.prefix_append _ _
  | send model prompt => exact List.prefix_refl _
  | answer index r => exact List.prefix_refl _

/-- Nobody has told anything, and no node has changed. -/
structure Untold (x y : Execution) : Prop where
  progress : y.progress = x.progress
  rounds : y.rounds = x.rounds
  outputs : y.outputs = x.outputs
  shows : ∀ id st, y.board.Shows id st ↔ x.board.Shows id st

theorem Untold.refl (x : Execution) : Untold x x := ⟨rfl, rfl, rfl, fun _ _ => Iff.rfl⟩

theorem Untold.moveWorkflow (x : Execution) (p : Phase) : Untold x (x.moveWorkflow p) := by
  refine ⟨x.progress_moveWorkflow p, x.rounds_moveWorkflow p, x.outputs_moveWorkflow p,
    fun id st => ?_⟩
  rw [Execution.board_moveWorkflow]
  exact Iff.rfl

/-- When nobody has told anything, and nobody has anything to do any more, the stories are what
they were. -/
theorem Heard.idle (h : Heard s ⟨x, stage⟩) (hsame : Untold x y) (hstatics : stage.statics = [])
    (htodo : stage'.todo = 0) : Heard s ⟨y, stage'⟩ := by
  obtain ⟨hprogress, hrounds, houtputs, hshows⟩ := hsame
  refine ⟨fun k hk n hn hstatic => ?_, fun k hk n hn hllm => ?_, fun k hk n step hmem => ?_⟩
  · rcases h.resolved k (hrounds ▸ hk) n hn hstatic with hleft | ⟨output, hshow⟩
    · rw [hstatics] at hleft
      exact absurd hleft List.not_mem_nil
    · exact Or.inr ⟨output, (hshows _ _).2 hshow⟩
  · obtain ⟨st, hshow, hstory⟩ := h.stories k (hrounds ▸ hk) n hn hllm
    refine ⟨st, (hshows _ _).2 hshow, ?_⟩
    simpa only [houtputs, hprogress] using hstory
  · rw [htodo] at hmem
    exact absurd hmem (Multiset.notMem_zero _)

theorem eventsOf_append_self {id : String} {events new : List Event}
    (h : ∀ e ∈ new, e.node = id) : eventsOf id (events ++ new) = eventsOf id events ++ new := by
  have hself : eventsOf id new = new := List.filter_eq_self.2 fun e he => beq_iff_eq.2 (h e he)
  rw [eventsOf_append, hself]

theorem eventsOf_append_ne {id other : String} {events new : List Event}
    (h : ∀ e ∈ new, e.node = id) (hne : other ≠ id) :
    eventsOf other (events ++ new) = eventsOf other events := by
  have hnil : eventsOf other new = [] := by
    refine List.filter_eq_nil_iff.2 fun e he hnode => hne ?_
    rw [← h e he, beq_iff_eq.1 hnode]
  rw [eventsOf_append, hnil, List.append_nil]

/-- **A node of the round has done something**, and told it: its own story is what is to be
shown. -/
theorem Heard.turn {k : Nat} (hs : Distinct s.nodes) (h : Heard s ⟨x, stage⟩)
    (hk : x.rounds.length = k + 1) (hwave : n ∈ s.graph.wave k) {new : List Event}
    (hprogress : y.progress = x.progress ++ new) (hnew : ∀ e ∈ new, e.node = n.id)
    (hrounds : y.rounds = x.rounds)
    (hothers : ∀ id st, id ≠ n.id → (y.board.Shows id st ↔ x.board.Shows id st))
    (hkept : ∀ j < x.rounds.length, ∀ n' ∈ s.graph.wave j,
      s.launching y.outputs n' = s.launching x.outputs n')
    (hleft : ∀ n' ∈ stage.statics, n' ≠ n → n' ∈ stage'.statics)
    (hstatic : n.isStatic = true → ∃ output, y.board.Shows n.id (.completed output))
    (hllm : n.isLlm = true → ∃ st, y.board.Shows n.id st ∧
      Story n.id (s.opening y.outputs (s.graph.wave k) n) st (eventsOf n.id y.progress))
    (hsteps : ∀ n' step, (n', some step) ∈ stage'.todo →
      (n' ∈ s.graph.wave k ∧ n'.id ≠ n.id ∧ (n', some step) ∈ stage.todo) ∨
      n' = n ∧ eventsOf n.id y.progress =
          step.told (s.delaying n (s.heldBack (s.graph.wave k) n)) (s.launching y.outputs n) ∧
        ∀ heldBack, step = .begin heldBack → heldBack = s.heldBack (s.graph.wave k) n) :
    Heard s ⟨y, stage'⟩ := by
  have hlt : k < x.rounds.length := hk ▸ Nat.lt_succ_self k
  refine ⟨fun j hj n' hn' hkind => ?_, fun j hj n' hn' hkind => ?_, fun j hj n' step hmem => ?_⟩
  · by_cases hid : n'.id = n.id
    · obtain rfl := hs.eq_of_id_eq (mem_wave.1 hn').1 (mem_wave.1 hwave).1 hid
      exact Or.inr (hstatic hkind)
    · rcases h.resolved j (hrounds ▸ hj) n' hn' hkind with hturn | ⟨output, hshow⟩
      · exact Or.inl (hleft n' hturn fun heq => hid (congrArg Node.id heq))
      · exact Or.inr ⟨output, (hothers _ _ hid).2 hshow⟩
  · replace hj : j < x.rounds.length := hrounds ▸ hj
    by_cases hid : n'.id = n.id
    · obtain rfl := hs.eq_of_id_eq (mem_wave.1 hn').1 (mem_wave.1 hwave).1 hid
      obtain rfl := wave_unique hn' hwave rfl
      exact hllm hkind
    · obtain ⟨st, hshow, hstory⟩ := h.stories j hj n' hn' hkind
      refine ⟨st, (hothers _ _ hid).2 hshow, ?_⟩
      rwa [Setup.opening, hkept j hj n' hn', hprogress, eventsOf_append_ne hnew hid]
  · obtain rfl : k = j := by
      have hlength : x.rounds.length = j + 1 := hrounds ▸ hj
      omega
    rcases hsteps n' step hmem with ⟨hn', hid, hold⟩ | ⟨rfl, hnow⟩
    · show eventsOf n'.id y.progress = step.told _ (s.launching y.outputs n') ∧ _
      rw [hkept k hlt n' hn', hprogress, eventsOf_append_ne hnew hid]
      exact h.steps k hk n' step hold
    · exact hnow

/-- A step of a node opens no round. -/
theorem Worked.rounds {p : Execution × Pace} {left : Nat} {sure : Prop}
    (h : Worked s x.board n left sure p) : p.1.rounds = x.rounds := by
  cases h with
  | sleeps hboard => exact congrArg Board.rounds hboard
  | completes hboard => exact congrArg Board.rounds hboard
  | fails hboard => exact congrArg Board.rounds hboard

/-- A node that comes to its end changes what no other shows. -/
theorem shows_others {st : Standing} (hboard : y.board = x.board.set n.id st) :
    ∀ id st', id ≠ n.id → (y.board.Shows id st' ↔ x.board.Shows id st') := by
  intro id st' hid
  rw [hboard]
  exact Board.shows_set_ne hid

/-- What a model node tells in a step, along with what it has told before. -/
theorem Heard.tells {t : Task} {tasks : Multiset Task} {faults : List RunFault}
    (hheard : s.listener.isSome = true) (hsound : Sound s ⟨x, .round [] (t ::ₘ tasks) faults⟩)
    (h : Heard s ⟨x, .round [] (t ::ₘ tasks) faults⟩) :
    ∃ k, x.rounds.length = k + 1 ∧ Underway s x.board k (t.node ::ₘ busy [] tasks) faults ∧
      t.node.isLlm = true ∧
      Tells x t.node.id (s.delaying t.node (s.heldBack (s.graph.wave k) t.node))
        (s.launching x.outputs t.node) (eventsOf t.node.id x.progress) (x.perform s t) := by
  have htodo := todo_cons_right [] t tasks
  have hmem : (t.node, some t.step) ∈ todo [] (t ::ₘ tasks) := htodo ▸ Multiset.mem_cons_self _ _
  cases hsound with
  | @round x k statics tasks' faults hphase hk hlayer hkind hu =>
    rw [busy_of_todo htodo] at hu
    obtain ⟨-, hrun⟩ := hu.running t.node (Multiset.mem_cons_self _ _)
    have hllm : t.node.isLlm = true := by simpa [Node.isLlm] using hkind _ hmem
    obtain ⟨htold, hbegin⟩ := h.steps k hk t.node t.step hmem
    have hheldBack : ∀ heldBack, t.step = .begin heldBack →
        s.delaying t.node (s.heldBack (s.graph.wave k) t.node) = s.delaying t.node heldBack := by
      intro heldBack heq
      rw [hbegin heldBack heq]
    refine ⟨k, hk, hu, hllm, ?_⟩
    rw [show eventsOf t.node.id x.progress = _ from htold]
    exact Execution.perform_tells hheard hrun hllm hheldBack

/-- **The step of a model node keeps the stories.** -/
theorem Heard.works {t : Task} {tasks : Multiset Task} {faults : List RunFault}
    (hs : Distinct s.nodes) (hvar : ∀ n ∈ s.nodes, n.modelVariable? ≠ some "")
    (hheard : s.listener.isSome = true)
    (hsound : Sound s ⟨x, .round [] (t ::ₘ tasks) faults⟩)
    (h : Heard s ⟨x, .round [] (t ::ₘ tasks) faults⟩) :
    Heard s ⟨(x.perform s t).1,
      .round [] ((x.perform s t).2.tasks + tasks) (faults ++ (x.perform s t).2.faults)⟩ := by
  have hnext : Next s ⟨x, .round [] (t ::ₘ tasks) faults⟩ _ := .works
  have hkept := fun k hk n hn => hsound.launching_kept (k := k) (n := n) hs hvar hnext hk hn
  obtain ⟨k, hk, hu, hllm, htells⟩ := h.tells hheard hsound
  obtain ⟨hwave, hrun⟩ := hu.running t.node (Multiset.mem_cons_self _ _)
  have hwork := Execution.perform_worked (s := s) hrun hllm
  have hmodel : t.node.isStatic = false := by simpa [Node.isLlm] using hllm
  -- the others have the same to do as before
  have hrest : ∀ n' step, (n', some step) ∈ todo [] tasks → n' ∈ s.graph.wave k ∧
      n'.id ≠ t.node.id ∧ (n', some step) ∈ todo [] (t ::ₘ tasks) := by
    intro n' step hin
    have hbusy : n' ∈ busy [] tasks := Multiset.mem_map_of_mem (·.1) hin
    rw [todo_cons_right]
    exact ⟨(hu.running n' (Multiset.mem_cons_of_mem hbusy)).1, hu.ne_of_mem_busy hbusy,
      Multiset.mem_cons_of_mem hin⟩
  generalize x.perform s t = p at hnext hkept htells hwork ⊢
  obtain ⟨new, hprogress, hnew, hpace⟩ := htells
  have hlt : k < x.rounds.length := hk ▸ Nat.lt_succ_self k
  -- what the node has told by now
  rw [← eventsOf_append_self hnew, ← hprogress, ← hkept k hlt _ hwave] at hpace
  cases hwork with
  | @sleeps y z hboard hnode hleft hcarries =>
    refine h.turn hs hk hwave hprogress hnew (congrArg Board.rounds hboard)
      (fun id st _ => hboard ▸ Iff.rfl) hkept (fun n' hn' _ => hn')
      (fun hstatic => by simp [hmodel] at hstatic) (fun _ => ⟨.running, hboard ▸ hrun, .running ?_⟩)
      fun n' step hin => ?_
    · exact hpace ▸ Step.told_prefix _ _ _
    · simp only [Stage.todo, Pace.tasks, Multiset.singleton_add, todo_cons_right,
        Multiset.mem_cons, Prod.mk.injEq, Option.some.injEq] at hin
      rcases hin with ⟨rfl, rfl⟩ | hin
      · -- a node that sleeps has begun
        refine Or.inr ⟨hnode, hpace, fun heldBack heq => ?_⟩
        rw [heq] at hleft
        exact absurd hleft (Nat.not_lt.2 (Step.left_le_begin t.step heldBack))
      · exact Or.inl (hrest n' step hin)
  | @completes y text hboard hresult =>
    refine h.turn hs hk hwave hprogress hnew (congrArg Board.rounds hboard)
      (shows_others hboard) hkept (fun n' hn' _ => hn')
      (fun hstatic => by simp [hmodel] at hstatic)
      (fun _ => ⟨.completed text, hboard ▸ Board.shows_set_self hrun.2, ?_⟩)
      fun n' step hin => Or.inl (hrest n' step ?_)
    · exact hpace ▸ .completed text
    · simpa only [Stage.todo, Pace.tasks, Multiset.zero_add] using hin
  | @fails y cause hboard hresult =>
    refine h.turn hs hk hwave hprogress hnew (congrArg Board.rounds hboard)
      (shows_others hboard) hkept (fun n' hn' _ => hn')
      (fun hstatic => by simp [hmodel] at hstatic)
      (fun _ => ⟨.failed cause.message, hboard ▸ Board.shows_set_self hrun.2, ?_⟩)
      fun n' step hin => Or.inl (hrest n' step ?_)
    · exact hpace ▸ .failed cause.message
    · simpa only [Stage.todo, Pace.tasks, Multiset.zero_add] using hin

/-- **A static node is completed when it is resolved**: its dependencies have outputs. -/
theorem Sound.resolves {rest : List Node} {tasks : Multiset Task} (hs : Distinct s.nodes)
    (h : Sound s ⟨x, .round (n :: rest) tasks []⟩) :
    (x.resolveStatic s n).2 = none ∧
      ∃ text, (x.resolveStatic s n).1.board = x.board.set n.id (.completed text) := by
  have hmem := mem_todo_static n rest tasks
  obtain ⟨hn, hrun, hstatic⟩ := h.running_of_todo hmem
  have hkind : n.kind = .static := by
    cases hkind : n.kind with
    | static => rfl
    | llm source => simp [Node.isStatic, hkind] at hstatic
  have htext := Context.staticText_eq_substituted (c := ⟨x.board.outputs, s.input⟩) (n := n)
    (get?_eq_getD_of_stored (h.stored_of_todo hs hmem))
  have hres := Execution.resolveStatic_resolved (x := x) (s := s) (n := n) hrun hstatic
  generalize x.resolveStatic s n = r at hres ⊢
  cases hres with
  | completes hboard hresult => exact ⟨rfl, _, hboard⟩
  | fails hboard hresult =>
    simp only [Setup.resultFor, hkind, htext] at hresult
    cases hresult

/-- Resolving a static node keeps the stories. -/
theorem Heard.resolves {rest : List Node} {tasks : Multiset Task} (hs : Distinct s.nodes)
    (hvar : ∀ n ∈ s.nodes, n.modelVariable? ≠ some "") (hheard : s.listener.isSome = true)
    (hsound : Sound s ⟨x, .round (n :: rest) tasks []⟩)
    (h : Heard s ⟨x, .round (n :: rest) tasks []⟩) :
    Heard s ⟨(x.resolveStatic s n).1, .round rest tasks []⟩ := by
  have hnext : Next s ⟨x, .round (n :: rest) tasks []⟩ _ := .resolves
  have hkept := fun k hk m hm => hsound.launching_kept (k := k) (n := m) hs hvar hnext hk hm
  have htodo := todo_cons_left n rest tasks
  have hmem : (n, none) ∈ todo (n :: rest) tasks := htodo ▸ Multiset.mem_cons_self _ _
  obtain ⟨-, hrun, hstatic⟩ := hsound.running_of_todo hmem
  obtain ⟨hnone, text, hboard⟩ := hsound.resolves hs
  have hprogress := Execution.progress_resolveStatic hheard hrun hnone
  cases hsound with
  | @round x k statics tasks' faults hphase hk hlayer hkind hu =>
    rw [busy_of_todo htodo] at hu
    refine h.turn hs hk (hu.running n (Multiset.mem_cons_self _ _)).1 hprogress
      (by simp [resolution, Event.node]) (congrArg Board.rounds hboard) (shows_others hboard) hkept
      (fun n' hn' hne => (List.mem_cons.1 hn').resolve_left hne)
      (fun _ => ⟨text, hboard ▸ Board.shows_set_self hrun.2⟩) (fun hllm => ?_)
      fun n' step hin => Or.inl ?_
    · simp [Node.isLlm, hstatic] at hllm
    · have hbusy : n' ∈ busy rest tasks := Multiset.mem_map_of_mem (·.1) hin
      have hold : (n', some step) ∈ todo (n :: rest) tasks := htodo ▸ Multiset.mem_cons_of_mem hin
      exact ⟨(hu.running n' (Multiset.mem_cons_of_mem hbusy)).1, hu.ne_of_mem_busy hbusy, hold⟩

/-- Only the first model node of a sequential round is not held back. -/
theorem Setup.step_of_mem_firstTasks {round : List Node} (hround : Distinct round) {t : Task}
    (h : t ∈ firstTasks (!s.config.sequential) (round.filter (·.isLlm))) :
    t.step = .begin (s.heldBack round t.node) := by
  have hnodup : (round.filter (·.isLlm)).Nodup := (List.Nodup.of_map _ hround).filter _
  rw [heldBack, ← List.head?_filter]
  generalize round.filter (·.isLlm) = nodes at h hnodup ⊢
  cases nodes with
  | nil => exact absurd h List.not_mem_nil
  | cons first rest =>
    rcases List.mem_cons.1 h with rfl | h
    · simp
    · obtain ⟨n, hn, rfl⟩ := List.mem_map.1 h
      have hne : first ≠ n := by
        rintro rfl
        exact (List.nodup_cons.1 hnodup).1 hn
      simp [hne]

/-- **Nothing is told when a round is opened.** -/
theorem exists_opened (hs : Distinct s.nodes) (hlayered : Layered s x.board x.rounds.length) :
    ∃ y, opened s (s.graph.wave x.rounds.length) x = ⟨y, .round
        ((s.graph.wave x.rounds.length).filter (·.isStatic))
        (firstTasks (!s.config.sequential) ((s.graph.wave x.rounds.length).filter (·.isLlm))) []⟩ ∧
      y.progress = x.progress ∧ y.board = Board.start
        { x.board with rounds := x.rounds ++ [(s.graph.wave x.rounds.length).map (·.id)] }
        (s.graph.wave x.rounds.length) := by
  obtain ⟨hnone, hboard⟩ := RunState.startAll_of_pending
    (x := { x with rounds := x.rounds ++ [(s.graph.wave x.rounds.length).map (·.id)] })
    (hs.sublist (s.graph.wave_sublist _)) fun n hn => hlayered.pending_of_mem_wave rfl hn
  have hprogress := Execution.progress_startAll (s.graph.wave x.rounds.length)
    { x with rounds := x.rounds ++ [(s.graph.wave x.rounds.length).map (·.id)] }
  rw [opened]
  generalize RunState.startAll (s.graph.wave x.rounds.length) _ = r at hnone hboard hprogress ⊢
  obtain ⟨y, fault⟩ := r
  obtain rfl : fault = none := hnone
  exact ⟨y, rfl, hprogress, hboard⟩

/-- **A round that is opened keeps the stories**: its nodes have told nothing yet. -/
theorem Heard.opens (hs : Distinct s.nodes) {idle : Nat} {left : List Node}
    (hlayered : Layered s x.board x.rounds.length)
    (hpaced : Paced s x.rounds.length left x.progress) (h : Heard s ⟨x, .between idle⟩)
    (hprogress : y.progress = x.progress)
    (hboard : y.board = Board.start
      { x.board with rounds := x.rounds ++ [(s.graph.wave x.rounds.length).map (·.id)] }
      (s.graph.wave x.rounds.length)) :
    Heard s ⟨y, .round ((s.graph.wave x.rounds.length).filter (·.isStatic))
      (firstTasks (!s.config.sequential) ((s.graph.wave x.rounds.length).filter (·.isLlm)))
      []⟩ := by
  have hrounds : y.rounds.length = x.rounds.length + 1 := by
    rw [Execution.rounds_of_start hboard]
    exact List.length_append
  have houtputs : y.outputs = x.outputs := Execution.outputs_of_start hboard
  -- the nodes of earlier rounds show what they showed
  have hold : ∀ k < x.rounds.length, ∀ n ∈ s.graph.wave k, ∀ st, x.board.Shows n.id st →
      y.board.Shows n.id st := by
    intro k hk n hn st hshow
    rw [hboard]
    refine (hlayered.shows_opened rfl).2 (Or.inr ⟨fun hin => ?_, hshow⟩)
    obtain ⟨m, hm, hid⟩ := List.mem_map.1 hin
    exact absurd (wave_unique hn hm hid.symm) (Nat.ne_of_lt hk)
  have hnew : ∀ n ∈ s.graph.wave x.rounds.length, y.board.Shows n.id .running ∧
      eventsOf n.id y.progress = [] := by
    intro n hn
    refine ⟨?_, ?_⟩
    · rw [hboard]
      exact (hlayered.shows_opened rfl).2 (Or.inl ⟨List.mem_map_of_mem hn, rfl⟩)
    · rw [hprogress]
      exact hpaced.eventsOf_eq_nil (mem_wave.1 hn).2.1
  refine ⟨fun k hk n hn hstatic => ?_, fun k hk n hn hllm => ?_, fun k hk n step hmem => ?_⟩
  · rcases Nat.lt_succ_iff_lt_or_eq.1 (hrounds ▸ hk) with hk | rfl
    · rcases h.resolved k hk n hn hstatic with hleft | ⟨output, hshow⟩
      · cases hleft
      · exact Or.inr ⟨output, hold k hk n hn _ hshow⟩
    · exact Or.inl (List.mem_filter.2 ⟨hn, hstatic⟩)
  · rcases Nat.lt_succ_iff_lt_or_eq.1 (hrounds ▸ hk) with hk | rfl
    · obtain ⟨st, hshow, hstory⟩ := h.stories k hk n hn hllm
      refine ⟨st, hold k hk n hn st hshow, ?_⟩
      simpa only [houtputs, hprogress] using hstory
    · obtain ⟨hrun, hnil⟩ := hnew n hn
      exact ⟨.running, hrun, .running (hnil ▸ List.nil_prefix)⟩
  · obtain rfl : x.rounds.length = k := Nat.succ.inj (hrounds.symm.trans hk)
    rcases mem_todo.1 hmem with ⟨-, hcontra⟩ | ⟨t, ht, heq⟩
    · cases hcontra
    · cases heq
      have hstep := Setup.step_of_mem_firstTasks (hs.sublist (s.graph.wave_sublist _)) ht
      have hwave := (List.mem_filter.1 (begin_of_mem_firstTasks ht).1).1
      rw [hstep]
      refine ⟨(hnew _ hwave).2, fun heldBack heq => ?_⟩
      cases heq
      rfl

end Stories

/-! ## 4. Along a course -/

/-- What a run has told, in its order and node by node. -/
structure Chronicled (s : Setup) (m : Snapshot) : Prop where
  heard : Heard s m
  paced : Paced s m.execution.rounds.length m.stage.statics m.execution.progress
  /-- As long as static nodes are left, nothing has gone wrong. -/
  unharmed : m.stage.statics ≠ [] → m.stage.faults = []

section Course

variable {s : Setup} {m m' : Snapshot} (hs : Distinct s.nodes)
  (hvar : ∀ n ∈ s.nodes, n.modelVariable? ≠ some "") (hheard : s.listener.isSome = true)

theorem chronicled_initial (s : Setup) : Chronicled s (Snapshot.initial s) where
  heard := heard_initial s
  paced := .start
  unharmed hne := absurd rfl hne

/-- When no node does anything, nothing is told. -/
theorem Chronicled.idle {x y : Execution} {stage stage' : Stage} (h : Chronicled s ⟨x, stage⟩)
    (hsame : Untold x y) (hstatics : stage.statics = []) (hstatics' : stage'.statics = [])
    (htodo : stage'.todo = 0) : Chronicled s ⟨y, stage'⟩ := by
  refine ⟨h.heard.idle hsame hstatics htodo, ?_, fun hne => absurd hstatics' hne⟩
  have hpaced := h.paced
  rw [hstatics] at hpaced
  show Paced s y.rounds.length stage'.statics y.progress
  rwa [hstatics', hsame.rounds, hsame.progress]

include hs hvar hheard

/-- **Every step tells what it should.** -/
theorem Chronicled.next (hsound : Sound s m) (h : Chronicled s m) (hn : Next s m m') :
    Chronicled s m' := by
  cases hn with
  | finishes hun => exact h.idle (.moveWorkflow _ _) rfl rfl rfl
  | @opens x idle hun hrunnable =>
    cases hsound with
    | between hrun hlayered hidle =>
      rw [runnable_eq_wave hs hlayered]
      obtain ⟨y, heq, hprogress, hboard⟩ := exists_opened hs hlayered
      rw [heq]
      have hlength : y.rounds.length = x.rounds.length + 1 := by
        rw [Execution.rounds_of_start hboard]
        exact List.length_append
      refine ⟨h.heard.opens hs hlayered h.paced hprogress hboard, ?_, fun _ => rfl⟩
      show Paced s y.rounds.length _ y.progress
      rw [hlength, hprogress]
      exact Paced.opens h.paced
  | stalls hun hnil hidle => exact h.idle (.refl _) rfl rfl rfl
  | deadlocks hun hnil hidle => exact h.idle (.moveWorkflow _ _) rfl rfl rfl
  | @resolves x n rest tasks =>
    obtain ⟨-, hrun, -⟩ := hsound.running_of_todo (mem_todo_static n rest tasks)
    obtain ⟨hnone, text, hboard⟩ := hsound.resolves hs
    have hprogress := Execution.progress_resolveStatic hheard hrun hnone
    have hrounds : (x.resolveStatic s n).1.rounds = x.rounds := congrArg Board.rounds hboard
    rw [hnone]
    refine ⟨h.heard.resolves hs hvar hheard hsound, ?_, fun _ => rfl⟩
    show Paced s (x.resolveStatic s n).1.rounds.length rest (x.resolveStatic s n).1.progress
    rw [hrounds, hprogress]
    exact h.paced.resolves
  | @works x t tasks faults =>
    obtain ⟨k, hk, hu, hllm, new, hprogress, hnew, -⟩ := h.heard.tells hheard hsound
    obtain ⟨hwave, hrun⟩ := hu.running t.node (Multiset.mem_cons_self _ _)
    have hrounds : (x.perform s t).1.rounds = x.rounds :=
      (Execution.perform_worked (s := s) hrun hllm).rounds
    refine ⟨h.heard.works hs hvar hheard hsound, ?_, fun hne => absurd rfl hne⟩
    have hpaced : Paced s (k + 1) [] x.progress := hk ▸ h.paced
    show Paced s (x.perform s t).1.rounds.length [] (x.perform s t).1.progress
    rw [hrounds, hk, hprogress]
    exact hpaced.works hwave hllm hnew
  | settles => exact h.idle (.refl _) rfl rfl rfl
  | @stops x statics tasks f faults =>
    refine h.idle (.moveWorkflow _ _) ?_ rfl rfl
    by_contra hne
    cases h.unharmed hne

/-- **At every point of every course a run has told what it should.** -/
theorem Snapshot.Leads.chronicled {past : List Snapshot} (h : Leads s (Snapshot.initial s) past m) :
    Chronicled s m := by
  induction h with
  | refl => exact chronicled_initial s
  | pass moment _ ih =>
    exact ⟨⟨ih.heard.resolved, ih.heard.stories, ih.heard.steps⟩, ih.paced, ih.unharmed⟩
  | next hl hn ih => exact ih.next hs hvar hheard (hl.sound hs) hn

end Course

/-! ## 5. Round by round -/

section Rounds

variable {s : Setup} {m m' : Snapshot}

/-- The nodes that were begun in a round are those of its wave. -/
theorem Setup.begun_wave (hs : Distinct s.nodes) (k : Nat) :
    s.begun ((s.graph.wave k).map (·.id)) = s.graph.wave k := by
  refine List.filter_congr fun n hn => Bool.eq_iff_iff.2 ?_
  have hwave : n ∈ s.graph.wave k ↔ _ := List.mem_filter.trans (and_iff_right hn)
  rw [decide_eq_true_iff, ← hwave]
  constructor
  · intro hid
    obtain ⟨m, hm, heq⟩ := List.mem_map.1 hid
    exact hs.eq_of_id_eq (mem_wave.1 hm).1 hn heq ▸ hm
  · exact List.mem_map_of_mem

/-- **Where a run is suspended it has been told round by round.** -/
theorem Chronicled.inRounds (hs : Distinct s.nodes) (hsound : Sound s m) (h : Chronicled s m)
    (hidle : m.stage.statics = []) : InRounds s m.execution := by
  obtain ⟨k, hlayered, -⟩ := hsound.layered
  have hpaced := h.paced
  rw [hidle] at hpaced
  obtain ⟨blocks, hprogress, hblocks⟩ := hpaced.blocks
  refine ⟨blocks, hprogress, ?_⟩
  have hrounds : m.execution.rounds = (List.range m.execution.rounds.length).map fun j =>
      (s.graph.wave j).map (·.id) := hlayered.rounds
  rw [hrounds, List.forall₂_map_left_iff]
  refine hblocks.imp fun j block hj => ?_
  obtain ⟨hlt, ⟨done, rest, hdone, rfl, -, hrest⟩, hevents⟩ := hj
  rw [List.append_nil] at hdone
  rw [Setup.begun_wave hs]
  refine ⟨⟨rest, hdone ▸ rfl, hrest⟩, fun n hn hstatic => ?_, fun n hn hllm => ?_⟩
  · rcases h.heard.resolved j hlt n hn hstatic with hleft | ⟨output, hshow⟩
    · rw [hidle] at hleft
      exact absurd hleft List.not_mem_nil
    · exact Execution.phase?_of_shows hshow
  · obtain ⟨st, hshow, hstory⟩ := h.heard.stories j hlt n hn hllm
    exact ⟨st, hshow, (hevents n hn).symm ▸ hstory⟩

/-- A step sets running just what it adds to the rounds. -/
theorem Sound.starts_iff_round (hs : Distinct s.nodes) (h : Sound s m) (hn : Next s m m')
    (id : String) : m.Starts m' id ↔
      ∃ round, m'.execution.rounds = m.execution.rounds ++ [round] ∧ id ∈ round := by
  rw [h.starts_iff hs hn]
  rcases (h.moves hs hn).rounds with hsame | ⟨-, hrounds⟩
  · simp [hsame]
  · simp [hrounds]

end Rounds

/-- **A run is told round by round.**  Take the nodes of a script, and a listener.  Wherever a run
of them can be seen, but for the moments at which static nodes are still to be resolved, what the
listener was told is one block for every round, and a round holds just what the step that opened it
set running.  So it is wherever the run can be suspended, and when a run of the script is over or
cancelled; a run that holds nothing was never started. -/
theorem progress_told_in_rounds (source : String) :
    (∀ s : Setup, Script.load source = .ok s.nodes → s.listener.isSome = true →
      (∀ {past : List Snapshot} {m : Snapshot}, Leads s (Snapshot.initial s) past m →
        (m.stage.statics = [] → InRounds s m.execution) ∧
        ∀ {m' : Snapshot}, Next s m m' → ∀ id, m.Starts m' id ↔
          ∃ round, m'.execution.rounds = m.execution.rounds ++ [round] ∧ id ∈ round) ∧
      ∀ {st : RunState}, RunState.Reachable s st → InRounds s st.execution) ∧
    ∀ client config input hear limit,
      let run := Run.ofScript source client config input (some hear) limit
      run.execution = none ∨ ∃ nodes x, Script.load source = .ok nodes ∧
        run.execution = some x ∧
        InRounds { nodes, client, config, input, listener := some hear } x := by
  have hcourse : ∀ s : Setup, Script.load source = .ok s.nodes → s.listener.isSome = true →
      ∀ {past : List Snapshot} {m : Snapshot}, Leads s (Snapshot.initial s) past m →
      m.stage.statics = [] → InRounds s m.execution := by
    intro s hload hheard past m hl hidle
    have hloaded := Script.loaded_of_load hload
    have hchronicled := hl.chronicled hloaded.distinct (fun n hn => hloaded.modelVariable?_ne hn)
      hheard
    exact hchronicled.inRounds hloaded.distinct (hl.sound hloaded.distinct) hidle
  refine ⟨fun s hload hheard => ⟨fun {past m} hl => ⟨hcourse s hload hheard hl, fun hn id => ?_⟩,
    fun {st} hst => ?_⟩, fun client config input hear limit => ?_⟩
  · have hdistinct := (Script.loaded_of_load hload).distinct
    exact (hl.sound hdistinct).starts_iff_round hdistinct hn id
  · obtain ⟨past, -, hl⟩ := RunState.comes_reachable hst
    exact hcourse s hload hheard hl st.statics_snapshot
  · intro run
    rcases Run.ofScript_suspended source client config input (some hear) limit with
      hnone | ⟨nodes, hload, past, st, hl, hrun⟩
    · exact Or.inl hnone
    · exact Or.inr ⟨nodes, st.execution, hload, hrun, hcourse _ hload rfl hl st.statics_snapshot⟩

/-- That script's run, with all calls held back and somebody who listens. -/
def heardRelay : Setup :=
  { relay with config := { sequential := false, delay := 0.5 }, listener := some fun _ _ => .ok () }

/-- It opens a round with the two static nodes and resolves them; in the second round the model node
waits, calls its model and is completed. -/
theorem progress_told_in_rounds_relay :
    InRounds heardRelay (RunState.start heardRelay).execution ∧
    ∃ x, (Run.ofScript Script.relayScript echoClient heardRelay.config "rain"
        heardRelay.listener).execution = some x ∧
      x.rounds = [["model", "note"], ["draft"]] ∧
      x.progress.map Event.node =
        ["model", "model", "note", "note", "draft", "draft", "draft"] ∧
      InRounds heardRelay x := by
  have hrun := (progress_told_in_rounds Script.relayScript).2 echoClient heardRelay.config "rain"
    (fun _ _ => .ok ()) none
  have hheld : ((Run.ofScript Script.relayScript echoClient heardRelay.config "rain"
      heardRelay.listener).execution.map fun x => (x.rounds, x.progress.map Event.node)) =
      some ([["model", "note"], ["draft"]],
        ["model", "model", "note", "note", "draft", "draft", "draft"]) := by decide +kernel
  rw [show some (fun _ _ => .ok ()) = heardRelay.listener from rfl] at hrun
  generalize Run.ofScript Script.relayScript echoClient heardRelay.config "rain"
    heardRelay.listener none = run at hrun hheld ⊢
  obtain hnone | ⟨nodes, x, hload, hx, hin⟩ := hrun
  · rw [hnone] at hheld
    cases hheld
  obtain rfl := Except.ok.inj (hload.symm.trans Script.load_relayScript)
  rw [hx] at hheld
  obtain ⟨hrounds, hprogress⟩ := Prod.mk.inj (Option.some.inj hheld)
  have hcourse := (progress_told_in_rounds Script.relayScript).1 heardRelay
    Script.load_relayScript rfl
  exact ⟨hcourse.2 .start, x, hx, hrounds, hprogress, hin⟩

end PromptChain
