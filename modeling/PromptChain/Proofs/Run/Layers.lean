/-
# A run goes through the stages of its graph

Whatever the schedule, the rounds of a run are the waves of its graph (`Graph.wave`), one after the
other.  Between two rounds a node is completed when a stage before has settled it, and pending
otherwise; in a round only the nodes of the wave stand otherwise (`Layered`).  The nodes of the
wave that still run are those that have something to do, unless a node of the wave has failed
(`Underway`).  So a run ends in one of three ways: all nodes are completed, or the next wave is
empty and some node is still pending, or a node of the last wave has failed (`Sound`).

`Sound` holds at the start (`sound_initial`).  What a step does to such a run is listed once
(`Moves`, `Sound.moves`), and every step keeps `Sound` (`Sound.next`); so it holds at every point of
every course (`Leads.sound`).
-/
import PromptChain.Proofs.Graph.Stages
import PromptChain.Proofs.Run.Interleaving
import PromptChain.Proofs.Run.Step
import Mathlib.Data.Multiset.MapFold

namespace PromptChain

open PromptChain.Graph

/-! ## 1. Layers -/

/-- The nodes settled by some stages are completed, those beyond the last round are pending, and
there is at most one round in between. -/
structure Layered (s : Setup) (b : Board) (done : Nat) : Prop where
  tidy : b.Tidy s.nodes
  rounds : b.rounds = (List.range b.rounds.length).map fun k => (s.graph.wave k).map (·.id)
  waves : ∀ k < b.rounds.length, s.graph.wave k ≠ []
  completed : ∀ id ∈ s.graph.settled done, ∃ output, b.Shows id (.completed output)
  pending : ∀ n ∈ s.nodes, b.Shows n.id .pending ↔ n.id ∉ s.graph.settled b.rounds.length

namespace Layered

variable {s : Setup} {b : Board} {k : Nat}

/-- The dependencies of a node of the next wave are completed. -/
theorem completed_of_mem_wave (h : Layered s b k) {n : Node} (hn : n ∈ s.graph.wave k)
    {d : String} (hd : d ∈ n.dependencies) : ∃ output, b.Shows d (.completed output) :=
  h.completed d (dependencies_settled hn hd)

/-- Before its round the nodes of a wave are pending. -/
theorem pending_of_mem_wave (h : Layered s b k) (hk : b.rounds.length = k) {n : Node}
    (hn : n ∈ s.graph.wave k) : b.Shows n.id .pending := by
  obtain ⟨hmem, hnot, -⟩ := mem_wave.1 hn
  rw [h.pending n hmem, hk]
  exact hnot

/-- **Setting a node of the wave keeps the layers.** -/
theorem set (h : Layered s b k) (hk : b.rounds.length = k + 1) {n : Node}
    (hn : n ∈ s.graph.wave k) (hrun : b.Shows n.id .running) {st : Standing}
    (hst : st ≠ .pending) : Layered s (b.set n.id st) k where
  tidy := h.tidy.set (mem_wave.1 hn).1 hrun.2 st
  rounds := h.rounds
  waves := h.waves
  completed := by
    intro id hid
    obtain ⟨output, hout⟩ := h.completed id hid
    have hne : id ≠ n.id := by
      rintro rfl
      exact (mem_wave.1 hn).2.1 hid
    exact ⟨output, (Board.shows_set_ne hne).2 hout⟩
  pending := by
    intro m hm
    by_cases hid : m.id = n.id
    · rw [hid, Board.rounds_set, hk]
      constructor
      · intro hpend
        exact absurd ((Board.shows_set_self hrun.2).unique hpend) hst
      · intro hnot
        exact absurd (mem_settled_succ.2 (Or.inr ⟨n, hn, rfl⟩)) hnot
    · rw [Board.shows_set_ne hid, Board.rounds_set]
      exact h.pending m hm

/-- **Opening a round with the next wave keeps the layers.** -/
theorem start (h : Layered s b k) (hk : b.rounds.length = k) (hwave : s.graph.wave k ≠ []) :
    Layered s (Board.start { b with rounds := b.rounds ++ [(s.graph.wave k).map (·.id)] }
      (s.graph.wave k)) k := by
  have hout : ∀ n ∈ s.graph.wave k, b.outputs.get? n.id = none := by
    intro n hn
    exact (h.pending_of_mem_wave hk hn).2
  have htidy : Board.Tidy s.nodes
      { b with rounds := b.rounds ++ [(s.graph.wave k).map (·.id)] } :=
    ⟨h.tidy.ids, h.tidy.shows, h.tidy.nodup, h.tidy.known⟩
  constructor
  · exact htidy.start (fun n hn => (mem_wave.1 hn).1) hout
  · rw [Board.rounds_start, List.length_append, List.length_singleton, List.range_succ,
      List.map_append, ← h.rounds, hk]
    rfl
  · intro j hj
    rw [Board.rounds_start, List.length_append, List.length_singleton, hk] at hj
    rcases Nat.lt_succ_iff_lt_or_eq.1 hj with hj | rfl
    · exact h.waves j (hk ▸ hj)
    · exact hwave
  · intro id hid
    obtain ⟨output, hshow⟩ := h.completed id hid
    refine ⟨output, (Board.shows_start_of_not_mem ?_).2 hshow⟩
    intro hmem
    obtain ⟨n, hn, rfl⟩ := List.mem_map.1 hmem
    exact (mem_wave.1 hn).2.1 hid
  · intro n hn
    rw [Board.rounds_start, List.length_append, List.length_singleton, hk, settled_succ,
      List.mem_append, not_or]
    by_cases hmem : n.id ∈ (s.graph.wave k).map (·.id)
    · have hrun := Board.shows_start_of_mem (b := { b with
        rounds := b.rounds ++ [(s.graph.wave k).map (·.id)] }) hout hmem
      constructor
      · intro hpend
        exact absurd (hrun.unique hpend) (by simp)
      · rintro ⟨-, hnot⟩
        exact absurd hmem hnot
    · rw [Board.shows_start_of_not_mem hmem]
      have hpend : b.Shows n.id .pending ↔ n.id ∉ s.graph.settled k := hk ▸ h.pending n hn
      exact ⟨fun hshow => ⟨hpend.1 hshow, hmem⟩, fun hnot => hpend.2 hnot.1⟩

/-- **What shows when a round has been opened**: the nodes of the wave run, and the others show
what they showed. -/
theorem shows_opened (h : Layered s b k) (hk : b.rounds.length = k) {id : String}
    {st : Standing} :
    (Board.start { b with rounds := b.rounds ++ [(s.graph.wave k).map (·.id)] }
        (s.graph.wave k)).Shows id st ↔
      (id ∈ (s.graph.wave k).map (·.id) ∧ st = .running) ∨
        (id ∉ (s.graph.wave k).map (·.id) ∧ b.Shows id st) := by
  by_cases hid : id ∈ (s.graph.wave k).map (·.id)
  · have hrun := Board.shows_start_of_mem (b := { b with
      rounds := b.rounds ++ [(s.graph.wave k).map (·.id)] })
      (fun n hn => (h.pending_of_mem_wave hk hn).2) hid
    constructor
    · intro hst
      exact Or.inl ⟨hid, hst.unique hrun⟩
    · rintro (⟨-, rfl⟩ | ⟨hnot, -⟩)
      · exact hrun
      · exact absurd hid hnot
  · rw [Board.shows_start_of_not_mem hid]
    constructor
    · intro hst
      exact Or.inr ⟨hid, hst⟩
    · rintro (⟨hin, -⟩ | ⟨-, hst⟩)
      · exact absurd hin hid
      · exact hst

end Layered

/-- **A node is pending exactly when the rounds so far have left it out.** -/
theorem Layered.phase?_eq_pending_iff {s : Setup} {x : Execution} {k : Nat}
    (h : Layered s x.board k) {id : String} :
    x.phase? id = some .pending ↔
      id ∈ s.nodes.map (·.id) ∧ id ∉ s.graph.settled x.rounds.length := by
  constructor
  · intro hphase
    obtain ⟨hid, st, hst, heq⟩ := Execution.exists_shows_of_phase? h.tidy hphase
    refine ⟨hid, ?_⟩
    obtain ⟨n, hn, rfl⟩ := List.mem_map.1 hid
    cases st with
    | pending => exact (h.pending n hn).1 hst
    | _ => cases heq
  · rintro ⟨hid, hnot⟩
    obtain ⟨n, hn, rfl⟩ := List.mem_map.1 hid
    exact Execution.phase?_of_shows ((h.pending n hn).2 hnot)

/-- When the wave is completed, one stage more is. -/
theorem Layered.succ {s : Setup} {b : Board} {k : Nat} (h : Layered s b k)
    (hwave : ∀ n ∈ s.graph.wave k, ∃ output, b.Shows n.id (.completed output)) :
    Layered s b (k + 1) where
  tidy := h.tidy
  rounds := h.rounds
  waves := h.waves
  completed := by
    intro id hid
    rcases mem_settled_succ.1 hid with hid | ⟨n, hn, rfl⟩
    · exact h.completed id hid
    · exact hwave n hn
  pending := h.pending

/-- Where the run as a whole stands does not matter. -/
theorem Layered.moveWorkflow {s : Setup} {x : Execution} {k : Nat} (h : Layered s x.board k)
    (p : Phase) : Layered s (x.moveWorkflow p).board k := by
  rw [Execution.board_moveWorkflow]
  exact ⟨⟨h.tidy.ids, h.tidy.shows, h.tidy.nodup, h.tidy.known⟩, h.rounds, h.waves, h.completed,
    h.pending⟩

/-! ## 2. Between two rounds -/

section Between

variable {s : Setup} {x : Execution} {k : Nat}

/-- **When every stage so far is completed, so is exactly what they settled.** -/
theorem completed_iff_settled (h : Layered s x.board x.rounds.length) {id : String} :
    x.phase? id = some .completed ↔ id ∈ s.graph.settled x.rounds.length := by
  rw [Execution.phase?_eq_completed_iff h.tidy]
  constructor
  · rintro ⟨output, hshow⟩
    have hid := Board.mem_nodes_ids_of_shows hshow
    rw [h.tidy.ids] at hid
    obtain ⟨n, hn, rfl⟩ := List.mem_map.1 hid
    by_contra hnot
    exact absurd (((h.pending n hn).2 hnot).unique hshow) (by simp)
  · exact h.completed id

/-- **What can be begun is the next wave.** -/
theorem runnable_eq_wave (hs : Distinct s.nodes) (h : Layered s x.board x.rounds.length) :
    x.runnable s.graph = s.graph.wave x.rounds.length := by
  have hready : s.graph.ready x.completed = s.graph.wave x.rounds.length := by
    refine ready_congr fun id => ?_
    rw [Execution.mem_completed_iff hs h.tidy, completed_iff_settled h]
  rw [Execution.runnable, hready, List.filter_eq_self]
  intro n hn
  simp [Execution.phase?_of_shows (h.pending_of_mem_wave rfl hn), Standing.phase]

/-- **Something is unresolved exactly when the stages so far have not settled every node.** -/
theorem hasUnresolved_iff_not_settled (hs : Distinct s.nodes)
    (h : Layered s x.board x.rounds.length) :
    x.hasUnresolved = true ↔ ∃ n ∈ s.nodes, n.id ∉ s.graph.settled x.rounds.length := by
  rw [Execution.hasUnresolved_iff hs h.tidy]
  constructor
  · rintro ⟨n, hn, hun⟩
    refine ⟨n, hn, fun hid => ?_⟩
    obtain ⟨output, hshow⟩ := h.completed n.id hid
    rw [Execution.isUnresolved_of_shows hshow] at hun
    exact absurd hun (by simp [Standing.phase, Phase.isFinal, Phase.next])
  · rintro ⟨n, hn, hnot⟩
    refine ⟨n, hn, ?_⟩
    rw [Execution.isUnresolved_of_shows ((h.pending n hn).2 hnot)]
    rfl

/-- The nodes that some stages leave out, in their order, and a cycle among them. -/
def Setup.deadlockAfter (s : Setup) (k : Nat) : Deadlock :=
  let pending := (s.nodes.map (·.id)).filter fun id => decide (id ∉ s.graph.settled k)
  ⟨pending, s.graph.cycleAmong pending⟩

/-- **A deadlock is between the nodes that the stages so far leave out.** -/
theorem deadlock_eq_deadlockAfter (h : Layered s x.board x.rounds.length) :
    RunState.deadlock s x = s.deadlockAfter x.rounds.length := by
  have hfilter : (s.nodes.map (·.id)).filter x.isUnresolved =
      (s.nodes.map (·.id)).filter fun id => decide (id ∉ s.graph.settled x.rounds.length) := by
    refine List.filter_congr fun id hid => ?_
    obtain ⟨n, hn, rfl⟩ := List.mem_map.1 hid
    by_cases hset : n.id ∈ s.graph.settled x.rounds.length
    · obtain ⟨output, hshow⟩ := h.completed n.id hset
      rw [Execution.isUnresolved_of_shows hshow]
      simp [hset, Standing.phase, Phase.isFinal, Phase.next]
    · rw [Execution.isUnresolved_of_shows ((h.pending n hn).2 hset)]
      simp [hset, Standing.phase, Phase.isFinal, Phase.next]
  simp only [RunState.deadlock, Setup.deadlockAfter, hfilter]

end Between

/-! ## 3. In a round -/

/-- The nodes of a wave that are busy are running, the others are completed or have failed, and
the failures are the faults so far. -/
structure Underway (s : Setup) (b : Board) (k : Nat) (busy : Multiset Node)
    (faults : List RunFault) : Prop where
  running : ∀ n ∈ busy, n ∈ s.graph.wave k ∧ b.Shows n.id .running
  nodup : (busy.map (·.id)).Nodup
  failed : ∀ f ∈ faults, ∃ n ∈ s.graph.wave k, ∃ cause : NodeCause,
    f = .node { node := n.id, cause := some cause } ∧ b.Shows n.id (.failed cause.message)
  accounted : ∀ n ∈ s.graph.wave k, n ∈ busy ∨ (∃ output, b.Shows n.id (.completed output)) ∨
    ∃ cause : NodeCause, b.Shows n.id (.failed cause.message) ∧
      .node { node := n.id, cause := some cause } ∈ faults

namespace Underway

variable {s : Setup} {b : Board} {k : Nat} {n : Node} {busy : Multiset Node}
  {faults : List RunFault}

theorem ne_of_mem_busy (h : Underway s b k (n ::ₘ busy) faults) {m : Node} (hm : m ∈ busy) :
    m.id ≠ n.id := by
  intro heq
  have hnodup := h.nodup
  rw [Multiset.map_cons, Multiset.nodup_cons] at hnodup
  exact hnodup.1 (Multiset.mem_map.2 ⟨m, hm, heq⟩)

/-- **A busy node that comes to its end** is no longer busy; if it fails, there is a fault more. -/
theorem set (h : Underway s b k (n ::ₘ busy) faults) {st : Standing} {more : List RunFault}
    (hmore : ∀ f ∈ more, ∃ cause : NodeCause,
      f = .node { node := n.id, cause := some cause } ∧ st = .failed cause.message)
    (hst : (∃ output, st = .completed output) ∨ ∃ cause : NodeCause, st = .failed cause.message ∧
      .node { node := n.id, cause := some cause } ∈ more) :
    Underway s (b.set n.id st) k busy (faults ++ more) := by
  obtain ⟨hwave, hrun⟩ := h.running n (Multiset.mem_cons_self n busy)
  have hself : (b.set n.id st).Shows n.id st := Board.shows_set_self hrun.2
  constructor
  · intro m hm
    obtain ⟨hmwave, hmrun⟩ := h.running m (Multiset.mem_cons_of_mem hm)
    exact ⟨hmwave, (Board.shows_set_ne (h.ne_of_mem_busy hm)).2 hmrun⟩
  · have hnodup := h.nodup
    rw [Multiset.map_cons, Multiset.nodup_cons] at hnodup
    exact hnodup.2
  · intro f hf
    rcases List.mem_append.1 hf with hf | hf
    · obtain ⟨m, hm, cause, rfl, hshow⟩ := h.failed f hf
      have hne : m.id ≠ n.id := by
        intro heq
        rw [heq] at hshow
        exact absurd (hshow.unique hrun) (by simp)
      exact ⟨m, hm, cause, rfl, (Board.shows_set_ne hne).2 hshow⟩
    · obtain ⟨cause, rfl, rfl⟩ := hmore f hf
      exact ⟨n, hwave, cause, rfl, hself⟩
  · intro m hm
    by_cases hid : m.id = n.id
    · rcases hst with ⟨output, rfl⟩ | ⟨cause, rfl, hfault⟩
      · exact Or.inr (Or.inl ⟨output, hid ▸ hself⟩)
      · exact Or.inr (Or.inr ⟨cause, hid ▸ hself,
          List.mem_append.2 (Or.inr (hid ▸ hfault))⟩)
    · rcases h.accounted m hm with hbusy | ⟨output, hshow⟩ | ⟨cause, hshow, hfault⟩
      · rcases Multiset.mem_cons.1 hbusy with rfl | hbusy
        · exact absurd rfl hid
        · exact Or.inl hbusy
      · exact Or.inr (Or.inl ⟨output, (Board.shows_set_ne hid).2 hshow⟩)
      · exact Or.inr (Or.inr ⟨cause, (Board.shows_set_ne hid).2 hshow,
          List.mem_append.2 (Or.inl hfault)⟩)

/-- A node that is completed is no longer busy. -/
theorem completes (h : Underway s b k (n ::ₘ busy) faults) (output : String) :
    Underway s (b.set n.id (.completed output)) k busy faults := by
  have hset : Underway s (b.set n.id (.completed output)) k busy (faults ++ []) :=
    h.set (by simp) (Or.inl ⟨output, rfl⟩)
  rwa [List.append_nil] at hset

/-- A node that fails is no longer busy, and adds its fault. -/
theorem fails (h : Underway s b k (n ::ₘ busy) faults) (cause : NodeCause) :
    Underway s (b.set n.id (.failed cause.message)) k busy
      (faults ++ [.node { node := n.id, cause := some cause }]) :=
  h.set (fun _ hf => ⟨cause, List.mem_singleton.1 hf, rfl⟩)
    (Or.inr ⟨cause, rfl, List.mem_singleton_self _⟩)

/-- When nobody is busy and nothing went wrong, the wave is completed. -/
theorem completed_of_done (h : Underway s b k 0 []) :
    ∀ n ∈ s.graph.wave k, ∃ output, b.Shows n.id (.completed output) := by
  intro n hn
  rcases h.accounted n hn with hbusy | hshow | ⟨cause, _, hfault⟩
  · exact absurd hbusy (Multiset.notMem_zero n)
  · exact hshow
  · exact absurd hfault List.not_mem_nil

/-- **All nodes of a wave that is started are busy.** -/
theorem start (hs : Distinct s.nodes) (hwave : ∀ n ∈ s.graph.wave k, b.Shows n.id .pending) :
    Underway s (b.start (s.graph.wave k)) k (s.graph.wave k) [] where
  running n hn := ⟨hn, Board.shows_start_of_mem (fun m hm => (hwave m hm).2)
    (List.mem_map_of_mem hn)⟩
  nodup := hs.sublist (s.graph.wave_sublist k)
  failed := by simp
  accounted n hn := Or.inl hn

end Underway

/-- Where the run as a whole stands does not matter. -/
theorem Underway.moveWorkflow {s : Setup} {x : Execution} {k : Nat} {busy : Multiset Node}
    {faults : List RunFault} (h : Underway s x.board k busy faults) (p : Phase) :
    Underway s (x.moveWorkflow p).board k busy faults := by
  rw [Execution.board_moveWorkflow]
  exact ⟨h.running, h.nodup, h.failed, h.accounted⟩

/-! ## 4. The invariant -/

/-- What is still to be done in a round: a model node has its next step to do, a static node has
none. -/
def todo (statics : List Node) (tasks : Multiset Task) : Multiset (Node × Option Step) :=
  (statics.map fun n => (n, none) : List (Node × Option Step)) +
    tasks.map fun t => (t.node, some t.step)

theorem todo_cons_left (n : Node) (rest : List Node) (tasks : Multiset Task) :
    todo (n :: rest) tasks = (n, none) ::ₘ todo rest tasks := by
  rw [todo, List.map_cons, ← Multiset.cons_coe, Multiset.cons_add, todo]

theorem todo_cons_right (statics : List Node) (t : Task) (tasks : Multiset Task) :
    todo statics (t ::ₘ tasks) = (t.node, some t.step) ::ₘ todo statics tasks := by
  rw [todo, Multiset.map_cons, Multiset.add_cons, todo]

theorem mem_todo_static (n : Node) (rest : List Node) (tasks : Multiset Task) :
    (n, none) ∈ todo (n :: rest) tasks := by
  rw [todo_cons_left]
  exact Multiset.mem_cons_self _ _

theorem mem_todo_task (statics : List Node) (t : Task) (tasks : Multiset Task) :
    (t.node, some t.step) ∈ todo statics (t ::ₘ tasks) := by
  rw [todo_cons_right]
  exact Multiset.mem_cons_self _ _

/-- Who is busy in a round. -/
def busy (statics : List Node) (tasks : Multiset Task) : Multiset Node :=
  (todo statics tasks).map (·.1)

/-- Who has something to do is busy. -/
theorem busy_of_todo {statics statics' : List Node} {tasks tasks' : Multiset Task}
    {p : Node × Option Step} (h : todo statics tasks = p ::ₘ todo statics' tasks') :
    busy statics tasks = p.1 ::ₘ busy statics' tasks' := by
  rw [busy, h, Multiset.map_cons, busy]

/-- What a run is at any moment. -/
inductive Sound (s : Setup) : Snapshot → Prop where
  /-- Between two rounds, every stage so far is completed. -/
  | between {x : Execution} {idle : Nat} (hrun : x.workflow.phase = .running)
      (h : Layered s x.board x.rounds.length)
      (hidle : 0 < idle → s.graph.wave x.rounds.length = []) : Sound s ⟨x, .between idle⟩
  /-- In a round, the nodes of its wave are underway. -/
  | round {x : Execution} {k : Nat} {statics : List Node} {tasks : Multiset Task}
      {faults : List RunFault} (hrun : x.workflow.phase = .running) (hk : x.rounds.length = k + 1)
      (h : Layered s x.board k) (hkind : ∀ p ∈ todo statics tasks, p.1.isStatic = p.2.isNone)
      (hu : Underway s x.board k (busy statics tasks) faults) :
      Sound s ⟨x, .round statics tasks faults⟩
  /-- At the end, every node is completed. -/
  | completed {x : Execution} (hrun : x.workflow.phase = .completed)
      (h : Layered s x.board x.rounds.length)
      (hall : ∀ n ∈ s.nodes, n.id ∈ s.graph.settled x.rounds.length) : Sound s ⟨x, .ended none⟩
  /-- Or nothing can run any more, and some node is pending. -/
  | deadlocked {x : Execution} (hrun : x.workflow.phase = .failed)
      (h : Layered s x.board x.rounds.length) (hnil : s.graph.wave x.rounds.length = [])
      (hleft : ∃ n ∈ s.nodes, n.id ∉ s.graph.settled x.rounds.length) :
      Sound s ⟨x, .ended (some (.deadlock (s.deadlockAfter x.rounds.length)))⟩
  /-- Or a node of the last round has failed. -/
  | failed {x : Execution} {k : Nat} {left : Multiset Node} {f : RunFault}
      {faults : List RunFault} (hrun : x.workflow.phase = .failed)
      (hk : x.rounds.length = k + 1) (h : Layered s x.board k)
      (hu : Underway s x.board k left (f :: faults)) : Sound s ⟨x, .ended (some f)⟩

section Steps

open Snapshot

variable {s : Setup} {m m' : Snapshot}

/-- The board of a run before its first round. -/
theorem board_initial (s : Setup) : (Snapshot.initial s).execution.board =
    ⟨⟨.running, [⟨.pending, .running, none⟩]⟩,
      Store.ofList (s.nodes.map fun n => (n.id, {})), {}, []⟩ := rfl

/-- A run before its first round has a tidy board with nothing on it. -/
theorem tidy_initial (hs : Distinct s.nodes) : (Snapshot.initial s).execution.board.Tidy s.nodes ∧
    ∀ n ∈ s.nodes, (Snapshot.initial s).execution.board.Shows n.id .pending := by
  have hmap : (s.nodes.map fun n => (n.id, ({} : Lifecycle))).map (·.1) = s.nodes.map (·.id) := by
    rw [List.map_map]
    rfl
  have hentries : (Store.ofList (s.nodes.map fun n => (n.id, ({} : Lifecycle)))).entries =
      s.nodes.map fun n => (n.id, {}) := Store.entries_ofList (by rw [hmap]; exact hs)
  have hids : (Store.ofList (s.nodes.map fun n => (n.id, ({} : Lifecycle)))).ids =
      s.nodes.map (·.id) := by rw [Store.ids, hentries, hmap]
  rw [board_initial]
  have hpend : ∀ n ∈ s.nodes,
      (Store.ofList (s.nodes.map fun n => (n.id, ({} : Lifecycle)))).get? n.id = some {} := by
    intro n hn
    rw [← Store.mem_entries_iff (by rw [hids]; exact hs), hentries]
    exact List.mem_map.2 ⟨n, hn, rfl⟩
  refine ⟨⟨hids, fun n hn => ⟨.pending, hpend n hn, rfl⟩, List.nodup_nil, ?_⟩,
    fun n hn => ⟨hpend n hn, rfl⟩⟩
  intro id hid
  exact absurd hid List.not_mem_nil

theorem sound_initial (hs : Distinct s.nodes) : Sound s (Snapshot.initial s) := by
  obtain ⟨htidy, hpend⟩ := tidy_initial hs
  refine .between rfl ⟨htidy, rfl, ?_, ?_, ?_⟩ (by simp)
  · intro k hk
    exact absurd hk (Nat.not_lt_zero k)
  · intro id hid
    exact absurd hid List.not_mem_nil
  · intro n hn
    exact ⟨fun _ => List.not_mem_nil, fun _ => hpend n hn⟩

/-- Time that passes changes nothing. -/
theorem Sound.atMoment (h : Sound s m) (moment : Float) : Sound s (m.atMoment moment) := by
  cases h with
  | between hrun h hidle => exact .between hrun h hidle
  | round hrun hk h hkind hu => exact .round hrun hk h hkind hu
  | completed hrun h hall => exact .completed hrun h hall
  | deadlocked hrun h hnil hleft => exact .deadlocked hrun h hnil hleft
  | failed hrun hk h hu => exact .failed hrun hk h hu

section Round

variable {x : Execution} {statics : List Node} {tasks : Multiset Task} {faults : List RunFault}

/-- In a round the busy nodes are underway. -/
theorem Sound.underway (h : Sound s ⟨x, .round statics tasks faults⟩) :
    ∃ k, Layered s x.board k ∧ (∀ p ∈ todo statics tasks, p.1.isStatic = p.2.isNone) ∧
      Underway s x.board k (busy statics tasks) faults := by
  cases h with
  | round hrun hk h hkind hu => exact ⟨_, h, hkind, hu⟩

/-- **Who has something to do is running**; a static node has no step to do, a model node has
one. -/
theorem Sound.running_of_todo (h : Sound s ⟨x, .round statics tasks faults⟩)
    {q : Node × Option Step} (hq : q ∈ todo statics tasks) :
    q.1 ∈ s.nodes ∧ x.board.Shows q.1.id .running ∧ q.1.isStatic = q.2.isNone := by
  obtain ⟨k, -, hkind, hu⟩ := h.underway
  obtain ⟨hwave, hshow⟩ := hu.running q.1 (Multiset.mem_map_of_mem _ hq)
  exact ⟨(mem_wave.1 hwave).1, hshow, hkind q hq⟩

/-- The node of a task is a model node that is running. -/
theorem Sound.running_of_task {t : Task} (h : Sound s ⟨x, .round statics (t ::ₘ tasks) faults⟩) :
    t.node ∈ s.nodes ∧ x.board.Shows t.node.id .running ∧ t.node.isLlm = true := by
  obtain ⟨hn, hrun, hkind⟩ := h.running_of_todo (mem_todo_task statics t tasks)
  exact ⟨hn, hrun, by simpa [Node.isLlm] using hkind⟩

end Round
end Steps

/-! ## 5. What a step does -/

/-- Whether what a node carries to its next step, if it has one, is what some outputs give. -/
def Sure (s : Setup) (o : Store String) (n : Node) : Option Step → Prop
  | none => True
  | some step => Carries s o n step

/-- What a step does as far as the board shows it. -/
inductive Moves (s : Setup) : Snapshot → Snapshot → Prop where
  | finishes {x : Execution} {idle : Nat}
      (hall : ∀ n ∈ s.nodes, n.id ∈ s.graph.settled x.rounds.length) :
      Moves s ⟨x, .between idle⟩ ⟨x.moveWorkflow .completed, .ended none⟩
  | opens {x y : Execution} {idle : Nat} {statics : List Node} {tasks : Multiset Task}
      (hwave : s.graph.wave x.rounds.length ≠ [])
      (hboard : y.board = Board.start
        { x.board with rounds := x.rounds ++ [(s.graph.wave x.rounds.length).map (·.id)] }
        (s.graph.wave x.rounds.length))
      (hbusy : busy statics tasks = s.graph.wave x.rounds.length)
      (hkind : ∀ p ∈ todo statics tasks, p.1.isStatic = p.2.isNone)
      (hfirst : ∀ p ∈ todo statics tasks, ∀ step ∈ p.2, ∃ heldBack, step = .begin heldBack) :
      Moves s ⟨x, .between idle⟩ ⟨y, .round statics tasks []⟩
  | stalls {x : Execution} {idle : Nat} (hnil : s.graph.wave x.rounds.length = [])
      (hleft : ∃ n ∈ s.nodes, n.id ∉ s.graph.settled x.rounds.length)
      (hidle : idle ≤ s.config.grace) : Moves s ⟨x, .between idle⟩ ⟨x, .between (idle + 1)⟩
  | deadlocks {x : Execution} {idle : Nat} (hnil : s.graph.wave x.rounds.length = [])
      (hleft : ∃ n ∈ s.nodes, n.id ∉ s.graph.settled x.rounds.length)
      (hidle : s.config.grace < idle) :
      Moves s ⟨x, .between idle⟩
        ⟨x.moveWorkflow .failed, .ended (some (.deadlock (s.deadlockAfter x.rounds.length)))⟩
  | sleeps {x y : Execution} {statics : List Node} {tasks tasks' : Multiset Task}
      {faults : List RunFault} {n : Node} {step step' : Step} {rest : Multiset (Node × Option Step)}
      (htodo : todo statics tasks = (n, some step) ::ₘ rest)
      (htodo' : todo statics tasks' = (n, some step') ::ₘ rest) (hboard : y.board = x.board)
      (hleft : step'.left < step.left)
      (hcarries : Carries s x.outputs n step → Carries s x.outputs n step') :
      Moves s ⟨x, .round statics tasks faults⟩ ⟨y, .round statics tasks' faults⟩
  | completes {x y : Execution} {statics statics' : List Node} {tasks tasks' : Multiset Task}
      {faults : List RunFault} {n : Node} {o : Option Step} {text : String}
      (htodo : todo statics tasks = (n, o) ::ₘ todo statics' tasks')
      (hboard : y.board = x.board.set n.id (.completed text))
      (hresult : Sure s x.outputs n o → s.resultFor x.outputs n = .ok text) :
      Moves s ⟨x, .round statics tasks faults⟩ ⟨y, .round statics' tasks' faults⟩
  | fails {x y : Execution} {statics statics' : List Node} {tasks tasks' : Multiset Task}
      {faults : List RunFault} {n : Node} {o : Option Step} {cause : NodeCause}
      (htodo : todo statics tasks = (n, o) ::ₘ todo statics' tasks')
      (hboard : y.board = x.board.set n.id (.failed cause.message))
      (hresult : Sure s x.outputs n o → s.resultFor x.outputs n = .error cause) :
      Moves s ⟨x, .round statics tasks faults⟩
        ⟨y, .round statics' tasks' (faults ++ [.node { node := n.id, cause := some cause }])⟩
  | settles {x : Execution} : Moves s ⟨x, .round [] 0 []⟩ ⟨x, .between 0⟩
  | stops {x : Execution} {statics : List Node} {tasks : Multiset Task} {f : RunFault}
      {faults : List RunFault} :
      Moves s ⟨x, .round statics tasks (f :: faults)⟩ ⟨x.moveWorkflow .failed, .ended (some f)⟩

section Inversion

open Snapshot

variable {s : Setup} {m m' : Snapshot}

theorem map_node_firstTasks (heldBack : Bool) (nodes : List Node) :
    (firstTasks heldBack nodes).map (·.node) = nodes := by
  cases nodes with
  | nil => rfl
  | cons n rest => simp [firstTasks, Function.comp_def]

theorem begin_of_mem_firstTasks {heldBack : Bool} {nodes : List Node} {t : Task}
    (h : t ∈ firstTasks heldBack nodes) : t.node ∈ nodes ∧ ∃ held, t.step = .begin held := by
  refine ⟨by rw [← map_node_firstTasks heldBack nodes]; exact List.mem_map_of_mem h, ?_⟩
  cases nodes with
  | nil => exact absurd h List.not_mem_nil
  | cons n rest =>
    rcases List.mem_cons.1 h with rfl | h
    · exact ⟨heldBack, rfl⟩
    · obtain ⟨k, _, rfl⟩ := List.mem_map.1 h
      exact ⟨true, rfl⟩

theorem busy_firstTasks (heldBack : Bool) (nodes : List Node) :
    busy (nodes.filter (·.isStatic)) (firstTasks heldBack (nodes.filter (·.isLlm)) : List Task) =
      nodes := by
  have hstatic : ((nodes.filter (·.isStatic)).map fun n => ((n, none) : Node × Option Step)).map
      (·.1) = nodes.filter (·.isStatic) := by
    simp [Function.comp_def]
  have hllm : ((firstTasks heldBack (nodes.filter (·.isLlm))).map
      fun t => ((t.node, some t.step) : Node × Option Step)).map (·.1) =
      nodes.filter (·.isLlm) := by
    rw [List.map_map]
    exact map_node_firstTasks heldBack _
  rw [busy, todo, Multiset.map_coe, Multiset.coe_add, Multiset.map_coe, List.map_append, hstatic,
    hllm]
  exact Multiset.coe_eq_coe.2 (List.filter_append_perm _ _)

theorem mem_todo {statics : List Node} {tasks : Multiset Task} {p : Node × Option Step} :
    p ∈ todo statics tasks ↔
      (p.1 ∈ statics ∧ p.2 = none) ∨ ∃ t ∈ tasks, p = (t.node, some t.step) := by
  obtain ⟨n, o⟩ := p
  simp only [todo, Multiset.mem_add, Multiset.mem_coe, List.mem_map, Multiset.mem_map,
    Prod.mk.injEq]
  constructor
  · rintro (⟨n, hn, rfl, rfl⟩ | ⟨t, ht, rfl, rfl⟩)
    · exact Or.inl ⟨hn, rfl⟩
    · exact Or.inr ⟨t, ht, rfl, rfl⟩
  · rintro (⟨hn, rfl⟩ | ⟨t, ht, rfl, rfl⟩)
    · exact Or.inl ⟨n, hn, rfl, rfl⟩
    · exact Or.inr ⟨t, ht, rfl, rfl⟩

/-- **The next wave is opened** when there is one. -/
theorem Moves.opened {x : Execution} {idle : Nat} (hs : Distinct s.nodes)
    (h : Layered s x.board x.rounds.length) (hwave : s.graph.wave x.rounds.length ≠ []) :
    Moves s ⟨x, .between idle⟩ (opened s (s.graph.wave x.rounds.length) x) := by
  have hpend : ∀ n ∈ s.graph.wave x.rounds.length, x.board.Shows n.id .pending := by
    intro n hn
    exact h.pending_of_mem_wave rfl hn
  obtain ⟨hnone, hboard⟩ := RunState.startAll_of_pending
    (x := { x with rounds := x.rounds ++ [(s.graph.wave x.rounds.length).map (·.id)] })
    (hs.sublist (s.graph.wave_sublist _)) hpend
  rw [Snapshot.opened]
  rcases hstart : RunState.startAll (s.graph.wave x.rounds.length)
    { x with rounds := x.rounds ++ [(s.graph.wave x.rounds.length).map (·.id)] } with ⟨y, fault⟩
  rw [hstart] at hnone hboard
  subst hnone
  refine .opens hwave hboard (busy_firstTasks _ _) ?_ ?_
  · intro p hp
    rcases mem_todo.1 hp with ⟨hmem, ho⟩ | ⟨t, ht, rfl⟩
    · rw [ho, (List.mem_filter.1 hmem).2]
      rfl
    · have hmem := (begin_of_mem_firstTasks ht).1
      simpa [Node.isLlm] using (List.mem_filter.1 hmem).2
  · intro p hp step hstep
    rcases mem_todo.1 hp with ⟨_, ho⟩ | ⟨t, ht, rfl⟩
    · rw [ho] at hstep
      cases hstep
    · cases hstep
      exact (begin_of_mem_firstTasks ht).2

/-- **What a step does** to a run that is what it should be. -/
theorem Sound.moves (hs : Distinct s.nodes) (h : Sound s m) (hn : Next s m m') : Moves s m m' := by
  cases hn with
  | @finishes x idle hun =>
    cases h with
    | between hrun h hidle =>
      refine .finishes fun n hn => ?_
      by_contra hnot
      rw [(hasUnresolved_iff_not_settled hs h).2 ⟨n, hn, hnot⟩] at hun
      cases hun
  | opens hun hrunnable =>
    cases h with
    | between hrun h hidle =>
      rw [runnable_eq_wave hs h] at hrunnable ⊢
      exact Moves.opened hs h hrunnable
  | stalls hun hnil hidle =>
    cases h with
    | between hrun h _ =>
      rw [runnable_eq_wave hs h] at hnil
      exact .stalls hnil ((hasUnresolved_iff_not_settled hs h).1 hun) hidle
  | deadlocks hun hnil hgrace =>
    cases h with
    | between hrun h hidle =>
      rw [runnable_eq_wave hs h] at hnil
      rw [deadlock_eq_deadlockAfter h]
      exact .deadlocks hnil ((hasUnresolved_iff_not_settled hs h).1 hun) hgrace
  | @resolves x n rest tasks =>
    cases h with
    | round hrun hk h hkind hu =>
      have htodo := todo_cons_left n rest tasks
      have hn : n ∈ busy (n :: rest) tasks := by
        rw [busy_of_todo htodo]
        exact Multiset.mem_cons_self _ _
      have hstatic : n.isStatic = true :=
        hkind (n, none) (by rw [htodo]; exact Multiset.mem_cons_self _ _)
      have hres := Execution.resolveStatic_resolved (s := s) (hu.running n hn).2 hstatic
      generalize x.resolveStatic s n = r at hres ⊢
      cases hres with
      | completes hboard hresult => exact .completes htodo hboard fun _ => hresult
      | fails hboard hresult => exact .fails htodo hboard fun _ => hresult
  | @works x t tasks faults =>
    cases h with
    | round hrun hk h hkind hu =>
      have htodo := todo_cons_right [] t tasks
      have hn : t.node ∈ busy [] (t ::ₘ tasks) := by
        rw [busy_of_todo htodo]
        exact Multiset.mem_cons_self _ _
      have hllm : t.node.isLlm = true := by
        have hstatic := hkind (t.node, some t.step) (by rw [htodo]; exact Multiset.mem_cons_self _ _)
        simpa [Node.isLlm] using hstatic
      have hwork := Execution.perform_worked (s := s) (hu.running t.node hn).2 hllm
      generalize x.perform s t = r at hwork ⊢
      cases hwork with
      | @sleeps y z hboard hnode hleft hcarries =>
        simp only [Pace.tasks, Pace.faults, List.append_nil, Multiset.singleton_add]
        refine .sleeps htodo ?_ hboard hleft hcarries
        rw [todo_cons_right, hnode]
      | completes hboard hresult =>
        simp only [Pace.tasks, Pace.faults, List.append_nil, Multiset.zero_add]
        exact .completes htodo hboard hresult
      | fails hboard hresult =>
        simp only [Pace.tasks, Pace.faults, Multiset.zero_add]
        exact .fails htodo hboard hresult
  | settles => exact .settles
  | stops => exact .stops

/-! ## 6. Every step keeps it -/

/-- A round goes on when a busy node has come to its end. -/
theorem Layered.ends {x y : Execution} {k : Nat} {n : Node} {o : Option Step} {st : Standing}
    {statics statics' : List Node} {tasks tasks' : Multiset Task} {faults faults' : List RunFault}
    (h : Layered s x.board k) (hrun : x.workflow.phase = .running) (hk : x.rounds.length = k + 1)
    (hkind : ∀ p ∈ todo statics tasks, p.1.isStatic = p.2.isNone)
    (hu : Underway s x.board k (n ::ₘ busy statics' tasks') faults)
    (htodo : todo statics tasks = (n, o) ::ₘ todo statics' tasks')
    (hboard : y.board = x.board.set n.id st) (hst : st ≠ .pending)
    (hu' : Underway s (x.board.set n.id st) k (busy statics' tasks') faults') :
    Sound s ⟨y, .round statics' tasks' faults'⟩ := by
  obtain ⟨hwave, hshow⟩ := hu.running n (Multiset.mem_cons_self n _)
  have hworkflow : y.workflow = x.workflow := congrArg Board.workflow hboard
  have hrounds : y.rounds = x.rounds := congrArg Board.rounds hboard
  refine .round (hworkflow ▸ hrun) (hrounds ▸ hk) (hboard ▸ h.set hk hwave hshow hst) ?_
    (hboard ▸ hu')
  intro p hp
  exact hkind p (htodo ▸ Multiset.mem_cons_of_mem hp)

/-- **Every step keeps what a run is.** -/
theorem Sound.next (hs : Distinct s.nodes) (h : Sound s m) (hn : Next s m m') : Sound s m' := by
  cases h.moves hs hn with
  | @finishes x idle hall =>
    cases h with
    | between hrun h hidle =>
      have hrounds := x.rounds_moveWorkflow .completed
      refine .completed (Execution.workflow_moveWorkflow (by rw [hrun]; decide)) ?_ ?_
      · rw [hrounds]
        exact h.moveWorkflow .completed
      · rwa [hrounds]
  | @opens x y idle statics tasks hwave hboard hbusy hkind hfirst =>
    cases h with
    | between hrun h hidle =>
      have hpend : ∀ n ∈ s.graph.wave x.rounds.length, x.board.Shows n.id .pending := by
        intro n hn
        exact h.pending_of_mem_wave rfl hn
      refine .round ?_ ?_ (hboard ▸ h.start rfl hwave) hkind ?_
      · rw [Execution.workflow_of_start hboard]
        exact hrun
      · rw [Execution.rounds_of_start hboard]
        exact List.length_append
      · rw [hbusy, hboard]
        exact Underway.start hs hpend
  | stalls hnil hleft hgrace =>
    cases h with
    | between hrun h hidle => exact .between hrun h fun _ => hnil
  | @deadlocks x idle hnil hleft hgrace =>
    cases h with
    | between hrun h hidle =>
      have hrounds := x.rounds_moveWorkflow .failed
      rw [← hrounds]
      refine .deadlocked (Execution.workflow_moveWorkflow (by rw [hrun]; decide)) ?_ ?_ ?_
      · rw [hrounds]
        exact h.moveWorkflow .failed
      · rwa [hrounds]
      · rwa [hrounds]
  | @sleeps x y statics tasks tasks' faults n step step' rest htodo htodo' hboard hleft hcarries =>
    cases h with
    | round hrun hk h hkind hu =>
      have hworkflow : y.workflow = x.workflow := congrArg Board.workflow hboard
      have hrounds : y.rounds = x.rounds := congrArg Board.rounds hboard
      have hbusy : busy statics tasks' = busy statics tasks := by
        rw [busy, busy, htodo, htodo', Multiset.map_cons, Multiset.map_cons]
      refine .round (hworkflow ▸ hrun) (hrounds ▸ hk) (hboard ▸ h) ?_ (hbusy ▸ hboard ▸ hu)
      rw [htodo] at hkind
      intro p hp
      rcases Multiset.mem_cons.1 (htodo' ▸ hp) with rfl | hp
      · exact hkind (n, some step) (Multiset.mem_cons_self _ _)
      · exact hkind p (Multiset.mem_cons_of_mem hp)
  | completes htodo hboard hresult =>
    cases h with
    | round hrun hk h hkind hu =>
      rw [busy_of_todo htodo] at hu
      exact h.ends hrun hk hkind hu htodo hboard (by simp) (hu.completes _)
  | fails htodo hboard hresult =>
    cases h with
    | round hrun hk h hkind hu =>
      rw [busy_of_todo htodo] at hu
      exact h.ends hrun hk hkind hu htodo hboard (by simp) (hu.fails _)
  | settles =>
    cases h with
    | round hrun hk h hkind hu =>
      refine .between hrun ?_ (by simp)
      rw [hk]
      exact h.succ hu.completed_of_done
  | @stops x statics tasks f faults =>
    cases h with
    | round hrun hk h hkind hu =>
      refine .failed (Execution.workflow_moveWorkflow (by rw [hrun]; decide)) ?_
        (h.moveWorkflow .failed) (hu.moveWorkflow .failed)
      rwa [Execution.rounds_moveWorkflow]

/-- **At every point of every course a run is what it should be.** -/
theorem Snapshot.Leads.sound (hs : Distinct s.nodes) {past : List Snapshot}
    (h : Leads s (Snapshot.initial s) past m) : Sound s m := by
  induction h with
  | refl => exact sound_initial hs
  | pass moment _ ih => exact ih.atMoment moment
  | next _ hn ih => exact ih.next hs hn

end Inversion
end PromptChain
