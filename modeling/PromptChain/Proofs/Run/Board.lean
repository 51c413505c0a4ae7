/-
# Where the nodes of a run stand

The flow of a run looks at a part of what an execution holds: the lifecycles of the run and of its
nodes, their outputs, and the rounds so far.  Together they are the board.  What else an execution
holds is noted for others and changes nothing.

On the board of a run every node shows one of four standings, each with just one history: it is
pending, or it runs, or it is completed and its output is stored, or it has failed.  A standing
other than these four, say a completed node without an output, never comes up (`Board.Tidy`).
-/
import PromptChain.Run.Execution
import Mathlib.Data.List.Nodup

namespace PromptChain

/-! ## 1. Standings -/

/-- Where a node stands. -/
inductive Standing where
  | pending
  | running
  | completed (output : String)
  | failed (reason : String)
  deriving DecidableEq

namespace Standing

/-- The phase of a standing. -/
def phase : Standing → Phase
  | pending => .pending
  | running => .running
  | completed _ => .completed
  | failed _ => .failed

/-- The moves that led to a standing. -/
def moves : Standing → List Move
  | pending => []
  | running => [⟨.pending, .running, none⟩]
  | completed _ => [⟨.pending, .running, none⟩, ⟨.running, .completed, none⟩]
  | failed reason => [⟨.pending, .running, none⟩, ⟨.running, .failed, some reason⟩]

/-- The lifecycle of a standing. -/
def lifecycle (st : Standing) : Lifecycle := ⟨st.phase, st.moves⟩

/-- The output that is stored for a node. -/
def output? : Standing → Option String
  | completed output => some output
  | _ => none

/-- A lifecycle and an output belong to one standing. -/
theorem eq_of_lifecycle_eq {a b : Standing} (h : a.lifecycle = b.lifecycle)
    (ho : a.output? = b.output?) : a = b := by
  cases a <;> cases b <;> simp_all [lifecycle, phase, moves, output?]

end Standing

/-! ## 2. Boards -/

/-- What the flow of a run looks at. -/
structure Board where
  workflow : Lifecycle
  nodes : Store Lifecycle
  outputs : Store String
  rounds : List (List String)

/-- The board of an execution. -/
def Execution.board (x : Execution) : Board := ⟨x.workflow, x.nodes, x.outputs, x.rounds⟩

namespace Board

/-- Whether a node shows a standing. -/
def Shows (b : Board) (id : String) (st : Standing) : Prop :=
  b.nodes.get? id = some st.lifecycle ∧ b.outputs.get? id = st.output?

/-- A board on which a node shows another standing. -/
def set (b : Board) (id : String) (st : Standing) : Board :=
  { b with
    nodes := b.nodes.put id st.lifecycle
    outputs := match st.output? with
      | some output => b.outputs.put id output
      | none => b.outputs }

variable {b : Board} {id other : String} {st st' : Standing}

/-- A node shows one standing. -/
theorem Shows.unique (h : b.Shows id st) (h' : b.Shows id st') : st = st' := by
  refine Standing.eq_of_lifecycle_eq ?_ (h.2.symm.trans h'.2)
  exact Option.some.inj (h.1.symm.trans h'.1)

@[simp] theorem rounds_set (b : Board) (id : String) (st : Standing) :
    (b.set id st).rounds = b.rounds := rfl

/-- **A node shows what was set**, unless something was stored for it before. -/
theorem shows_set_self (h : b.outputs.get? id = none) : (b.set id st).Shows id st := by
  refine ⟨Store.get?_put_self _ _ _, ?_⟩
  cases hst : st.output? with
  | none => simpa [set, hst] using h
  | some output => simp [set, hst]

/-- **Setting one node leaves every other alone.** -/
theorem shows_set_ne (h : other ≠ id) : (b.set id st).Shows other st' ↔ b.Shows other st' := by
  simp only [Shows, set, Store.get?_put_ne _ _ h]
  cases st.output? with
  | none => rfl
  | some output => simp only [Store.get?_put_ne _ _ h]

theorem nodes_ids_set (h : id ∈ b.nodes.ids) : (b.set id st).nodes.ids = b.nodes.ids := by
  simp [set, Store.ids_put, h]

/-- Setting a node that has no output stores at most one output more, at the end. -/
theorem outputs_entries_set (h : b.outputs.get? id = none) :
    (b.set id st).outputs.entries = b.outputs.entries ++ (st.output?.map (id, ·)).toList := by
  cases hst : st.output? with
  | none => simp [set, hst]
  | some output =>
    simp only [set, hst, Option.map_some, Option.toList_some]
    exact Store.entries_put_of_not_mem (Store.get?_eq_none_iff.1 h)

theorem mem_nodes_ids_of_shows (h : b.Shows id st) : id ∈ b.nodes.ids :=
  Store.mem_ids_iff.2 ⟨_, h.1⟩

/-! ## 3. Tidy boards -/

/-- Every node shows a standing, no two entries belong to one id, and nothing else is there. -/
structure Tidy (nodes : List Node) (b : Board) : Prop where
  ids : b.nodes.ids = nodes.map (·.id)
  shows : ∀ n ∈ nodes, ∃ st, b.Shows n.id st
  nodup : b.outputs.ids.Nodup
  known : ∀ id ∈ b.outputs.ids, id ∈ nodes.map (·.id)

/-- A board stays tidy when a node without an output is set. -/
theorem Tidy.set {nodes : List Node} (h : b.Tidy nodes) {n : Node} (hn : n ∈ nodes)
    (hout : b.outputs.get? n.id = none) (st : Standing) : (b.set n.id st).Tidy nodes := by
  have hids : (b.set n.id st).outputs.ids = b.outputs.ids ++ (st.output?.map fun _ => n.id).toList := by
    simp only [Store.ids, outputs_entries_set hout, List.map_append]
    cases st.output? <;> rfl
  have hfresh : n.id ∉ b.outputs.ids := Store.get?_eq_none_iff.1 hout
  refine ⟨?_, fun m hm => ?_, ?_, fun id hid => ?_⟩
  · obtain ⟨st', hst'⟩ := h.shows n hn
    rw [nodes_ids_set (mem_nodes_ids_of_shows hst'), h.ids]
  · by_cases heq : m.id = n.id
    · rw [heq]
      exact ⟨st, shows_set_self hout⟩
    · obtain ⟨st', hst'⟩ := h.shows m hm
      exact ⟨st', (shows_set_ne heq).2 hst'⟩
  · rw [hids]
    refine List.Nodup.append h.nodup (by cases st.output? <;> simp) ?_
    intro id hid hnew
    cases hst : st.output? with
    | none => simp [hst] at hnew
    | some output =>
      simp only [hst, Option.map_some, Option.toList_some, List.mem_singleton] at hnew
      exact hfresh (hnew ▸ hid)
  · rw [hids, List.mem_append] at hid
    rcases hid with hid | hid
    · exact h.known id hid
    · cases hst : st.output? with
      | none => simp [hst] at hid
      | some output =>
        simp only [hst, Option.map_some, Option.toList_some, List.mem_singleton] at hid
        exact hid ▸ List.mem_map_of_mem hn

end Board

/-! ## 4. What an execution tells of its board -/

namespace Execution

variable {x : Execution} {nodes : List Node} {id : String} {st : Standing}

/-- Moving the run as a whole leaves everything else alone. -/
theorem moveWorkflow_eq (x : Execution) (p : Phase) :
    x.moveWorkflow p = { x with workflow := (x.moveWorkflow p).workflow } := by
  unfold moveWorkflow
  split <;> rfl

theorem board_moveWorkflow (x : Execution) (p : Phase) :
    (x.moveWorkflow p).board = { x.board with workflow := (x.moveWorkflow p).workflow } :=
  congrArg board (x.moveWorkflow_eq p)

theorem rounds_moveWorkflow (x : Execution) (p : Phase) : (x.moveWorkflow p).rounds = x.rounds :=
  congrArg Board.rounds (x.board_moveWorkflow p)

theorem outputs_moveWorkflow (x : Execution) (p : Phase) :
    (x.moveWorkflow p).outputs = x.outputs :=
  congrArg Board.outputs (x.board_moveWorkflow p)

/-- A run that has begun can be moved to its end. -/
theorem workflow_moveWorkflow {p : Phase} (h : p ∈ x.workflow.phase.next) :
    (x.moveWorkflow p).workflow.phase = p := by
  have hmove : x.workflow.move p = .ok ⟨p, x.workflow.history ++ [⟨x.workflow.phase, p, none⟩]⟩ :=
    Lifecycle.move_eq_ok_iff.2 ⟨h, rfl⟩
  simp only [moveWorkflow, hmove]

theorem phase?_of_shows (h : x.board.Shows id st) : x.phase? id = some st.phase := by
  have hget : x.nodes.get? id = some st.lifecycle := h.1
  simp [phase?, hget, Standing.lifecycle]

theorem phase_eq_of_shows (h : x.board.Shows id st) {p : Phase} (hphase : x.phase? id = some p) :
    st.phase = p :=
  Option.some.inj ((phase?_of_shows h).symm.trans hphase)

theorem isUnresolved_of_shows (h : x.board.Shows id st) :
    x.isUnresolved id = !st.phase.isFinal := by
  have hget : x.nodes.get? id = some st.lifecycle := h.1
  simp [isUnresolved, hget, Lifecycle.isUnresolved, Standing.lifecycle]

/-- What is in a phase is a node, and shows a standing of that phase. -/
theorem exists_shows_of_phase? (h : x.board.Tidy nodes) {p : Phase} (hphase : x.phase? id = some p) :
    id ∈ nodes.map (·.id) ∧ ∃ st, x.board.Shows id st ∧ st.phase = p := by
  obtain ⟨l, hl, -⟩ := Option.map_eq_some_iff.1 hphase
  have hid : id ∈ x.nodes.ids := Store.mem_ids_iff.2 ⟨l, hl⟩
  rw [show x.nodes.ids = _ from h.ids] at hid
  refine ⟨hid, ?_⟩
  obtain ⟨n, hn, rfl⟩ := List.mem_map.1 hid
  obtain ⟨st, hst⟩ := h.shows n hn
  exact ⟨st, hst, phase_eq_of_shows hst hphase⟩

/-- **A node is completed exactly when it shows an output.** -/
theorem phase?_eq_completed_iff (h : x.board.Tidy nodes) :
    x.phase? id = some .completed ↔ ∃ output, x.board.Shows id (.completed output) := by
  constructor
  · intro hphase
    obtain ⟨-, st, hst, heq⟩ := exists_shows_of_phase? h hphase
    cases st with
    | completed output => exact ⟨output, hst⟩
    | _ => cases heq
  · rintro ⟨output, hshow⟩
    exact phase?_of_shows hshow

/-- A node is pending, or running, exactly when it shows that it is. -/
theorem phase?_eq_iff_shows (h : x.board.Tidy nodes) (st : Standing)
    (hst : st = .pending ∨ st = .running) :
    x.phase? id = some st.phase ↔ x.board.Shows id st := by
  refine ⟨fun hphase => ?_, phase?_of_shows⟩
  obtain ⟨-, st', hst', heq⟩ := exists_shows_of_phase? h hphase
  rcases hst with rfl | rfl <;> cases st' <;> first | exact hst' | cases heq

/-- **The ids with an output are those of the completed nodes.** -/
theorem mem_outputs_ids_iff (h : x.board.Tidy nodes) :
    id ∈ x.outputs.ids ↔ x.phase? id = some .completed := by
  rw [phase?_eq_completed_iff h]
  constructor
  · intro hid
    obtain ⟨n, hn, rfl⟩ := List.mem_map.1 (h.known id hid)
    obtain ⟨st, hst⟩ := h.shows n hn
    obtain ⟨output, hout⟩ := Store.mem_ids_iff.1 hid
    have hget : some output = st.output? := hout.symm.trans hst.2
    cases st with
    | completed text => exact ⟨text, hst⟩
    | _ => simp [Standing.output?] at hget
  · rintro ⟨output, hshow⟩
    exact Store.mem_ids_iff.2 ⟨output, hshow.2⟩

/-- The entries of a tidy board are what its nodes show. -/
theorem mem_nodes_entries (hdistinct : (nodes.map (·.id)).Nodup) (h : x.board.Tidy nodes)
    {l : Lifecycle} : (id, l) ∈ x.nodes.entries ↔ x.nodes.get? id = some l :=
  Store.mem_entries_iff (by rw [show x.nodes.ids = _ from h.ids]; exact hdistinct)

/-- **Something is unresolved exactly when a node is.** -/
theorem hasUnresolved_iff (hdistinct : (nodes.map (·.id)).Nodup) (h : x.board.Tidy nodes) :
    x.hasUnresolved = true ↔ ∃ n ∈ nodes, x.isUnresolved n.id = true := by
  simp only [hasUnresolved, List.any_eq_true, Prod.exists]
  constructor
  · rintro ⟨id, l, hmem, hl⟩
    have hget := (mem_nodes_entries hdistinct h).1 hmem
    have hid : id ∈ x.nodes.ids := Store.mem_ids_iff.2 ⟨l, hget⟩
    rw [show x.nodes.ids = _ from h.ids] at hid
    obtain ⟨n, hn, rfl⟩ := List.mem_map.1 hid
    exact ⟨n, hn, by simpa [isUnresolved, hget] using hl⟩
  · rintro ⟨n, hn, hun⟩
    obtain ⟨st, hst⟩ := h.shows n hn
    refine ⟨n.id, st.lifecycle, (mem_nodes_entries hdistinct h).2 hst.1, ?_⟩
    rw [isUnresolved_of_shows hst] at hun
    simpa [Lifecycle.isUnresolved, Standing.lifecycle] using hun

/-- The completed ids are those of the completed nodes. -/
theorem mem_completed_iff (hdistinct : (nodes.map (·.id)).Nodup) (h : x.board.Tidy nodes) :
    id ∈ x.completed ↔ x.phase? id = some .completed := by
  simp only [completed, List.mem_map, List.mem_filter, Prod.exists, beq_iff_eq, phase?,
    Option.map_eq_some_iff]
  constructor
  · rintro ⟨key, l, ⟨hmem, hphase⟩, rfl⟩
    exact ⟨l, (mem_nodes_entries hdistinct h).1 hmem, hphase⟩
  · rintro ⟨l, hget, hphase⟩
    exact ⟨id, l, ⟨(mem_nodes_entries hdistinct h).2 hget, hphase⟩, rfl⟩

end Execution
end PromptChain
