/-
# Outputs and phases belong together

At every moment of a run, whatever its schedule and however it ends, the outputs that are stored
are those of the completed nodes, no output is replaced or removed later, whatever has left the
pending phase had its dependencies completed before, and every node has gone through the phases in
their order (`Consistent`).

A step stores at most one output more, at the end, and only that of a running node
(`Moves.outputs`).  A running node has left the pending phase, so its dependencies are completed
and stored (`Sound.dependencies_completed`): in the order of completion every output comes after
those it was made from (`ordered_of_leads`).
-/
import PromptChain.Proofs.Run.Layers
import PromptChain.Proofs.Script.Loaded

namespace PromptChain

open PromptChain.Graph Snapshot

/-! ## 1. What is to hold -/

/-- The phases from which and to which the moves of a lifecycle led. -/
def Lifecycle.path (l : Lifecycle) : List (Phase × Phase) :=
  l.history.map fun v => (v.source, v.target)

/-- Whether a lifecycle has gone from pending to running and on to one of the ends, or a part of
that way, and stands where it has come to. -/
def Lifecycle.Regular (l : Lifecycle) : Prop :=
  (l.path <+: [(.pending, .running), (.running, .completed)] ∨
    l.path <+: [(.pending, .running), (.running, .failed)]) ∧
  l.phase = (l.path.getLast?.map (·.2)).getD .pending

/-- The faults that a run has met. -/
def Stage.faults : Stage → List RunFault
  | between _ => []
  | round _ _ faults => faults
  | ended fault => fault.toList

/-- What holds of the phases and the outputs of a run at a moment. -/
structure Consistent (s : Setup) (m : Snapshot) : Prop where
  /-- There is one lifecycle for every node. -/
  ids : m.execution.nodes.ids = s.nodes.map (·.id)
  /-- The outputs are those of the completed nodes. -/
  stored : ∀ id, id ∈ m.execution.outputs.ids ↔ m.execution.phase? id = some .completed
  /-- There is one output for every id. -/
  once : m.execution.outputs.ids.Nodup
  /-- Every output stays, and stays as it is. -/
  kept : ∀ {past : List Snapshot} {later : Snapshot}, Leads s m past later →
    m.execution.outputs.entries <+: later.execution.outputs.entries
  /-- The dependencies of a node that is not pending are completed. -/
  dependencies : ∀ n ∈ s.nodes, m.execution.phase? n.id ≠ some .pending →
    ∀ d ∈ n.dependencies, m.execution.phase? d = some .completed
  /-- They are completed before the node leaves the pending phase. -/
  before : ∀ {later : Snapshot}, Next s m later → ∀ n ∈ s.nodes,
    m.execution.phase? n.id = some .pending → later.execution.phase? n.id ≠ some .pending →
    ∀ d ∈ n.dependencies, m.execution.phase? d = some .completed
  /-- Every lifecycle has gone the way of the phases. -/
  history : ∀ n ∈ s.nodes, ∃ l, m.execution.nodes.get? n.id = some l ∧ l.Regular
  /-- No move was rejected. -/
  unrejected : ∀ r, RunFault.rejected r ∉ m.stage.faults
  /-- In the order of completion a node comes after all its dependencies. -/
  order : ∀ n ∈ s.nodes, ∀ before after, m.execution.outputs.ids = before ++ n.id :: after →
    ∀ d ∈ n.dependencies, d ∈ before

/-! ## 2. At a moment -/

theorem Standing.regular (st : Standing) : st.lifecycle.Regular := by
  refine ⟨?_, by cases st <;> rfl⟩
  cases st with
  | pending => exact Or.inl List.nil_prefix
  | running => exact Or.inl ⟨[(.running, .completed)], rfl⟩
  | completed output => exact Or.inl (List.prefix_refl _)
  | failed reason => exact Or.inr (List.prefix_refl _)

section Moment

variable {s : Setup} {m m' : Snapshot}

/-- The layers at a moment, and how many rounds there were. -/
theorem Sound.layered (h : Sound s m) :
    ∃ k, Layered s m.execution.board k ∧ m.execution.rounds.length ≤ k + 1 := by
  cases h with
  | between hrun h hidle => exact ⟨_, h, Nat.le_succ _⟩
  | round hrun hk h hkind hu => exact ⟨_, h, Nat.le_of_eq hk⟩
  | completed hrun h hall => exact ⟨_, h, Nat.le_succ _⟩
  | deadlocked hrun h hnil hleft => exact ⟨_, h, Nat.le_succ _⟩
  | failed hrun hk h hu => exact ⟨_, h, Nat.le_of_eq hk⟩

/-- A node is pending exactly when the rounds so far have left it out. -/
theorem Sound.pending_iff (h : Sound s m) {n : Node} (hn : n ∈ s.nodes) :
    m.execution.phase? n.id = some .pending ↔
      n.id ∉ s.graph.settled m.execution.rounds.length := by
  obtain ⟨k, hk, -⟩ := h.layered
  rw [hk.phase?_eq_pending_iff]
  exact and_iff_right (List.mem_map_of_mem hn)

/-- **The dependencies of a node that is not pending are completed.** -/
theorem Sound.dependencies_completed (hs : Distinct s.nodes) (h : Sound s m) {n : Node}
    (hn : n ∈ s.nodes) (hleft : m.execution.phase? n.id ≠ some .pending) {d : String}
    (hd : d ∈ n.dependencies) : m.execution.phase? d = some .completed := by
  obtain ⟨k, hk, hlength⟩ := h.layered
  rw [ne_eq, h.pending_iff hn, not_not] at hleft
  obtain ⟨j, hj, n', hn', hid⟩ := exists_wave_of_mem_settled hleft
  have heq : n' = n := hs.eq_of_id_eq (mem_wave.1 hn').1 hn hid
  have hset : d ∈ s.graph.settled k :=
    settled_mono (by omega) (dependencies_settled hn' (heq ▸ hd))
  obtain ⟨output, hshow⟩ := hk.completed d hset
  exact Execution.phase?_of_shows hshow

/-- **No move was rejected**: what a run meets is a node that failed, or a deadlock. -/
theorem Sound.unrejected (h : Sound s m) (r : Rejection) :
    RunFault.rejected r ∉ m.stage.faults := by
  -- a fault of a round names a node that failed
  have hround : ∀ {b : Board} {k : Nat} {left : Multiset Node} {faults : List RunFault},
      Underway s b k left faults → RunFault.rejected r ∉ faults := by
    intro b k left faults hu hmem
    obtain ⟨n, _, cause, hf, _⟩ := hu.failed _ hmem
    cases hf
  cases h with
  | between hrun h hidle => exact List.not_mem_nil
  | round hrun hk h hkind hu => exact hround hu
  | completed hrun h hall => exact List.not_mem_nil
  | deadlocked hrun h hnil hleft => simp [Stage.faults]
  | failed hrun hk h hu =>
    intro hmem
    obtain rfl := List.mem_singleton.1 hmem
    exact hround hu List.mem_cons_self

/-! ## 3. From moment to moment -/

/-- **A step stores at most one output more**, that of a running node, and at the end. -/
theorem Moves.outputs (h : Sound s m) (hm : Moves s m m') :
    m'.execution.outputs.entries = m.execution.outputs.entries ∨
      ∃ n ∈ s.nodes, ∃ output, m.execution.board.Shows n.id .running ∧
        m'.execution.outputs.entries = m.execution.outputs.entries ++ [(n.id, output)] := by
  cases hm with
  | @finishes x idle hall =>
    exact Or.inl (congrArg Store.entries (x.outputs_moveWorkflow .completed))
  | opens hwave hboard hbusy hkind hfirst =>
    exact Or.inl (congrArg Store.entries (Execution.outputs_of_start hboard))
  | stalls hnil hleft hidle => exact Or.inl rfl
  | @deadlocks x idle hnil hleft hidle =>
    exact Or.inl (congrArg Store.entries (x.outputs_moveWorkflow .failed))
  | sleeps htodo htodo' hboard hleft hcarries =>
    exact Or.inl (congrArg (·.outputs.entries) hboard)
  | completes htodo hboard hresult =>
    cases h with
    | round hrun hk h hkind hu =>
      obtain ⟨hwave, hshow⟩ := hu.running _ (by
        rw [busy_of_todo htodo]
        exact Multiset.mem_cons_self _ _)
      exact Or.inr ⟨_, (mem_wave.1 hwave).1, _, hshow,
        (congrArg (·.outputs.entries) hboard).trans (Board.outputs_entries_set hshow.2)⟩
  | fails htodo hboard hresult => exact Or.inl (congrArg (·.outputs.entries) hboard)
  | settles => exact Or.inl rfl
  | @stops x statics tasks f faults =>
    exact Or.inl (congrArg Store.entries (x.outputs_moveWorkflow .failed))

/-- **An output that is stored stays.** -/
theorem Sound.outputs_prefix (hs : Distinct s.nodes) (h : Sound s m) {past : List Snapshot}
    (hl : Leads s m past m') :
    Sound s m' ∧ m.execution.outputs.entries <+: m'.execution.outputs.entries := by
  induction hl with
  | refl => exact ⟨h, List.prefix_refl _⟩
  | pass moment _ ih => exact ⟨ih.1.atMoment moment, ih.2⟩
  | next _ hn ih =>
    obtain ⟨hsound, hpre⟩ := ih
    refine ⟨hsound.next hs hn, hpre.trans ?_⟩
    rcases (hsound.moves hs hn).outputs hsound with heq | ⟨n, _, output, _, heq⟩
    · exact heq ▸ List.prefix_refl _
    · rw [heq]
      exact List.prefix_append _ _

/-- **What a node reads stays as it is**, once the node has left the pending phase. -/
theorem Sound.reads_kept (hs : Distinct s.nodes) (h : Sound s m) {past : List Snapshot}
    (hl : Leads s m past m') {n : Node} (hn : n ∈ s.nodes)
    (hleft : m.execution.phase? n.id ≠ some .pending) :
    ∀ d ∈ n.dependencies, ∃ output, m.execution.outputs.get? d = some output ∧
      m'.execution.outputs.get? d = some output := by
  intro d hd
  obtain ⟨k, hk, -⟩ := h.layered
  obtain ⟨output, hshow⟩ := (Execution.phase?_eq_completed_iff hk.tidy).1
    (h.dependencies_completed hs hn hleft hd)
  have hget : m.execution.outputs.get? d = some output := hshow.2
  obtain ⟨hsound, more, hmore⟩ := h.outputs_prefix hs hl
  obtain ⟨j, hj, -⟩ := hsound.layered
  have hmem : (d, output) ∈ m.execution.outputs.entries :=
    (Store.mem_entries_iff hk.tidy.nodup).2 hget
  exact ⟨output, hget,
    (Store.mem_entries_iff hj.tidy.nodup).1 (hmore ▸ List.mem_append_left more hmem)⟩

/-- A step changes the rounds only when it opens one, with the next wave. -/
theorem Moves.rounds (hm : Moves s m m') :
    m'.execution.rounds = m.execution.rounds ∨
      (∃ idle, m.stage = .between idle) ∧ m'.execution.rounds = m.execution.rounds ++
        [(s.graph.wave m.execution.rounds.length).map (·.id)] := by
  cases hm with
  | @finishes x idle hall => exact Or.inl (x.rounds_moveWorkflow .completed)
  | opens hwave hboard hbusy hkind hfirst =>
    exact Or.inr ⟨⟨_, rfl⟩, Execution.rounds_of_start hboard⟩
  | stalls hnil hleft hidle => exact Or.inl rfl
  | @deadlocks x idle hnil hleft hidle => exact Or.inl (x.rounds_moveWorkflow .failed)
  | sleeps htodo htodo' hboard hleft hcarries => exact Or.inl (congrArg Board.rounds hboard)
  | completes htodo hboard hresult => exact Or.inl (congrArg Board.rounds hboard)
  | fails htodo hboard hresult => exact Or.inl (congrArg Board.rounds hboard)
  | settles => exact Or.inl rfl
  | @stops x statics tasks f faults => exact Or.inl (x.rounds_moveWorkflow .failed)

/-- **A step begins a node only when the node's dependencies are completed.** -/
theorem Sound.begun_after_dependencies (hs : Distinct s.nodes) (h : Sound s m)
    (hn : Next s m m') {n : Node} (hmem : n ∈ s.nodes)
    (hpend : m.execution.phase? n.id = some .pending)
    (hleft : m'.execution.phase? n.id ≠ some .pending) {d : String} (hd : d ∈ n.dependencies) :
    m.execution.phase? d = some .completed := by
  rw [h.pending_iff hmem] at hpend
  rw [ne_eq, (h.next hs hn).pending_iff hmem, not_not] at hleft
  rcases (h.moves hs hn).rounds with hsame | ⟨⟨idle, hstage⟩, hrounds⟩
  · exact absurd (hsame ▸ hleft) hpend
  · rw [hrounds, List.length_append, List.length_singleton] at hleft
    have hwave := mem_wave_of_settled hs hmem hpend hleft
    obtain ⟨x, stage⟩ := m
    subst hstage
    cases h with
    | between hrun h hidle =>
      obtain ⟨output, hshow⟩ := h.completed_of_mem_wave hwave hd
      exact Execution.phase?_of_shows hshow

/-! ## 4. Along a course -/

/-- Whether in the order of completion every node comes after its dependencies. -/
def Ordered (s : Setup) (ids : List String) : Prop :=
  ∀ n ∈ s.nodes, ∀ before after, ids = before ++ n.id :: after → ∀ d ∈ n.dependencies, d ∈ before

/-- An id may come last when its dependencies are there. -/
theorem Ordered.concat {ids : List String} (h : Ordered s ids) (hs : Distinct s.nodes) {n : Node}
    (hn : n ∈ s.nodes) (hdeps : ∀ d ∈ n.dependencies, d ∈ ids) : Ordered s (ids ++ [n.id]) := by
  intro k hk before after heq d hd
  rcases List.eq_nil_or_concat after with rfl | ⟨rest, last, rfl⟩
  · obtain ⟨rfl, hid⟩ := List.append_inj' heq rfl
    rw [← hs.eq_of_id_eq hn hk (List.singleton_inj.1 hid)] at hd
    exact hdeps d hd
  · rw [List.concat_eq_append, ← List.cons_append, ← List.append_assoc] at heq
    exact h k hk before rest (List.append_inj' heq rfl).1 d hd

/-- **Along every course every output comes after those it was made from.** -/
theorem ordered_of_leads (hs : Distinct s.nodes) {past : List Snapshot}
    (h : Leads s (Snapshot.initial s) past m) : Ordered s m.execution.outputs.ids := by
  induction h with
  | refl =>
    intro n _ before after heq
    rw [show (Snapshot.initial s).execution.outputs.ids = [] from rfl] at heq
    exact absurd heq (by simp)
  | pass moment _ ih => exact ih
  | @next past m m' hl hn ih =>
    have hsound := hl.sound hs
    rcases (hsound.moves hs hn).outputs hsound with heq | ⟨n, hmem, output, hshow, heq⟩
    · rw [Store.ids, heq]
      exact ih
    · rw [Store.ids, heq, List.map_append]
      refine ih.concat hs hmem fun d hd => ?_
      obtain ⟨k, hk, -⟩ := hsound.layered
      refine (Execution.mem_outputs_ids_iff hk.tidy).2 (hsound.dependencies_completed hs hmem ?_ hd)
      intro hpend
      cases Execution.phase_eq_of_shows hshow hpend

end Moment

/-- **At every point of every course of a run, and whenever and however it is stopped, its phases
and its outputs belong together.**  Each suspension of a run, under whatever schedule, and each end
of it, cancelled or not, is such a point. -/
theorem run_consistent {s : Setup} (hs : Distinct s.nodes) :
    (∀ {past : List Snapshot} {m : Snapshot}, Leads s (Snapshot.initial s) past m →
      Consistent s m) ∧
    (∀ {st : RunState}, RunState.Reachable s st → Consistent s st.snapshot) ∧
    ∀ limit, Consistent s (RunState.drive s limit).state.snapshot := by
  have hall : ∀ {past : List Snapshot} {m : Snapshot}, Leads s (Snapshot.initial s) past m →
      Consistent s m := by
    intro past m h
    have hsound := h.sound hs
    obtain ⟨k, hk, -⟩ := hsound.layered
    constructor
    · exact hk.tidy.ids
    · exact fun id => Execution.mem_outputs_ids_iff hk.tidy
    · exact hk.tidy.nodup
    · exact fun hl => (hsound.outputs_prefix hs hl).2
    · exact fun n hn hleft d hd => hsound.dependencies_completed hs hn hleft hd
    · exact fun hn n hmem hpend hleft d hd =>
        hsound.begun_after_dependencies hs hn hmem hpend hleft hd
    · intro n hn
      obtain ⟨st, hst⟩ := hk.tidy.shows n hn
      exact ⟨st.lifecycle, hst.1, st.regular⟩
    · exact hsound.unrejected
    · exact ordered_of_leads hs h
  refine ⟨hall, fun h => ?_, fun limit => ?_⟩
  · obtain ⟨past, -, hl⟩ := RunState.comes_reachable h
    exact hall hl
  · obtain ⟨past, -, hl⟩ := RunState.comes_drive s limit
    exact hall hl

/-- A client that takes a quarter of a second to repeat the prompt after the model's nickname. -/
def echoClient : Client where
  models := [{ nickname := "flash" }]
  transcript := .ok (some [⟨"User", "Hello"⟩])
  answer r := .ok (r.nickname ++ "(" ++ r.prompt ++ ")")
  latency _ := 0.25

/-- A run of a script with that client. -/
def relay : Setup where
  nodes := Script.relayNodes
  client := echoClient
  config := {}
  input := "rain"
  listener := none

/-- The run, cancelled while the client takes its time. -/
theorem run_consistent_relay : Distinct relay.nodes ∧
    (RunState.drive relay (some 0.1)).cancelled = true ∧
    Consistent relay (RunState.drive relay (some 0.1)).state.snapshot :=
  ⟨by decide, by decide +kernel, (run_consistent (by decide)).2.2 _⟩

end PromptChain
