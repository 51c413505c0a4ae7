/-
# Sequential runs

The model nodes of a sequential run take turns, whatever the clock does: wherever the run is
suspended, at most one of them sleeps, and those that come after it in the script are still in the
queue (`RunState.InLine`).  So every state in which a sequential run can be suspended, and every end
it can come to, lies on a course on which nodes take turns (`RunState.Reachable.attained`).

What such a run has done is therefore in turn (`InTurn`): the calls are made in the order of the
rounds and of the script, no two are under way at once, and every node but the first of a round
waits before it is launched, once, when the call before has returned.  When a node has failed,
nothing is done any more, and the nodes after it have done nothing (`Halted`).
-/
import PromptChain.Proofs.Run.Aftermath
import PromptChain.Proofs.Run.Turns

namespace PromptChain

open PromptChain.Graph Snapshot

/-! ## 1. What is in turn -/

/-- How a sequential run stands when a node of its last round has failed, with some nodes of that
round before it and some after it. -/
structure Halted (s : Setup) (trace : List Deed) (m : Snapshot) (earlier : List (List String))
    (round : List String) (before : List Node) (n : Node) (after : List Node) : Prop where
  rounds : m.execution.rounds = earlier ++ [round]
  queue : s.queue round = before ++ n :: after
  /-- All nodes before it have taken their turns.  It was launched and may have made its call, but
  the call has not returned. -/
  turn : ∃ made, made <+: [.calls n.id] ∧ trace = s.rota earlier ++
    (s.turns false before ++ (s.waits (!before.isEmpty) n ++ .launches n.id :: made))
  /-- The nodes after it, and those of which no round was opened, have made no call, and nothing was
  told of them. -/
  untouched : ∀ k ∈ s.nodes, k ∈ after ∨ k.id ∉ m.execution.rounds.flatten →
    k.id ∉ m.execution.calls.map (·.1) ∧
      (s.listener.isSome = true → ∀ e ∈ m.execution.progress, e.node ≠ k.id)
  /-- From there on nothing is done or told, and no round is opened. -/
  still : ∀ {more : List Deed} {m' : Snapshot}, Proceeds s m more m' → more = [] ∧
    m'.execution.calls = m.execution.calls ∧ m'.execution.progress = m.execution.progress ∧
    m'.execution.rounds = m.execution.rounds

/-- Whether what a sequential run has done is in turn. -/
structure InTurn (s : Setup) (trace : List Deed) (m : Snapshot) : Prop where
  /-- It is a beginning of the turns of all model nodes, round by round and in the order of the
  script.  So the first model node of a round does not wait, and every other one waits once, if
  there is a delay, after the call before it has returned and before it is launched. -/
  order : trace <+: s.rota m.execution.rounds
  /-- While a call is under way, nothing is done but that it returns. -/
  untangled : Untangled trace
  /-- The calls of the log are those that were made. -/
  called : m.execution.calls.map (·.1) = trace.filterMap Deed.called?
  /-- They were made in the order of the rounds and of the script. -/
  log : m.execution.calls.map (·.1) <+: (m.execution.rounds.flatMap s.queue).map (·.id)
  /-- They are finished when they have returned. -/
  returned : ∀ id, (∃ c, (id, c) ∈ m.execution.calls ∧ c.finished ≠ none) ↔ .returns id ∈ trace
  /-- All but the last one are finished. -/
  finished : ∀ e ∈ m.execution.calls.dropLast, e.2.finished ≠ none
  /-- The listener hears of the nodes that wait, in their order. -/
  waited : s.listener.isSome = true →
    m.execution.progress.filterMap Event.waited? = trace.filterMap Deed.waited?
  /-- It hears of no model node that has done nothing. -/
  told : s.listener.isSome = true → ∀ e ∈ m.execution.progress,
    OfStatic s m.execution e ∨ ∃ d ∈ trace, d.node = e.node
  /-- When a node has failed, the run is halted there. -/
  failed : ∀ n ∈ s.nodes, m.execution.phase? n.id = some .failed →
    ∃ earlier round before after, Halted s trace m earlier round before n after

section Order

variable {s : Setup} {m m' : Snapshot} {trace more : List Deed} {n : Node}

theorem Setup.untangled_rota (s : Setup) (rounds : List (List String)) :
    Untangled (s.rota rounds) :=
  (untangled_flatMap (fun round => s.untangled_turns false (s.queue round)) rounds).1

theorem Setup.filterMap_called_rota (s : Setup) (rounds : List (List String)) :
    (s.rota rounds).filterMap Deed.called? = (rounds.flatMap s.queue).map (·.id) := by
  induction rounds with
  | nil => rfl
  | cons round rest ih =>
    rw [rota, List.flatMap_cons, List.filterMap_append, filterMap_called_turns, ← rota, ih,
      List.flatMap_cons, List.map_append]

/-- In the turns of some rounds every deed is that of a node of one of them. -/
theorem Setup.mem_flatten_of_mem_rota {rounds : List (List String)} {d : Deed}
    (h : d ∈ s.rota rounds) : d.node ∈ rounds.flatten := by
  obtain ⟨round, hround, hd⟩ := List.mem_flatMap.1 h
  obtain ⟨n, hn, heq⟩ := exists_node_of_mem_turns hd
  rw [heq]
  exact List.mem_flatten_of_mem hround (mem_queue.1 hn).2.1

/-- **What was done is a beginning of all turns.** -/
theorem Recorded.isPrefix (h : Recorded s trace m) : trace <+: s.rota m.execution.rounds := by
  have hround : ∀ {x : Execution} {earlier : List (List String)} {round : List String}
      {tasks : Multiset Task} {faults : List RunFault} {current : List Deed},
      x.rounds = earlier ++ [round] → Position s (s.queue round) tasks faults current →
      s.rota earlier ++ current <+: s.rota x.rounds := by
    intro x earlier round tasks faults current hrounds hpos
    rw [hrounds, Setup.rota_concat]
    exact (List.prefix_append_right_inj _).2 hpos.isPrefix
  cases h with
  | between htrace => exact htrace ▸ List.prefix_refl _
  | round hrounds hpos => exact hround hrounds hpos
  | ended htrace hfault => exact htrace ▸ List.prefix_refl _
  | stopped hrounds hpos honly => exact hround hrounds hpos

/-- **All calls but the last one are finished**: it was made when they had returned. -/
theorem Journal.finished (hbooked : Booked s m) (h : Journal s trace m)
    (huntangled : Untangled trace) : ∀ e ∈ m.execution.calls.dropLast, e.2.finished ≠ none := by
  intro e he
  obtain ⟨rest, last, hcalls⟩ : ∃ rest last, m.execution.calls = rest ++ [last] := by
    rcases List.eq_nil_or_concat m.execution.calls with hnil | ⟨rest, last, hcalls⟩
    · rw [hnil] at he
      exact absurd he List.not_mem_nil
    · exact ⟨rest, last, hcalls.trans List.concat_eq_append⟩
  rw [hcalls, List.dropLast_concat] at he
  have hcalled := h.called
  rw [hcalls, List.map_append, List.map_singleton] at hcalled
  obtain ⟨p, q, rfl, hp, hq⟩ := List.filterMap_eq_append_iff.1 hcalled.symm
  obtain ⟨q₁, d, q₂, rfl, -, hd, -⟩ := List.filterMap_eq_cons_iff.1 hq
  obtain rfl := Deed.called?_eq_some.1 hd
  -- the call was made before the last one
  have hmade : .calls e.1 ∈ p ++ q₁ := by
    have hid : e.1 ∈ p.filterMap Deed.called? := hp ▸ List.mem_map_of_mem he
    obtain ⟨d, hd, heq⟩ := List.mem_filterMap.1 hid
    exact List.mem_append_left _ (Deed.called?_eq_some.1 heq ▸ hd)
  have hall : AllReturned (p ++ q₁) :=
    (huntangled (p ++ q₁) (.calls last.1) q₂ (by simp)).resolve_right (by simp)
  have hreturned : m.execution.hasReturned e.1 = true := by
    rw [h.returned, ← List.append_assoc]
    exact List.mem_append_left _ (hall _ hmade)
  obtain ⟨c, hc, hfinished⟩ := Execution.hasReturned_iff.1 hreturned
  have hmem : (e.1, e.2) ∈ m.execution.calls := hcalls ▸ List.mem_append_left _ he
  exact eq_of_mem_log hbooked.once hmem hc ▸ hfinished

end Order

/-! ## 2. When a node has failed -/

section Failed

variable {s : Setup} {m m' : Snapshot} {trace more current : List Deed} {n : Node}
  {queue : List Node} {tasks : Multiset Task} {faults : List RunFault}

/-- The fault of a round is that of the node whose turn it was. -/
theorem Position.exists_failed (h : Position s queue tasks faults current) {id : String}
    {cause : NodeCause} (hfault : .node { node := id, cause := some cause } ∈ faults) :
    ∃ before k after made, queue = before ++ k :: after ∧ k.id = id ∧ made <+: [.calls k.id] ∧
      current = s.turns false before ++
        (s.waits (!before.isEmpty) k ++ .launches k.id :: made) := by
  cases h with
  | served => exact absurd hfault List.not_mem_nil
  | turn => exact absurd hfault List.not_mem_nil
  | @failed before after k cause' made hqueue hmade =>
    have heq := List.mem_singleton.1 hfault
    rw [RunFault.node.injEq, NodeFailure.mk.injEq] at heq
    exact ⟨before, k, after, made, hqueue, heq.1.symm, hmade, rfl⟩

/-- **A node that has failed was in its turn.** -/
theorem Recorded.exists_failed (hs : Distinct s.nodes) (hsound : Sound s m)
    (h : Recorded s trace m) (hn : n ∈ s.nodes)
    (hfailed : m.execution.phase? n.id = some .failed) :
    ∃ earlier round before after made, m.execution.rounds = earlier ++ [round] ∧
      s.queue round = before ++ n :: after ∧ made <+: [.calls n.id] ∧ trace = s.rota earlier ++
        (s.turns false before ++ (s.waits (!before.isEmpty) n ++ .launches n.id :: made)) := by
  obtain ⟨-, -, -, k, -, cause, hhead⟩ := hsound.fault_of_failed hs hn hfailed
  have hround : ∀ {x : Execution} {earlier : List (List String)} {round : List String}
      {tasks : Multiset Task} {faults : List RunFault} {current : List Deed} {cause : NodeCause},
      x.rounds = earlier ++ [round] → Position s (s.queue round) tasks faults current →
      .node { node := n.id, cause := some cause } ∈ faults →
      ∃ earlier' round before after made, x.rounds = earlier' ++ [round] ∧
        s.queue round = before ++ n :: after ∧ made <+: [.calls n.id] ∧
        s.rota earlier ++ current = s.rota earlier' ++
          (s.turns false before ++ (s.waits (!before.isEmpty) n ++ .launches n.id :: made)) := by
    intro x earlier round tasks faults current cause hrounds hpos hfault
    obtain ⟨before, k, after, made, hqueue, hid, hmade, rfl⟩ := hpos.exists_failed hfault
    have hk : k ∈ s.nodes := (s.queue_sublist round).subset (hqueue ▸ by simp)
    obtain rfl := hs.eq_of_id_eq hk hn hid
    exact ⟨earlier, round, before, after, made, hrounds, hqueue, hmade, rfl⟩
  cases h with
  | between htrace => cases hhead
  | ended htrace hfault =>
    refine absurd ?_ (hfault { node := k.id, cause := some cause })
    simpa [Stage.faults] using hhead
  | round hrounds hpos =>
    obtain ⟨cause, hfault⟩ := hsound.mem_faults_of_failed hs hn hfailed
    exact hround hrounds hpos hfault
  | stopped hrounds hpos honly =>
    obtain ⟨cause, rfl⟩ := honly n hn hfailed
    exact hround hrounds hpos (List.mem_singleton_self _)

/-- **After a fault nothing is done or told**, and no round is opened. -/
theorem Snapshot.Proceeds.still (h : Proceeds s m more m') (hfault : m.stage.faults ≠ []) :
    more = [] ∧ m'.execution.calls = m.execution.calls ∧
      m'.execution.progress = m.execution.progress ∧ m'.execution.rounds = m.execution.rounds := by
  have hall : m'.stage.faults ≠ [] ∧ more = [] ∧ m'.execution.calls = m.execution.calls ∧
      m'.execution.progress = m.execution.progress ∧
      m'.execution.rounds = m.execution.rounds := by
    induction h with
    | refl => exact ⟨hfault, rfl, rfl, rfl, rfl⟩
    | pass moment _ ih => exact ih
    | quiet _ hn hquiet ih =>
      obtain ⟨hfault', rfl, hcalls, hprogress, hrounds⟩ := ih
      cases hn with
      | @stops x statics tasks f faults =>
        exact ⟨List.cons_ne_nil _ _, rfl, (x.calls_moveWorkflow _).trans hcalls,
          (x.progress_moveWorkflow _).trans hprogress, (x.rounds_moveWorkflow _).trans hrounds⟩
      | works => cases hquiet
      | _ => exact absurd rfl hfault'
    | turn _ _ ih => exact absurd rfl ih.1
  exact hall.2

/-- Who has done something up to a node belongs to an earlier round or does not come after it. -/
theorem node_of_mem_halted {earlier : List (List String)} {before : List Node} {made : List Deed}
    {d : Deed} (hmade : made <+: [.calls n.id])
    (hd : d ∈ s.rota earlier ++
      (s.turns false before ++ (s.waits (!before.isEmpty) n ++ .launches n.id :: made))) :
    d.node ∈ earlier.flatten ∨ ∃ k ∈ before ++ [n], d.node = k.id := by
  rcases List.mem_append.1 hd with hd | hd
  · exact Or.inl (Setup.mem_flatten_of_mem_rota hd)
  · have hturn := s.launched_prefix_turn (!before.isEmpty) n hmade
    have hmem : d ∈ s.turns false (before ++ [n]) := by
      rw [Setup.turns_concat]
      exact ((List.prefix_append_right_inj _).2 hturn).subset hd
    exact Or.inr (Setup.exists_node_of_mem_turns hmem)

/-- A node that comes after another in the last round, or of which no round was opened, is in no
earlier round and not before the other. -/
theorem Sound.not_before (hs : Distinct s.nodes) (hsound : Sound s m)
    {earlier : List (List String)} {round : List String} {before after : List Node} {k : Node}
    (hrounds : m.execution.rounds = earlier ++ [round])
    (hqueue : s.queue round = before ++ n :: after) (hk : k ∈ s.nodes)
    (hlater : k ∈ after ∨ k.id ∉ m.execution.rounds.flatten) :
    k.id ∉ earlier.flatten ∧ ∀ j ∈ before ++ [n], j.id ≠ k.id := by
  have hsplit : s.queue round = (before ++ [n]) ++ after := by rw [hqueue]; simp
  have hflatten : m.execution.rounds.flatten = earlier.flatten ++ round := by
    rw [hrounds, List.flatten_append, List.flatten_singleton]
  have hround : ∀ j ∈ (before ++ [n]) ++ after, j ∈ s.nodes ∧ j.id ∈ round := by
    intro j hj
    obtain ⟨hj, hid, -⟩ := Setup.mem_queue.1 (hsplit ▸ hj)
    exact ⟨hj, hid⟩
  rcases hlater with hlater | hlater
  · -- no id is in two rounds, and no node twice in one
    have hids : (earlier.flatten ++ round).Nodup := by
      rw [← hflatten, hsound.flatten_rounds]
      exact nodup_settled hs _
    have hnodup : ((before ++ [n]) ++ after).Nodup :=
      hsplit ▸ (List.Nodup.of_map _ hs).sublist (s.queue_sublist round)
    refine ⟨fun hearlier => ?_, fun j hj hid => ?_⟩
    · have hin := (hround k (List.mem_append_right _ hlater)).2
      exact (List.nodup_append'.1 hids).2.2 hearlier hin
    · obtain rfl := hs.eq_of_id_eq (hround j (List.mem_append_left _ hj)).1 hk hid
      exact (List.nodup_append'.1 hnodup).2.2 hj hlater
  · rw [hflatten, List.mem_append, not_or] at hlater
    refine ⟨hlater.1, fun j hj hid => hlater.2 ?_⟩
    exact hid ▸ (hround j (List.mem_append_left _ hj)).2

/-- **When a node has failed, the run is halted there.** -/
theorem Journal.halted (hs : Distinct s.nodes) (hsound : Sound s m) (h : Journal s trace m)
    (hn : n ∈ s.nodes) (hfailed : m.execution.phase? n.id = some .failed) :
    ∃ earlier round before after, Halted s trace m earlier round before n after := by
  obtain ⟨earlier, round, before, after, made, hrounds, hqueue, hmade, htrace⟩ :=
    h.recorded.exists_failed hs hsound hn hfailed
  have hidle : ∀ k ∈ s.nodes, k ∈ after ∨ k.id ∉ m.execution.rounds.flatten →
      ∀ d ∈ trace, d.node ≠ k.id := by
    intro k hk hlater d hd heq
    obtain ⟨hearlier, hbefore⟩ := hsound.not_before hs hrounds hqueue hk hlater
    rcases node_of_mem_halted hmade (htrace ▸ hd) with hround | ⟨j, hj, hid⟩
    · exact hearlier (heq ▸ hround)
    · exact hbefore j hj (hid.symm.trans heq)
  refine ⟨earlier, round, before, after, hrounds, hqueue, ⟨made, hmade, htrace⟩,
    fun k hk hlater => ⟨fun hcall => ?_, fun hheard e he heq => ?_⟩, fun hmore => ?_⟩
  · rw [h.called] at hcall
    obtain ⟨d, hd, heq⟩ := List.mem_filterMap.1 hcall
    refine hidle k hk hlater d hd ?_
    rw [Deed.called?_eq_some.1 heq]
    rfl
  · rcases h.told hheard e he with ⟨j, hj, hstatic, hid, hround⟩ | ⟨d, hd, hid⟩
    · obtain rfl := hs.eq_of_id_eq hj hk (hid.trans heq)
      rcases hlater with hlater | hlater
      · have hllm : j ∈ s.queue round := hqueue ▸ by simp [hlater]
        have hkind := (Setup.mem_queue.1 hllm).2.2
        simp [Node.isLlm, hstatic] at hkind
      · exact hlater hround
    · exact hidle k hk hlater d hd (hid.trans heq)
  · obtain ⟨-, -, -, k, -, cause, hhead⟩ := hsound.fault_of_failed hs hn hfailed
    refine hmore.still fun hnil => ?_
    rw [hnil] at hhead
    cases hhead

/-- **What a sequential run has done is in turn.** -/
theorem Snapshot.Proceeds.inTurn (hs : Distinct s.nodes)
    (hvar : ∀ n ∈ s.nodes, n.modelVariable? ≠ some "") (hsequential : s.config.sequential = true)
    (h : Proceeds s (Snapshot.initial s) trace m) : InTurn s trace m := by
  have hjournal := h.journal hs hvar hsequential
  obtain ⟨past, hl⟩ := h.leads
  have horder := hjournal.recorded.isPrefix
  have huntangled := (s.untangled_rota _).of_isPrefix horder
  refine ⟨horder, huntangled, hjournal.called, ?_, fun id => ?_,
    hjournal.finished (hl.booked hs hvar) huntangled, hjournal.waited, hjournal.told,
    fun n hn hfailed => hjournal.halted hs (hl.sound hs) hn hfailed⟩
  · rw [hjournal.called, ← Setup.filterMap_called_rota]
    exact horder.filterMap _
  · rw [← Execution.hasReturned_iff]
    exact hjournal.returned id

end Failed

/-! ## 3. Where a sequential run can be suspended -/

/-- A sequential run can come to a snapshot. -/
def Attained (s : Setup) (m : Snapshot) : Prop := ∃ trace, Proceeds s (Snapshot.initial s) trace m

section Attained

variable {s : Setup} {m m' : Snapshot} {x : Execution} {n : Node} {t : Task}
  {rest queue : List Node}

theorem Attained.pass (h : Attained s m) (moment : Float) : Attained s (m.atMoment moment) := by
  obtain ⟨trace, hm⟩ := h
  exact ⟨trace, .pass moment hm⟩

theorem Attained.quiet (h : Attained s m) (hn : Next s m m')
    (hquiet : (m.stage.isCalling && m'.stage.isCalling) = false) : Attained s m' := by
  obtain ⟨trace, hm⟩ := h
  exact ⟨trace, .quiet hm hn hquiet⟩

theorem Attained.turn
    (h : Attained s ⟨x, .round [] (t ::ₘ (firstTasks true rest : List Task)) []⟩)
    (hrest : (t.node :: rest).Sublist s.nodes) :
    Attained s ⟨(x.perform s t).1, .round []
      ((x.perform s t).2.tasks + (firstTasks true rest : List Task)) (x.perform s t).2.faults⟩ := by
  obtain ⟨trace, hm⟩ := h
  exact ⟨_, .turn hm hrest⟩

theorem Attained.sound (hs : Distinct s.nodes) (h : Attained s m) : Sound s m := by
  obtain ⟨trace, hm⟩ := h
  obtain ⟨past, hl⟩ := hm.leads
  exact hl.sound hs

end Attained

namespace RunState

/-- Whether at most one node sleeps where a run is suspended, and those that come after it in the
script are in the queue. -/
def InLine (s : Setup) (st : RunState) : Prop :=
  match st.waiting with
  | .calls asleep queue => ∃ z, asleep = [z] ∧ (z.task.node :: queue).Sublist s.nodes
  | _ => True

/-- Whether a sequential run can be suspended in a state. -/
structure Sequenced (s : Setup) (st : RunState) : Prop where
  attained : Attained s st.snapshot
  inLine : st.InLine s

/-- Where a run is suspended after a node has done a step, with some nodes left in the queue. -/
def afterTurn (s : Setup) (rest : List Node) : Execution × Pace → RunState
  | (x, .settled) => serve s true rest x
  | (x, .asleep z) => ⟨x, 0, .calls [z] rest⟩
  | (x, .stops f) => stopped x f

section Sequenced

variable {s : Setup} {x : Execution} {st : RunState} {t : Task} {rest queue : List Node}

theorem serve_cons (s : Setup) (heldBack : Bool) (n : Node) (rest : List Node) (x : Execution) :
    serve s heldBack (n :: rest) x = afterTurn s rest (x.begin s n heldBack) := by
  unfold serve
  rcases x.begin s n heldBack with ⟨y, pace⟩
  cases pace <;> rfl

theorem afterSteps_singleton (s : Setup) (t : Task) (rest : List Node) (x : Execution) :
    afterSteps s (performAll s [t] x).2.1 (performAll s [t] x).2.2 rest (performAll s [t] x).1 =
      afterTurn s rest (x.perform s t) := by
  simp only [performAll]
  rcases x.perform s t with ⟨y, pace⟩
  cases pace <;> rfl

theorem Sequenced.stopped {statics : List Node} {tasks : Multiset Task} {f : RunFault}
    (h : Attained s ⟨x, .round statics tasks [f]⟩) : Sequenced s (stopped x f) :=
  ⟨h.quiet .stops (Bool.and_false _), trivial⟩

/-- **After a turn the run goes on in line.** -/
theorem Sequenced.afterTurn (hs : Distinct s.nodes)
    (h : Attained s ⟨x, .round [] (t ::ₘ (firstTasks true rest : List Task)) []⟩)
    (hrest : (t.node :: rest).Sublist s.nodes)
    (hserve : ∀ y, Attained s ⟨y, .round [] (firstTasks true rest : List Task) []⟩ →
      Sequenced s (serve s true rest y)) : Sequenced s (afterTurn s rest (x.perform s t)) := by
  obtain ⟨hnode, hrun, hllm⟩ := (h.sound hs).running_of_task
  have hworked := Execution.perform_worked (s := s) hrun hllm
  have hturn := h.turn hrest
  generalize x.perform s t = p at hworked hturn ⊢
  cases hworked with
  | @sleeps y z hboard hslept hleft hcarries => exact ⟨hturn, z, rfl, hslept ▸ hrest⟩
  | @completes y text hboard hresult =>
    rw [show Pace.tasks .settled = 0 from rfl, Multiset.zero_add] at hturn
    exact hserve y hturn
  | @fails y cause hboard hresult => exact .stopped hturn

theorem Sequenced.serve (hs : Distinct s.nodes) {heldBack : Bool} (hqueue : queue.Sublist s.nodes)
    (h : Attained s ⟨x, .round [] (firstTasks heldBack queue : List Task) []⟩) :
    Sequenced s (serve s heldBack queue x) := by
  induction queue generalizing heldBack x with
  | nil => exact ⟨h.quiet .settles rfl, trivial⟩
  | cons n rest ih =>
    rw [firstTasks, ← firstTasks_true, ← Multiset.cons_coe] at h
    rw [serve_cons]
    exact .afterTurn (t := ⟨n, .begin heldBack⟩) hs h hqueue fun y hy =>
      ih ((List.sublist_cons_self n rest).trans hqueue) hy

theorem Sequenced.round (hs : Distinct s.nodes) (hsequential : s.config.sequential = true)
    {nodes : List Node} (hnodes : nodes.Sublist s.nodes) (h : Attained s (opened s nodes x)) :
    Sequenced s (round s nodes x) := by
  refine round_keeps (P := Attained s) (Q := Sequenced s) (fun h => h.quiet .resolves rfl) .stopped
    (fun h => ?_) h
  rw [hsequential] at h
  rw [beginCalls, hsequential]
  exact .serve hs (List.filter_sublist.trans hnodes) h

theorem Sequenced.poll (hs : Distinct s.nodes) (hsequential : s.config.sequential = true)
    {idle : Nat} (h : Attained s ⟨x, .between idle⟩) : Sequenced s (poll s idle x) := by
  rcases poll_cases s idle x with ⟨hnext, hwaiting⟩ | ⟨hopens, heq⟩
  · refine ⟨h.quiet hnext rfl, ?_⟩
    unfold InLine
    split
    · rename_i asleep queue heq
      exact absurd heq (hwaiting asleep queue)
    · trivial
  · rw [heq]
    exact .round hs hsequential (List.filter_sublist.trans List.filter_sublist)
      (h.quiet hopens rfl)

/-- **A sequential run that goes on stays in line**, whatever the clock does. -/
theorem Sequenced.resume (hs : Distinct s.nodes) (hsequential : s.config.sequential = true)
    (h : Sequenced s st) (wakes : Sleeper → Bool) (moment : Float) :
    Sequenced s (st.resume s wakes moment) := by
  obtain ⟨hattained, hline⟩ := h
  obtain ⟨x, idle, waiting⟩ := st
  have hpass := hattained.pass moment
  cases waiting with
  | ended fault => exact ⟨hattained, trivial⟩
  | rest due => exact .poll hs hsequential hpass
  | calls asleep queue =>
    obtain ⟨z, rfl, hqueue⟩ := hline
    cases hwakes : wakes z with
    | false =>
      have hsleeps : RunState.resume s wakes moment ⟨x, idle, .calls [z] queue⟩ =
          ⟨{ x with now := moment }, 0, .calls [z] queue⟩ := by
        simp [RunState.resume, hwakes, performAll, afterSteps]
      rw [hsleeps]
      exact ⟨hpass, z, rfl, hqueue⟩
    | true =>
      have hwakes : RunState.resume s wakes moment ⟨x, idle, .calls [z] queue⟩ =
          RunState.afterTurn s queue (Execution.perform { x with now := moment } s z.task) := by
        rw [← afterSteps_singleton]
        simp [RunState.resume, hwakes]
      rw [hwakes]
      exact .afterTurn hs hpass hqueue fun y hy =>
        .serve hs ((List.sublist_cons_self _ _).trans hqueue) hy

/-- **A sequential run is in line wherever it can be suspended.** -/
theorem Reachable.sequenced (hs : Distinct s.nodes) (hsequential : s.config.sequential = true)
    (h : Reachable s st) : Sequenced s st := by
  induction h with
  | start => exact .poll hs hsequential ⟨[], .refl⟩
  | resume wakes moment _ ih => exact ih.resume hs hsequential wakes moment

end Sequenced
end RunState

/-! ## 4. One call after the other -/

/-- **Sequential runs make one call after the other.**  Take the nodes of a script and a sequential
configuration.  On every course on which model nodes take turns, what was done is in turn, and
every state in which the run can be suspended lies on such a course, whatever the clock does.  So
does what a sequential run of the script holds when it is over or cancelled; a run that holds
nothing was never started. -/
theorem calls_made_in_turn (source : String) :
    (∀ s : Setup, Script.load source = .ok s.nodes → s.config.sequential = true →
      (∀ {trace : List Deed} {m : Snapshot}, Proceeds s (Snapshot.initial s) trace m →
        InTurn s trace m) ∧
      ∀ {st : RunState}, RunState.Reachable s st →
        ∃ trace, Proceeds s (Snapshot.initial s) trace st.snapshot) ∧
    ∀ client config input listener limit, config.sequential = true →
      let run := Run.ofScript source client config input listener limit
      run.execution = none ∨ ∃ nodes x, Script.load source = .ok nodes ∧ run.execution = some x ∧
        let s : Setup := { nodes, client, config, input, listener }
        ∃ stage trace, Proceeds s (Snapshot.initial s) trace ⟨x, stage⟩ ∧
          InTurn s trace ⟨x, stage⟩ := by
  have hcourse : ∀ s : Setup, Script.load source = .ok s.nodes → s.config.sequential = true →
      ∀ {trace : List Deed} {m : Snapshot}, Proceeds s (Snapshot.initial s) trace m →
      InTurn s trace m := by
    intro s hload hsequential trace m h
    have hloaded := Script.loaded_of_load hload
    exact h.inTurn hloaded.distinct (fun n hn => hloaded.modelVariable?_ne hn) hsequential
  refine ⟨fun s hload hsequential => ⟨hcourse s hload hsequential, fun {st} hst => ?_⟩,
    fun client config input listener limit hsequential => ?_⟩
  · exact (hst.sequenced (Script.loaded_of_load hload).distinct hsequential).attained
  · intro run
    rcases Run.ofScript_driven source client config input listener limit with
      hnone | ⟨nodes, hload, hrun⟩
    · exact Or.inl hnone
    · obtain ⟨st, moment, hst, hsnapshot⟩ :=
        RunState.drive_reachable { nodes, client, config, input, listener } limit
      obtain ⟨trace, htrace⟩ := (hst.sequenced (Script.loaded_of_load hload).distinct
        hsequential).attained.pass moment
      rw [← hsnapshot] at htrace
      exact Or.inr ⟨nodes, _, hload, hrun, _, trace, htrace, hcourse _ hload hsequential htrace⟩

/-- Two rounds of two nodes each, of which the first one of the second round cannot be answered. -/
def shiftScript : String :=
  "#early flash: go\n" ++
  "#next flash: go\n" ++
  "#lost broken: \x7b\x7b#early\x7d\x7d\n" ++
  "#late flash: \x7b\x7b#next\x7d\x7d"

/-- Only the second node of the first round waits; the run is halted at the node that fails, and the
one after it is left where it is. -/
theorem calls_made_in_turn_halted : ∃ nodes x stage trace earlier round before n after,
    (Run.ofScript shiftScript raceClient { delay := 0.5 } "" (some fun _ _ => .ok ())).execution =
      some x ∧
    x.rounds = [["early", "next"], ["lost", "late"]] ∧
    x.calls.map (·.1) = ["early", "next", "lost"] ∧
    x.progress.map (·.text) = ["Running: early (flash)", "Completed: early",
      "Waiting 0.5s before next", "Running: next (flash)", "Completed: next",
      "Running: lost (broken)", "Failed: lost - down"] ∧
    n.id = "lost" ∧
    let s : Setup := ⟨nodes, raceClient, { delay := 0.5 }, "", some fun _ _ => .ok (),
      fun _ => raceClient.encounter⟩
    InTurn s trace ⟨x, stage⟩ ∧ Halted s trace ⟨x, stage⟩ earlier round before n after := by
  have hrun := (calls_made_in_turn shiftScript).2 raceClient { delay := 0.5 } ""
    (some fun _ _ => .ok ()) none rfl
  have hheld : ((Run.ofScript shiftScript raceClient { delay := 0.5 } ""
      (some fun _ _ => .ok ())).execution.map fun x =>
        (x.rounds, x.calls.map (·.1), x.progress.map (·.text), x.phase? "lost")) =
      some ([["early", "next"], ["lost", "late"]], ["early", "next", "lost"],
        ["Running: early (flash)", "Completed: early", "Waiting 0.5s before next",
          "Running: next (flash)", "Completed: next", "Running: lost (broken)",
          "Failed: lost - down"], some .failed) := by decide +kernel
  generalize (Run.ofScript shiftScript raceClient { delay := 0.5 } ""
    (some fun _ _ => .ok ())) = run at hrun hheld ⊢
  obtain hnone | ⟨nodes, x, hload, hx, stage, trace, htrace, hturn⟩ := hrun
  · rw [hnone] at hheld
    cases hheld
  rw [hx] at hheld
  obtain ⟨hrounds, hrest⟩ := Prod.mk.inj (Option.some.inj hheld)
  obtain ⟨hcalls, hrest⟩ := Prod.mk.inj hrest
  obtain ⟨hprogress, hfailed⟩ := Prod.mk.inj hrest
  obtain ⟨past, hl⟩ := htrace.leads
  obtain ⟨k, hlayered, -⟩ := (hl.sound (Script.loaded_of_load hload).distinct).layered
  obtain ⟨hnode, -⟩ := Execution.exists_shows_of_phase? hlayered.tidy hfailed
  obtain ⟨n, hn, hid⟩ := List.mem_map.1 hnode
  obtain ⟨earlier, round, before, after, hhalted⟩ := hturn.failed n hn (hid ▸ hfailed)
  exact ⟨nodes, x, stage, trace, earlier, round, before, n, after, hx, hrounds, hcalls, hprogress,
    hid, hturn, hhalted⟩

end PromptChain
