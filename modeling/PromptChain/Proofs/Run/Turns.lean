/-
# Model nodes that take turns

In a sequential run the model nodes of a round take turns, in the order of the script.  A course on
which they do (`Proceeds`) lists what they have done; at any time one of them is somewhere in its
turn, those before it have taken theirs, and those after it have not begun (`Position`).  So all
that was done is a beginning of the turns of all model nodes, round by round (`Setup.rota`).

What was done is also what the run holds (`Journal`): the log notes the calls in their order, and
which have returned, and the listener hears of every node that waits and of none that has done
nothing.
-/
import PromptChain.Proofs.Run.Calls
import PromptChain.Proofs.Run.Chronicle
import PromptChain.Proofs.Run.Deeds

namespace PromptChain

open PromptChain.Graph Snapshot

/-! ## 1. Courses on which nodes take turns -/

/-- Whether only model nodes are left to do something in a round. -/
def Stage.isCalling : Stage → Bool
  | .round [] _ _ => true
  | _ => false

namespace Snapshot

/-- A run can come from one snapshot to another in which its model nodes take turns, and they have
done some deeds meanwhile. -/
inductive Proceeds (s : Setup) (a : Snapshot) : List Deed → Snapshot → Prop where
  | refl : Proceeds s a [] a
  | pass {trace : List Deed} {m : Snapshot} (moment : Float) (h : Proceeds s a trace m) :
      Proceeds s a trace (m.atMoment moment)
  /-- A step that is not that of a model node. -/
  | quiet {trace : List Deed} {m m' : Snapshot} (h : Proceeds s a trace m) (hn : Next s m m')
      (hquiet : (m.stage.isCalling && m'.stage.isCalling) = false) : Proceeds s a trace m'
  /-- The step of a model node when all that are left after it in the script have yet to begin. -/
  | turn {trace : List Deed} {x : Execution} {t : Task} {rest : List Node}
      (h : Proceeds s a trace ⟨x, .round [] (t ::ₘ (firstTasks true rest : List Task)) []⟩)
      (hrest : (t.node :: rest).Sublist s.nodes) :
      Proceeds s a (trace ++ x.deeds s t) ⟨(x.perform s t).1,
        .round [] ((x.perform s t).2.tasks + (firstTasks true rest : List Task))
          (x.perform s t).2.faults⟩

/-- Such a course is a course. -/
theorem Proceeds.leads {s : Setup} {a m : Snapshot} {trace : List Deed}
    (h : Proceeds s a trace m) : ∃ past, Leads s a past m := by
  induction h with
  | refl => exact ⟨[], .refl⟩
  | pass moment _ ih =>
    obtain ⟨past, hl⟩ := ih
    exact ⟨past, .pass moment hl⟩
  | quiet _ hn _ ih =>
    obtain ⟨past, hl⟩ := ih
    exact ⟨_, .next hl hn⟩
  | turn _ _ ih =>
    obtain ⟨past, hl⟩ := ih
    exact ⟨_, .next hl .works⟩

end Snapshot

/-! ## 2. Where the turn has come to -/

namespace Setup

/-- The model nodes of a round, in the order of the script. -/
def queue (s : Setup) (round : List String) : List Node := (s.begun round).filter (·.isLlm)

/-- The turns of all model nodes of some rounds. -/
def rota (s : Setup) (rounds : List (List String)) : List Deed :=
  rounds.flatMap fun round => s.turns false (s.queue round)

theorem queue_sublist (s : Setup) (round : List String) : (s.queue round).Sublist s.nodes :=
  List.filter_sublist.trans List.filter_sublist

theorem mem_queue {s : Setup} {round : List String} {n : Node} :
    n ∈ s.queue round ↔ n ∈ s.nodes ∧ n.id ∈ round ∧ n.isLlm = true := by
  simp only [queue, begun, List.mem_filter, decide_eq_true_eq, and_assoc]

theorem rota_concat (s : Setup) (rounds : List (List String)) (round : List String) :
    s.rota (rounds ++ [round]) = s.rota rounds ++ s.turns false (s.queue round) := by
  simp [rota]

end Setup

/-- How far the model nodes of a round have come: what is left to do, the faults so far, and what
was done. -/
inductive Position (s : Setup) (queue : List Node) :
    Multiset Task → List RunFault → List Deed → Prop where
  /-- All have taken their turns. -/
  | served : Position s queue 0 [] (s.turns false queue)
  /-- One of them is in its turn. -/
  | turn {before after : List Node} {n : Node} {step : Step} (hqueue : queue = before ++ n :: after)
      (hbegin : ∀ heldBack, step = .begin heldBack → heldBack = !before.isEmpty) :
      Position s queue (⟨n, step⟩ ::ₘ (firstTasks true after : List Task)) []
        (s.turns false before ++ step.done (s.waits (!before.isEmpty) n) n.id)
  /-- One of them has failed in its turn. -/
  | failed {before after : List Node} {n : Node} {cause : NodeCause} {made : List Deed}
      (hqueue : queue = before ++ n :: after) (hmade : made <+: [.calls n.id]) :
      Position s queue (firstTasks true after : List Task)
        [.node { node := n.id, cause := some cause }]
        (s.turns false before ++ (s.waits (!before.isEmpty) n ++ .launches n.id :: made))

section Position

variable {s : Setup} {queue before rest : List Node} {tasks : Multiset Task}
  {faults : List RunFault} {current done : List Deed} {n : Node} {t : Task}

/-- Before the first turn nothing was done. -/
theorem Position.start (s : Setup) (queue : List Node) :
    Position s queue (firstTasks false queue : List Task) [] [] := by
  cases queue with
  | nil => exact .served
  | cons n rest =>
    rw [firstTasks, ← RunState.firstTasks_true, ← Multiset.cons_coe]
    have hturn : Position s (n :: rest)
        (⟨n, .begin false⟩ ::ₘ (firstTasks true rest : List Task)) []
        (s.turns false [] ++
          Step.done (s.waits (!([] : List Node).isEmpty) n) n.id (.begin false)) :=
      .turn rfl fun heldBack heq => by cases heq; rfl
    exact hturn

/-- **The turn is that of the node that the others come after in the script.** -/
theorem Position.exists_turn (hs : Distinct s.nodes) (hqueue : queue.Sublist s.nodes)
    (h : Position s queue (t ::ₘ (firstTasks true rest : List Task)) [] current)
    (hrest : (t.node :: rest).Sublist s.nodes) :
    ∃ before, queue = before ++ t.node :: rest ∧
      (∀ heldBack, t.step = .begin heldBack → heldBack = !before.isEmpty) ∧
      current = s.turns false before ++
        t.step.done (s.waits (!before.isEmpty) t.node) t.node.id := by
  generalize htasks : t ::ₘ (firstTasks true rest : Multiset Task) = tasks at h
  generalize hfaults : ([] : List RunFault) = faults at h
  cases h with
  | served => exact absurd htasks (Multiset.cons_ne_zero)
  | failed => cases hfaults
  | @turn before after n step heq hbegin =>
    -- the same nodes are left, and in the order of the script that is the same list
    have hnodes := congrArg (Multiset.map Task.node) htasks
    rw [Multiset.map_cons, Multiset.map_cons, Multiset.map_coe, Multiset.map_coe,
      map_node_firstTasks, map_node_firstTasks, Multiset.cons_coe, Multiset.cons_coe,
      Multiset.coe_eq_coe] at hnodes
    have hafter : (n :: after).Sublist s.nodes :=
      (heq ▸ List.sublist_append_right before (n :: after)).trans hqueue
    have hnodup : s.nodes.Nodup := List.Nodup.of_map _ hs
    obtain ⟨hnode, rfl⟩ := List.cons.inj ((hnodup.perm_iff_eq_of_sublist hrest hafter).1 hnodes)
    obtain rfl : t = ⟨n, step⟩ := (Multiset.cons_inj_left _).1 htasks
    exact ⟨before, heq, hbegin, rfl⟩

/-- **A step in a turn leads on to the next position.** -/
theorem Position.next {b : Board} {left : Nat} {sure : Prop} {p : Execution × Pace}
    (hqueue : queue = before ++ n :: rest) (hw : Worked s b n left sure p) (hleft : left ≤ 4)
    (hdone : p.2.Done (s.waits (!before.isEmpty) n) n.id done) :
    Position s queue (p.2.tasks + (firstTasks true rest : List Task)) p.2.faults
      (s.turns false before ++ done) := by
  cases hw with
  | @sleeps y z hboard hnode hleft' hcarries =>
    obtain ⟨⟨k, step⟩, due⟩ := z
    obtain rfl : k = n := hnode
    rw [show done = _ from hdone]
    refine .turn hqueue fun heldBack heq => ?_
    simp only [heq, Step.left] at hleft'
    omega
  | @completes y text hboard hresult =>
    have hturn : s.turns false before ++ done = s.turns false (before ++ [n]) := by
      rw [Setup.turns_concat, Setup.turn, show done = _ from hdone]
    rw [hturn, show Pace.tasks .settled = 0 from rfl, Multiset.zero_add]
    cases rest with
    | nil =>
      rw [← hqueue]
      exact .served
    | cons k rest =>
      have hnext : Position s queue (⟨k, .begin true⟩ ::ₘ (firstTasks true rest : List Task)) []
          (s.turns false (before ++ [n]) ++ []) :=
        .turn (by rw [hqueue, List.append_assoc]; rfl)
          fun heldBack heq => by cases heq; simp
      rw [List.append_nil] at hnext
      rwa [firstTasks, ← RunState.firstTasks_true, ← Multiset.cons_coe]
  | @fails y cause hboard hresult =>
    obtain ⟨made, hmade, rfl⟩ := hdone
    rw [show Pace.tasks (.stops _) = 0 from rfl, Multiset.zero_add]
    exact .failed hqueue hmade

/-- **What was done is a beginning of the turns.** -/
theorem Position.isPrefix (h : Position s queue tasks faults current) :
    current <+: s.turns false queue := by
  have hturn : ∀ {before after : List Node} {n : Node} {done : List Deed},
      queue = before ++ n :: after → done <+: s.turn (!before.isEmpty) n →
      s.turns false before ++ done <+: s.turns false queue := by
    intro before after n done hqueue hdone
    rw [hqueue, Setup.turns_append, Setup.turns, Bool.false_or, List.prefix_append_right_inj]
    exact hdone.trans (List.prefix_append _ _)
  cases h with
  | served => exact List.prefix_refl _
  | turn hqueue hbegin => exact hturn hqueue (Step.done_prefix_turn s _ _ _)
  | failed hqueue hmade => exact hturn hqueue (s.launched_prefix_turn _ _ hmade)

end Position

/-! ## 3. What a run holds of it -/

/-- What was done on a course, from where it has come to. -/
inductive Recorded (s : Setup) : List Deed → Snapshot → Prop where
  | between {x : Execution} {idle : Nat} {trace : List Deed} (htrace : trace = s.rota x.rounds) :
      Recorded s trace ⟨x, .between idle⟩
  | round {x : Execution} {statics : List Node} {tasks : Multiset Task} {faults : List RunFault}
      {earlier : List (List String)} {round : List String} {current : List Deed}
      (hrounds : x.rounds = earlier ++ [round])
      (hpos : Position s (s.queue round) tasks faults current) :
      Recorded s (s.rota earlier ++ current) ⟨x, .round statics tasks faults⟩
  /-- No node has failed. -/
  | ended {x : Execution} {fault : Option RunFault} {trace : List Deed}
      (htrace : trace = s.rota x.rounds) (hfault : ∀ f, fault ≠ some (.node f)) :
      Recorded s trace ⟨x, .ended fault⟩
  /-- A node of the last round has failed, and no other. -/
  | stopped {x : Execution} {tasks : Multiset Task} {f : RunFault}
      {earlier : List (List String)} {round : List String} {current : List Deed}
      (hrounds : x.rounds = earlier ++ [round])
      (hpos : Position s (s.queue round) tasks [f] current)
      (honly : ∀ n ∈ s.nodes, x.phase? n.id = some .failed →
        ∃ cause, f = .node { node := n.id, cause := some cause }) :
      Recorded s (s.rota earlier ++ current) ⟨x, .ended (some f)⟩

/-- Whether an event is about a static node whose round was opened. -/
def OfStatic (s : Setup) (x : Execution) (e : Event) : Prop :=
  ∃ n ∈ s.nodes, n.isStatic = true ∧ n.id = e.node ∧ n.id ∈ x.rounds.flatten

/-- Whether what was done on a course is what a run holds where the course has come to. -/
structure Journal (s : Setup) (trace : List Deed) (m : Snapshot) : Prop where
  recorded : Recorded s trace m
  /-- The calls were made by the nodes that are noted with them. -/
  called : m.execution.calls.map (·.1) = trace.filterMap Deed.called?
  returned : ∀ id, m.execution.hasReturned id = true ↔ .returns id ∈ trace
  /-- The listener hears of the nodes that wait. -/
  waited : s.listener.isSome = true →
    m.execution.progress.filterMap Event.waited? = trace.filterMap Deed.waited?
  /-- It hears of no model node that has done nothing. -/
  told : s.listener.isSome = true → ∀ e ∈ m.execution.progress,
    OfStatic s m.execution e ∨ ∃ d ∈ trace, d.node = e.node

section Steps

variable {s : Setup} {m m' : Snapshot} {x : Execution} {trace : List Deed} {n : Node}

theorem journal_initial (s : Setup) : Journal s [] (Snapshot.initial s) where
  recorded := .between rfl
  called := rfl
  returned _ := by simp [Execution.hasReturned_iff, Snapshot.initial, Execution.calls_moveWorkflow,
    Execution.initial]
  waited _ := rfl
  told _ e he := absurd he List.not_mem_nil

theorem OfStatic.mono {y : Execution} {e : Event} (h : OfStatic s x e)
    (hrounds : x.rounds <+: y.rounds) : OfStatic s y e := by
  obtain ⟨n, hn, hstatic, hid, hround⟩ := h
  obtain ⟨more, hmore⟩ := hrounds
  refine ⟨n, hn, hstatic, hid, ?_⟩
  rw [← hmore, List.flatten_append]
  exact List.mem_append_left _ hround

/-- A step that makes no call, and tells of static nodes only, leaves what is held of the deeds. -/
theorem Journal.quiet (h : Journal s trace m) (hrecorded : Recorded s trace m')
    (hcalls : m'.execution.calls = m.execution.calls)
    (hrounds : m.execution.rounds <+: m'.execution.rounds)
    (hprogress : s.listener.isSome = true → ∃ new,
      m'.execution.progress = m.execution.progress ++ new ∧
      ∀ e ∈ new, e.waited? = none ∧ OfStatic s m'.execution e) : Journal s trace m' := by
  refine ⟨hrecorded, hcalls ▸ h.called, fun id => ?_, fun hheard => ?_, fun hheard e he => ?_⟩
  · rw [← h.returned, Execution.hasReturned, hcalls, Execution.hasReturned]
  · obtain ⟨new, heq, hnew⟩ := hprogress hheard
    have hnone : new.filterMap Event.waited? = [] :=
      List.filterMap_eq_nil_iff.2 fun e he => (hnew e he).1
    rw [heq, List.filterMap_append, hnone, List.append_nil, h.waited hheard]
  · obtain ⟨new, heq, hnew⟩ := hprogress hheard
    rw [heq, List.mem_append] at he
    rcases he with he | he
    · exact (h.told hheard e he).imp_left fun hstatic => hstatic.mono hrounds
    · exact Or.inl (hnew e he).2

/-- A step that does nothing but to lead elsewhere. -/
theorem Journal.same (h : Journal s trace m) (hrecorded : Recorded s trace m')
    (hcalls : m'.execution.calls = m.execution.calls)
    (hprogress : m'.execution.progress = m.execution.progress)
    (hrounds : m.execution.rounds <+: m'.execution.rounds) : Journal s trace m' :=
  h.quiet hrecorded hcalls hrounds fun _ =>
    ⟨[], by rw [hprogress, List.append_nil], fun e he => absurd he List.not_mem_nil⟩

/-- The ids of the rounds are those that as many stages settle. -/
theorem Sound.flatten_rounds (h : Sound s m) :
    m.execution.rounds.flatten = s.graph.settled m.execution.rounds.length := by
  obtain ⟨k, hlayered, -⟩ := h.layered
  have hrounds : m.execution.rounds = (List.range m.execution.rounds.length).map fun i =>
      (s.graph.wave i).map (·.id) := hlayered.rounds
  rw [settled_eq_flatten, ← hrounds]

/-- A node that is not pending belongs to a round. -/
theorem Sound.mem_rounds (h : Sound s m) (hn : n ∈ s.nodes)
    (hleft : m.execution.phase? n.id ≠ some .pending) : n.id ∈ m.execution.rounds.flatten := by
  rwa [ne_eq, h.pending_iff hn, not_not, ← h.flatten_rounds] at hleft

/-- A failed node of a round is met by a fault. -/
theorem Sound.mem_faults_of_failed (hs : Distinct s.nodes) {statics : List Node}
    {tasks : Multiset Task} {faults : List RunFault} (h : Sound s ⟨x, .round statics tasks faults⟩)
    (hn : n ∈ s.nodes) (hfailed : x.phase? n.id = some .failed) :
    ∃ cause, .node { node := n.id, cause := some cause } ∈ faults := by
  cases h with
  | round hphase hk h hkind hu =>
    have hwave := mem_wave_of_phase hs h hk hn hfailed (by decide) (by decide)
    rcases hu.accounted n hwave with hbusy | ⟨output, hshow⟩ | ⟨cause, -, hfault⟩
    · cases Execution.phase_eq_of_shows (hu.running n hbusy).2 hfailed
    · cases Execution.phase_eq_of_shows hshow hfailed
    · exact ⟨cause, hfault⟩

/-- When a round is opened, none of its model nodes has begun. -/
theorem Journal.opens {idle : Nat} (hs : Distinct s.nodes)
    (hsequential : s.config.sequential = true) (hsound : Sound s ⟨x, .between idle⟩)
    (h : Journal s trace ⟨x, .between idle⟩) :
    Journal s trace (opened s (x.runnable s.graph) x) := by
  cases hsound with
  | between hphase hlayered hidle =>
    rw [runnable_eq_wave hs hlayered]
    obtain ⟨y, heq, hprogress, hboard⟩ := exists_opened hs hlayered
    have hcalls : (opened s (s.graph.wave x.rounds.length) x).execution.calls = x.calls :=
      Execution.calls_startAll _ _
    have hrounds : y.rounds = x.rounds ++ [(s.graph.wave x.rounds.length).map (·.id)] :=
      Execution.rounds_of_start hboard
    rw [heq] at hcalls ⊢
    refine h.same ?_ hcalls hprogress (hrounds ▸ List.prefix_append _ _)
    cases h.recorded with
    | between htrace =>
      have hstart := Position.start s (s.queue ((s.graph.wave x.rounds.length).map (·.id)))
      rw [htrace, ← List.append_nil (s.rota x.rounds), hsequential]
      refine .round hrounds ?_
      rwa [Setup.queue, Setup.begun_wave hs] at hstart ⊢

/-- When a static node of a round is resolved, the listener hears of that node alone. -/
theorem Journal.resolves {rest : List Node} {tasks : Multiset Task} (hs : Distinct s.nodes)
    (hsound : Sound s ⟨x, .round (n :: rest) tasks []⟩)
    (h : Journal s trace ⟨x, .round (n :: rest) tasks []⟩) :
    Journal s trace
      ⟨(x.resolveStatic s n).1, .round rest tasks (x.resolveStatic s n).2.toList⟩ := by
  obtain ⟨hnode, hrun, hstatic⟩ := hsound.running_of_todo (mem_todo_static n rest tasks)
  obtain ⟨hnone, text, hboard⟩ := hsound.resolves hs
  have hrounds : (x.resolveStatic s n).1.rounds = x.rounds := congrArg Board.rounds hboard
  have hround : n.id ∈ x.rounds.flatten :=
    hsound.mem_rounds hnode (by simp [Execution.phase?_of_shows hrun, Standing.phase])
  refine h.quiet ?_ (x.calls_resolveStatic s n) (hrounds ▸ List.prefix_refl _) fun hheard => ?_
  · rw [hnone]
    cases h.recorded with
    | round hbefore hpos => exact .round (hrounds.trans hbefore) hpos
  · refine ⟨resolution n, Execution.progress_resolveStatic hheard hrun hnone, fun e he => ?_⟩
    simp only [resolution, List.mem_cons, List.not_mem_nil, or_false] at he
    rcases he with rfl | rfl <;>
      exact ⟨rfl, n, hnode, hstatic, rfl, hrounds ▸ hround⟩

/-- When a fault ends the run, the node it is about is the only one that has failed. -/
theorem Recorded.stops {statics : List Node} {tasks : Multiset Task} {f : RunFault}
    {faults : List RunFault} (hs : Distinct s.nodes)
    (hsound : Sound s ⟨x, .round statics tasks (f :: faults)⟩)
    (h : Recorded s trace ⟨x, .round statics tasks (f :: faults)⟩) :
    Recorded s trace ⟨x.moveWorkflow .failed, .ended (some f)⟩ := by
  cases h with
  | round hrounds hpos =>
    obtain rfl : faults = [] := by cases hpos; rfl
    refine .stopped ((x.rounds_moveWorkflow .failed).trans hrounds) hpos fun n hn hfailed => ?_
    have hphase : (x.moveWorkflow .failed).phase? n.id = x.phase? n.id := by
      rw [x.moveWorkflow_eq]
      rfl
    obtain ⟨cause, hfault⟩ := hsound.mem_faults_of_failed hs hn (hphase ▸ hfailed)
    exact ⟨cause, (List.mem_singleton.1 hfault).symm⟩

/-- When a round is over, all its model nodes have taken their turns. -/
theorem Recorded.settles {idle : Nat} (h : Recorded s trace ⟨x, .round [] 0 []⟩) :
    Recorded s trace ⟨x, .between idle⟩ := by
  cases h with
  | @round _ _ _ _ earlier round current hrounds hpos =>
    generalize htasks : (0 : Multiset Task) = tasks at hpos
    generalize hfaults : ([] : List RunFault) = faults at hpos
    cases hpos with
    | served => exact .between (by rw [hrounds, Setup.rota_concat])
    | turn => exact absurd htasks.symm (Multiset.cons_ne_zero)
    | failed => cases hfaults

/-- A run that ends between rounds ends with what was done. -/
theorem Recorded.ends {idle : Nat} {p : Phase} {fault : Option RunFault}
    (h : Recorded s trace ⟨x, .between idle⟩) (hfault : ∀ f, fault ≠ some (.node f)) :
    Recorded s trace ⟨x.moveWorkflow p, .ended fault⟩ := by
  cases h with
  | between htrace =>
    exact .ended (htrace.trans (congrArg s.rota (x.rounds_moveWorkflow p).symm)) hfault

/-- **A step that is not that of a model node leaves what was done.** -/
theorem Journal.next (hs : Distinct s.nodes) (hsequential : s.config.sequential = true)
    (hsound : Sound s m) (h : Journal s trace m) (hn : Next s m m')
    (hquiet : (m.stage.isCalling && m'.stage.isCalling) = false) : Journal s trace m' := by
  -- the end of a run makes no call and tells nothing
  have hended : ∀ {x : Execution} {p : Phase} {stage : Stage} {fault : Option RunFault},
      Journal s trace ⟨x, stage⟩ → Recorded s trace ⟨x.moveWorkflow p, .ended fault⟩ →
      Journal s trace ⟨x.moveWorkflow p, .ended fault⟩ := by
    intro x p stage fault h hrecorded
    exact h.same hrecorded (x.calls_moveWorkflow p) (x.progress_moveWorkflow p)
      (x.rounds_moveWorkflow p ▸ List.prefix_refl _)
  cases hn with
  | finishes hun => exact hended h (h.recorded.ends fun f => by simp)
  | opens hun hrun => exact h.opens hs hsequential hsound
  | stalls hun hrun hidle =>
    refine h.same ?_ rfl rfl (List.prefix_refl _)
    cases h.recorded with
    | between htrace => exact .between htrace
  | deadlocks hun hrun hidle => exact hended h (h.recorded.ends fun f => by simp)
  | resolves => exact h.resolves hs hsound
  | works => cases hquiet
  | settles => exact h.same h.recorded.settles rfl rfl (List.prefix_refl _)
  | stops => exact hended h (h.recorded.stops hs hsound)

/-- **When it is the turn of a node**, the nodes before it have taken theirs. -/
theorem Recorded.exists_turn (hs : Distinct s.nodes) {t : Task} {rest : List Node}
    (h : Recorded s trace ⟨x, .round [] (t ::ₘ (firstTasks true rest : List Task)) []⟩)
    (hrest : (t.node :: rest).Sublist s.nodes) :
    ∃ earlier round before, x.rounds = earlier ++ [round] ∧
      s.queue round = before ++ t.node :: rest ∧
      (∀ heldBack, t.step = .begin heldBack → heldBack = !before.isEmpty) ∧
      trace = s.rota earlier ++
        (s.turns false before ++ t.step.done (s.waits (!before.isEmpty) t.node) t.node.id) := by
  cases h with
  | @round _ _ _ _ earlier round current hrounds hpos =>
    obtain ⟨before, hqueue, hbegin, rfl⟩ := hpos.exists_turn hs (s.queue_sublist round) hrest
    exact ⟨earlier, round, before, hrounds, hqueue, hbegin, rfl⟩

/-- **The step of a node whose turn it is goes on with the turn.** -/
theorem Journal.turn (hs : Distinct s.nodes) {t : Task} {rest : List Node}
    (hsound : Sound s ⟨x, .round [] (t ::ₘ (firstTasks true rest : List Task)) []⟩)
    (hbooked : Booked s ⟨x, .round [] (t ::ₘ (firstTasks true rest : List Task)) []⟩)
    (h : Journal s trace ⟨x, .round [] (t ::ₘ (firstTasks true rest : List Task)) []⟩)
    (hrest : (t.node :: rest).Sublist s.nodes) :
    Journal s (trace ++ x.deeds s t) ⟨(x.perform s t).1,
      .round [] ((x.perform s t).2.tasks + (firstTasks true rest : List Task))
        (x.perform s t).2.faults⟩ := by
  obtain ⟨hnode, hrun, hllm⟩ := hsound.running_of_task
  have hnoted := hbooked.noted _ (mem_todo_task [] t _)
  have hre := (Execution.perform_notes (s := s) hrun hllm hbooked.once hnoted).renoted
  have hnot := Execution.hasReturned_of_noted hnoted hbooked.once
  have hworked := Execution.perform_worked (s := s) hrun hllm
  obtain ⟨earlier, round, before, hrounds, hqueue, hbegin, htrace⟩ :=
    h.recorded.exists_turn hs hrest
  have hwaits : ∀ heldBack, t.step = .begin heldBack →
      s.waits (!before.isEmpty) t.node = s.waits heldBack t.node := by
    intro heldBack heq
    rw [hbegin heldBack heq]
  have hdone := Execution.perform_done (s := s) hrun hllm hbooked.once hnoted hwaits
  obtain ⟨d, hd, hdeed⟩ : ∃ d ∈ trace ++ x.deeds s t, d.node = t.node.id := by
    cases hlaunches : t.step.launches with
    | true =>
      obtain ⟨d, hd, hdeed⟩ := Execution.exists_deed hlaunches x s
      exact ⟨d, List.mem_append_right _ hd, hdeed⟩
    | false =>
      have hmem := Step.launches_mem_done hlaunches (s.waits (!before.isEmpty) t.node) t.node.id
      exact ⟨.launches t.node.id, by simp [htrace, hmem], rfl⟩
  refine ⟨?_, ?_, fun id => ?_, fun hheard => ?_, fun hheard e he => ?_⟩
  · rw [htrace, List.append_assoc, List.append_assoc]
    exact .round (hworked.rounds.trans hrounds)
      (.next hqueue hworked (t.step.left_le_begin true) hdone)
  · show (x.perform s t).1.calls.map (·.1) = _
    rw [Execution.ids_perform hre hbooked.once, List.filterMap_append]
    exact congrArg (· ++ _) h.called
  · show (x.perform s t).1.hasReturned id = true ↔ _
    rw [Execution.hasReturned_perform hre hnot, List.mem_append]
    exact or_congr_left (h.returned id)
  · show (x.perform s t).1.progress.filterMap Event.waited? = _
    rw [Execution.waited_perform hheard hrun hllm hbooked.once hnoted, List.filterMap_append]
    exact congrArg (· ++ _) (h.waited hheard)
  · obtain ⟨held, -, new, hprogress, hnew, -⟩ := Execution.exists_tells hheard hrun hllm
    rw [show (x.perform s t).1.progress = _ from hprogress, List.mem_append] at he
    rcases he with he | he
    · rcases h.told hheard e he with hstatic | ⟨d, hd, hid⟩
      · have hrounds : x.rounds <+: (x.perform s t).1.rounds := by rw [hworked.rounds]
        exact Or.inl (hstatic.mono hrounds)
      · exact Or.inr ⟨d, List.mem_append_left _ hd, hid⟩
    · exact Or.inr ⟨d, hd, hdeed.trans (hnew e he).symm⟩

/-- **What was done on a course is what the run holds**, wherever the course has come to. -/
theorem Snapshot.Proceeds.journal (hs : Distinct s.nodes)
    (hvar : ∀ n ∈ s.nodes, n.modelVariable? ≠ some "") (hsequential : s.config.sequential = true)
    (h : Proceeds s (Snapshot.initial s) trace m) : Journal s trace m := by
  induction h with
  | refl => exact journal_initial s
  | pass moment _ ih =>
    refine ih.same ?_ rfl rfl (List.prefix_refl _)
    cases ih.recorded with
    | between htrace => exact .between htrace
    | round hrounds hpos => exact .round hrounds hpos
    | ended htrace hfault => exact .ended htrace hfault
    | stopped hrounds hpos honly => exact .stopped hrounds hpos honly
  | quiet h hn hquiet ih =>
    obtain ⟨past, hl⟩ := h.leads
    exact ih.next hs hsequential (hl.sound hs) hn hquiet
  | turn h hrest ih =>
    obtain ⟨past, hl⟩ := h.leads
    exact ih.turn hs (hl.sound hs) (hl.booked hs hvar) hrest

end Steps

end PromptChain
