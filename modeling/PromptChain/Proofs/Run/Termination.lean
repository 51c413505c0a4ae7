/-
# Every run ends

The effort of a run bounds what it may still do: its nodes that no round has taken up so far, the
steps of those that are busy, and the idle rounds that it still puts up with (`Snapshot.effort`).
Every step lowers it (`Moves.effort_lt`), so a course is no longer than the effort at its start
(`Leads.effort_le`), and the clock leads every run to its end (`drive_ended`).

What is left at the end is what the stages of the graph say.  Once nothing can be begun between
two rounds, nothing ever can, and the run only counts its idle rounds up to the deadlock
(`Counted`).  Once a node has failed, no round is opened any more (`Leads.rounds_of_fault`).
-/
import PromptChain.Proofs.Run.Consistency
import PromptChain.Run.Basic
import Mathlib.Algebra.BigOperators.Group.Multiset.Defs
import Mathlib.Algebra.Group.Nat.Defs

namespace PromptChain

open PromptChain.Graph Snapshot

/-! ## 1. Effort -/

/-- How many nodes some stages leave out. -/
def Graph.leftOut (g : Graph) (k : Nat) : Nat :=
  g.nodes.countP fun n => decide (n.id ∉ g.settled k)

/-- A wave is no longer left out after its stage. -/
theorem Graph.leftOut_succ (g : Graph) (k : Nat) :
    g.leftOut (k + 1) + (g.wave k).length ≤ g.leftOut k := by
  have hwave : (g.wave k).length =
      g.nodes.countP fun n => decide (n.id ∉ g.settled k) &&
        n.dependencies.all fun d => decide (d ∈ g.settled k) := by
    rw [List.countP_eq_length_filter]
    rfl
  -- what the next stage leaves out is left out now, and has an open dependency
  have hsucc : g.leftOut (k + 1) ≤ g.nodes.countP fun n => decide (n.id ∉ g.settled k) &&
      !n.dependencies.all fun d => decide (d ∈ g.settled k) := by
    refine List.countP_mono_left fun n hn hout => ?_
    have hnot : n.id ∉ g.settled (k + 1) := by simpa using hout
    rw [mem_settled_succ, not_or] at hnot
    obtain ⟨hk, hno⟩ := hnot
    have hdeps : ¬ ∀ d ∈ n.dependencies, d ∈ g.settled k := by
      intro hall
      exact hno ⟨n, mem_wave.2 ⟨hn, hk, hall⟩, rfl⟩
    simpa [hk] using hdeps
  have hsplit : g.leftOut k = (g.nodes.countP fun n => decide (n.id ∉ g.settled k) &&
        n.dependencies.all fun d => decide (d ∈ g.settled k)) +
      g.nodes.countP fun n => decide (n.id ∉ g.settled k) &&
        !n.dependencies.all fun d => decide (d ∈ g.settled k) := by
    rw [leftOut]
    induction g.nodes with
    | nil => rfl
    | cons n rest ih =>
      simp only [List.countP_cons, ih]
      cases decide (n.id ∉ g.settled k) <;>
        cases (n.dependencies.all fun d => decide (d ∈ g.settled k)) <;> simp <;> omega
  omega

/-- How many steps some busy nodes have still to do at most. -/
def stepsLeft (p : Multiset (Node × Option Step)) : Nat :=
  (p.map fun q => q.2.elim 1 Step.left).sum

/-- What a run may still do at most. -/
def Snapshot.effort (s : Setup) (m : Snapshot) : Nat :=
  let fresh := s.graph.leftOut m.execution.rounds.length * (s.config.grace + 8)
  match m.stage with
  | .between idle => fresh + (s.config.grace + 2 - idle) + 1
  | .round statics tasks _ => fresh + stepsLeft (todo statics tasks) + s.config.grace + 4
  | .ended _ => 0

section Effort

variable {s : Setup} {m m' : Snapshot}

theorem stepsLeft_cons (q : Node × Option Step) (p : Multiset (Node × Option Step)) :
    stepsLeft (q ::ₘ p) = q.2.elim 1 Step.left + stepsLeft p := by
  rw [stepsLeft, Multiset.map_cons, Multiset.sum_cons, stepsLeft]

/-- A busy node has at least one step to do. -/
theorem stepsLeft_lt_cons (q : Node × Option Step) (p : Multiset (Node × Option Step)) :
    stepsLeft p < stepsLeft (q ::ₘ p) := by
  have hpos : 0 < q.2.elim 1 Step.left := by
    cases q.2 with
    | none => exact Nat.one_pos
    | some step => cases step <;> exact Nat.succ_pos _
  rw [stepsLeft_cons]
  omega

/-- At the start of a round every busy node has at most four steps to do. -/
theorem stepsLeft_le (p : Multiset (Node × Option Step))
    (hfirst : ∀ q ∈ p, ∀ step ∈ q.2, ∃ heldBack, step = .begin heldBack) :
    stepsLeft p ≤ 4 * Multiset.card p := by
  induction p using Multiset.induction with
  | empty => exact Nat.le_refl 0
  | cons q p ih =>
    have hrest := ih fun r hr => hfirst r (Multiset.mem_cons_of_mem hr)
    have hq : q.2.elim 1 Step.left ≤ 4 := by
      cases ho : q.2 with
      | none => decide
      | some step =>
        obtain ⟨heldBack, rfl⟩ := hfirst q (Multiset.mem_cons_self q p) step ho
        exact Nat.le_refl 4
    rw [stepsLeft_cons, Multiset.card_cons]
    omega

/-- **Every step lowers the effort.** -/
theorem Moves.effort_lt (hm : Moves s m m') : m'.effort s < m.effort s := by
  cases hm with
  | finishes hall => simp [effort]
  | @opens x y idle statics tasks hwave hboard hbusy hkind hfirst =>
    have hrounds : y.rounds.length = x.rounds.length + 1 := by
      rw [Execution.rounds_of_start hboard]
      exact List.length_append
    have hcard : Multiset.card (todo statics tasks) = (s.graph.wave x.rounds.length).length := by
      have hmap := congrArg Multiset.card hbusy
      rwa [busy, Multiset.card_map, Multiset.coe_card] at hmap
    have hsum := stepsLeft_le _ hfirst
    have hpos : 0 < (s.graph.wave x.rounds.length).length := List.length_pos_iff.2 hwave
    have hleft := s.graph.leftOut_succ x.rounds.length
    rw [hcard] at hsum
    simp only [effort, hrounds]
    -- the nodes of the wave are no longer fresh; that pays for their steps and the next rest
    generalize s.graph.leftOut x.rounds.length = a at hleft ⊢
    generalize s.graph.leftOut (x.rounds.length + 1) = b at hleft ⊢
    generalize (s.graph.wave x.rounds.length).length = w at *
    have hmul : (b + w) * (s.config.grace + 8) ≤ a * (s.config.grace + 8) :=
      Nat.mul_le_mul_right _ hleft
    rw [Nat.add_mul, Nat.mul_add w] at hmul
    have hgrace : s.config.grace ≤ w * s.config.grace := Nat.le_mul_of_pos_left _ hpos
    omega
  | stalls hnil hleft hidle =>
    simp only [effort]
    omega
  | deadlocks hnil hleft hidle => simp [effort]
  | @sleeps x y statics tasks tasks' faults n step step' rest htodo htodo' hboard hleft hcarries =>
    have hrounds : y.rounds = x.rounds := congrArg Board.rounds hboard
    simp only [effort, htodo, htodo', hrounds, stepsLeft_cons, Option.elim_some]
    omega
  | @completes x y statics statics' tasks tasks' faults n o text htodo hboard hresult =>
    have hrounds : y.rounds = x.rounds := congrArg Board.rounds hboard
    have hlt := stepsLeft_lt_cons (n, o) (todo statics' tasks')
    simp only [effort, htodo, hrounds]
    omega
  | @fails x y statics statics' tasks tasks' faults n o cause htodo hboard hresult =>
    have hrounds : y.rounds = x.rounds := congrArg Board.rounds hboard
    have hlt := stepsLeft_lt_cons (n, o) (todo statics' tasks')
    simp only [effort, htodo, hrounds]
    omega
  | settles =>
    simp only [effort]
    omega
  | stops => simp [effort]

/-- **A course is no longer than the effort at its start.** -/
theorem Snapshot.Leads.effort_le (hs : Distinct s.nodes) {past : List Snapshot} (h : Sound s m)
    (hl : Leads s m past m') : Sound s m' ∧ past.length + m'.effort s ≤ m.effort s := by
  induction hl with
  | refl => exact ⟨h, by simp⟩
  | pass moment _ ih => exact ⟨ih.1.atMoment moment, ih.2⟩
  | next _ hn ih =>
    have hlt := (ih.1.moves hs hn).effort_lt
    refine ⟨ih.1.next hs hn, ?_⟩
    rw [List.length_append, List.length_singleton]
    omega

/-- The effort before the first round. -/
theorem effort_initial_lt (s : Setup) :
    (Snapshot.initial s).effort s < RunState.suspensions s := by
  have hleft : s.graph.leftOut 0 ≤ s.nodes.length := List.countP_le_length
  have hmul := Nat.mul_le_mul_right (s.config.grace + 8) hleft
  have heffort : (Snapshot.initial s).effort s =
      s.graph.leftOut 0 * (s.config.grace + 8) + (s.config.grace + 2) + 1 := rfl
  rw [heffort, RunState.suspensions, Nat.add_mul, Nat.one_mul]
  omega

/-- **A run that is not over can go on.** -/
theorem exists_next (s : Setup) (h : ∀ fault, m.stage ≠ .ended fault) : ∃ m', Next s m m' := by
  obtain ⟨x, stage⟩ := m
  cases stage with
  | ended fault => exact absurd rfl (h fault)
  | between idle =>
    cases hun : x.hasUnresolved with
    | false => exact ⟨_, .finishes hun⟩
    | true =>
      by_cases hrun : x.runnable s.graph = []
      · rcases Nat.lt_or_ge s.config.grace idle with hidle | hidle
        · exact ⟨_, .deadlocks hun hrun hidle⟩
        · exact ⟨_, .stalls hun hrun hidle⟩
      · exact ⟨_, .opens hun hrun⟩
  | round statics tasks faults =>
    cases faults with
    | cons f rest => exact ⟨_, .stops⟩
    | nil =>
      cases statics with
      | cons n rest => exact ⟨_, .resolves⟩
      | nil =>
        induction tasks using Multiset.induction with
        | empty => exact ⟨_, .settles⟩
        | cons t tasks _ => exact ⟨_, .works⟩

end Effort

/-! ## 2. The clock leads every run to its end -/

namespace RunState

variable {s : Setup}

/-- Whether some node is asleep when a run waits for its calls. -/
def Attended (st : RunState) : Prop :=
  ∀ asleep queue, st.waiting = .calls asleep queue → asleep ≠ []

theorem attended_serve (s : Setup) (heldBack : Bool) (nodes : List Node) (x : Execution) :
    (serve s heldBack nodes x).Attended := by
  induction nodes generalizing heldBack x with
  | nil =>
    intro asleep queue h
    cases h
  | cons n rest ih =>
    unfold serve
    rcases x.begin s n heldBack with ⟨y, pace⟩
    cases pace with
    | settled => exact ih true y
    | asleep z =>
      rintro asleep queue ⟨⟩
      exact List.cons_ne_nil z []
    | stops f =>
      intro asleep queue h
      cases h

theorem attended_afterSteps (s : Setup) (asleep : List Sleeper) (faults : List RunFault)
    (queue : List Node) (x : Execution) : (afterSteps s asleep faults queue x).Attended := by
  cases faults with
  | cons f rest =>
    intro asleep queue h
    cases h
  | nil =>
    cases asleep with
    | nil => exact attended_serve s true queue x
    | cons z rest =>
      rintro asleep queue ⟨⟩
      exact List.cons_ne_nil z rest

theorem attended_poll (s : Setup) (idle : Nat) (x : Execution) : (poll s idle x).Attended := by
  -- a state that waits for no calls has nobody to attend to
  have hover : ∀ st : RunState, (∀ asleep queue, st.waiting ≠ .calls asleep queue) →
      st.Attended := by
    intro st h asleep queue heq
    exact absurd heq (h asleep queue)
  unfold poll
  cases x.hasUnresolved with
  | false => exact hover _ (by simp [finished])
  | true =>
    cases x.runnable s.graph with
    | nil =>
      by_cases hidle : s.config.grace < idle
      · simp only [if_true, hidle]
        exact hover _ (by simp [stopped])
      · simp only [if_true, hidle, if_false]
        exact hover _ (by simp [resting])
    | cons n rest =>
      simp only [if_true, round]
      rcases startAll (n :: rest) { x with rounds := x.rounds ++ [(n :: rest).map (·.id)] } with
        ⟨y, fault⟩
      cases fault with
      | some f => exact hover _ (by simp [stopped])
      | none =>
        rcases hres : resolveAll s ((n :: rest).filter (·.isStatic)) y with ⟨w, fault⟩
        simp only [hres]
        cases fault with
        | some f => exact hover _ (by simp [stopped])
        | none =>
          simp only [beginCalls]
          split
          · exact attended_serve s false _ w
          · exact attended_afterSteps s _ _ _ _

theorem attended_resume {st : RunState} (h : st.Attended) (s : Setup) (wakes : Sleeper → Bool)
    (moment : Float) : (st.resume s wakes moment).Attended := by
  obtain ⟨x, idle, waiting⟩ := st
  cases waiting with
  | ended fault => exact h
  | rest due => exact attended_poll s idle _
  | calls asleep queue => exact attended_afterSteps s _ _ _ _

/-- **The clock never moves in vain**: what it moves to wakes somebody. -/
theorem woken_pos {st : RunState} {moment : Float} (h : st.nextMoment = some moment) :
    0 < st.woken fun z => isDueAt moment z.due := by
  obtain ⟨x, idle, waiting⟩ := st
  cases waiting with
  | ended fault => cases h
  | rest due => exact Nat.one_pos
  | calls asleep queue =>
    obtain ⟨z, hz, hdue⟩ := exists_due_of_earliest h
    refine List.length_pos_of_mem (List.mem_filter.2 ⟨hz, ?_⟩)
    rw [hdue]
    exact isDueAt_self moment

/-- A state that waits for nothing is over. -/
theorem ended_of_nextMoment {st : RunState} (h : st.Attended) (hnone : st.nextMoment = none) :
    ∃ fault, st.waiting = .ended fault := by
  obtain ⟨x, idle, waiting⟩ := st
  cases waiting with
  | ended fault => exact ⟨fault, rfl⟩
  | rest due => cases hnone
  | calls asleep queue =>
    cases asleep with
    | nil => exact absurd rfl (h [] queue rfl)
    | cons z rest =>
      simp only [nextMoment, earliest] at hnone
      split at hnone <;> cases hnone

/-- Driving long enough leads to the end. -/
theorem driveFor_ended (hs : Distinct s.nodes) (fuel : Nat) {st : RunState}
    (hsound : Sound s st.snapshot) (h : st.Attended) (hfuel : st.snapshot.effort s ≤ fuel) :
    (driveFor s none fuel st).cancelled = false ∧
      ∃ fault, (driveFor s none fuel st).state.waiting = .ended fault := by
  induction fuel generalizing st with
  | zero =>
    -- no effort is left at the end only
    refine ⟨rfl, ?_⟩
    obtain ⟨x, idle, waiting⟩ := st
    cases waiting with
    | ended fault => exact ⟨fault, rfl⟩
    | rest due => simp [snapshot, stage, effort] at hfuel
    | calls asleep queue => simp [snapshot, stage, effort] at hfuel
  | succ fuel ih =>
    unfold driveFor
    cases hnext : st.nextMoment with
    | none => exact ⟨rfl, ended_of_nextMoment h hnext⟩
    | some moment =>
      obtain ⟨past, hpast, hl⟩ :=
        comes_resume s (fun z => isDueAt moment z.due) moment st
      obtain ⟨hsound', heffort⟩ := hl.effort_le hs hsound
      have hpos := woken_pos hnext
      exact ih hsound' (attended_resume h s _ moment) (by
        rw [show st.tick s moment = st.resume s (fun z => isDueAt moment z.due) moment from rfl]
        omega)

/-- **A run that is not cancelled is led to its end.** -/
theorem drive_ended (hs : Distinct s.nodes) :
    (drive s none).cancelled = false ∧ ∃ fault, (drive s none).state.waiting = .ended fault := by
  obtain ⟨past, _, hl⟩ := comes_start s
  obtain ⟨hsound, heffort⟩ := hl.effort_le hs (sound_initial hs)
  have hinitial := effort_initial_lt s
  exact driveFor_ended hs _ hsound (attended_poll s 0 _) (by omega)

end RunState

/-- A run that has come to its end. -/
def Run.ended (s : Setup) (x : Execution) : Option RunFault → Run
  | none => ⟨.completed (x.record s.nodes), some x⟩
  | some f => ⟨.stopped f, some x⟩

/-- **Some nodes are run to the end of a course.** -/
theorem Run.ofNodes_eq_ended {s : Setup} (hs : Distinct s.nodes) :
    ∃ past x fault, Leads s (Snapshot.initial s) past ⟨x, .ended fault⟩ ∧
      Run.ofNodes s = Run.ended s x fault := by
  obtain ⟨hcancel, fault, hwaiting⟩ := RunState.drive_ended hs
  obtain ⟨past, _, hl⟩ := RunState.comes_drive s none
  have hstage : (RunState.drive s none).state.snapshot =
      ⟨(RunState.drive s none).state.execution, .ended fault⟩ := by
    rw [RunState.snapshot, RunState.stage, hwaiting]
  refine ⟨past, _, fault, hstage ▸ hl, ?_⟩
  simp only [ofNodes, outcomeOf, hcancel, hwaiting]
  cases fault <;> rfl

/-! ## 3. When nothing can be begun -/

section Idle

variable {s : Setup} {m m' : Snapshot}

/-- **Once nothing can be begun between two rounds, nothing happens any more** but that time
passes and the run is ended. -/
theorem Snapshot.Leads.idles {past : List Snapshot} (hl : Leads s m past m')
    (hstage : ∃ idle, m.stage = .between idle) (hrun : m.execution.runnable s.graph = []) :
    ((∃ idle, m'.stage = .between idle) ∨ ∃ fault, m'.stage = .ended fault) ∧
      ∃ workflow now, m'.execution = { m.execution with workflow := workflow, now := now } := by
  induction hl with
  | refl => exact ⟨Or.inl hstage, _, _, rfl⟩
  | pass moment _ ih =>
    obtain ⟨hstage', workflow, now, heq⟩ := ih
    exact ⟨hstage', workflow, moment, by rw [atMoment, heq]⟩
  | @next past b b' _ hn ih =>
    obtain ⟨hstage', workflow, now, heq⟩ := ih
    have hrun' : b.execution.runnable s.graph = [] := by
      rw [heq]
      exact hrun
    rcases hstage' with ⟨idle, hidle⟩ | ⟨fault, hover⟩
    · cases hn with
      | @finishes x _ hun =>
        refine ⟨Or.inr ⟨_, rfl⟩, (x.moveWorkflow .completed).workflow, now, ?_⟩
        exact (x.moveWorkflow_eq _).trans (congrArg (fun y : Execution =>
          { y with workflow := (x.moveWorkflow .completed).workflow }) heq)
      | opens hun hne => exact absurd hrun' hne
      | stalls hun hnil hgrace => exact ⟨Or.inl ⟨_, rfl⟩, workflow, now, heq⟩
      | @deadlocks x _ hun hnil hgrace =>
        refine ⟨Or.inr ⟨_, rfl⟩, (x.moveWorkflow .failed).workflow, now, ?_⟩
        exact (x.moveWorkflow_eq _).trans (congrArg (fun y : Execution =>
          { y with workflow := (x.moveWorkflow .failed).workflow }) heq)
      | resolves => cases hidle
      | works => cases hidle
      | settles => cases hidle
      | stops => cases hidle
    · cases hn <;> cases hover

/-- Whether a run rests after a round in which nothing could be begun. -/
def Stage.isStalled : Stage → Bool
  | between idle => decide (0 < idle)
  | _ => false

/-- How many pauses of a course were stalled. -/
def stalls (past : List Snapshot) : Nat := past.countP fun m => m.stage.isStalled

theorem stalls_concat (past : List Snapshot) (m : Snapshot) :
    stalls (past ++ [m]) = stalls past + if m.stage.isStalled then 1 else 0 := by
  simp [stalls, List.countP_append, List.countP_singleton]

/-- How many pauses were stalled when a run stands somewhere. -/
def Counted (s : Setup) (stalled : Nat) : Stage → Prop
  | .between idle => idle ≤ s.config.grace + 1 ∧ stalled = idle - 1
  | .round _ _ _ => stalled = 0
  | .ended (some (.deadlock _)) => stalled = s.config.grace + 1
  | .ended _ => True

/-- **A run counts its stalled pauses, and comes to one more than it puts up with.** -/
theorem counted_of_leads (hs : Distinct s.nodes) {past : List Snapshot}
    (hl : Leads s (Snapshot.initial s) past m) : Counted s (stalls past) m.stage := by
  induction hl with
  | refl => exact ⟨Nat.zero_le _, rfl⟩
  | pass moment _ ih => exact ih
  | @next past m m' hl hn ih =>
    have hsound := hl.sound hs
    rw [stalls_concat]
    cases hsound.moves hs hn with
    | finishes hall => exact trivial
    | @opens x y idle statics tasks hwave hboard hbusy hkind hfirst =>
      cases hsound with
      | between hrun h hidle =>
        have hzero : idle = 0 := by
          by_contra hne
          exact hwave (hidle (Nat.pos_of_ne_zero hne))
        subst hzero
        simp only [Counted, Stage.isStalled] at ih ⊢
        simp [ih.2]
    | @stalls x idle hnil hleft hidle =>
      simp only [Counted, Stage.isStalled] at ih ⊢
      cases idle with
      | zero => simp [ih.2]
      | succ i => simp [ih.2]; omega
    | @deadlocks x idle hnil hleft hidle =>
      simp only [Counted, Stage.isStalled] at ih ⊢
      have hpos : 0 < idle := by omega
      simp only [hpos, decide_true, if_true]
      omega
    | sleeps htodo htodo' hboard hleft hcarries => simpa [Counted, Stage.isStalled] using ih
    | completes htodo hboard hresult => simpa [Counted, Stage.isStalled] using ih
    | fails htodo hboard hresult => simpa [Counted, Stage.isStalled] using ih
    | settles =>
      simp only [Counted, Stage.isStalled] at ih ⊢
      simp [ih]
    | @stops x statics tasks f faults =>
      cases hsound with
      | round hrun hk h hkind hu =>
        obtain ⟨n, _, cause, rfl, _⟩ := hu.failed f List.mem_cons_self
        exact trivial

end Idle

/-! ## 4. When a node has failed -/

section Failure

variable {s : Setup} {m m' : Snapshot}

/-- Between two rounds every node is pending or completed. -/
theorem phase_of_layered {x : Execution} (h : Layered s x.board x.rounds.length) {n : Node}
    (hn : n ∈ s.nodes) {p : Phase} (hphase : x.phase? n.id = some p) :
    p = .pending ∨ p = .completed := by
  by_cases hset : n.id ∈ s.graph.settled x.rounds.length
  · obtain ⟨output, hshow⟩ := h.completed n.id hset
    exact Or.inr (Execution.phase_eq_of_shows hshow hphase).symm
  · exact Or.inl (Execution.phase_eq_of_shows ((h.pending n hn).2 hset) hphase).symm

/-- Between two rounds no node has failed. -/
theorem not_failed_of_layered {x : Execution} (h : Layered s x.board x.rounds.length) {n : Node}
    (hn : n ∈ s.nodes) : x.phase? n.id ≠ some .failed := by
  intro hfail
  rcases phase_of_layered h hn hfail with heq | heq <;> cases heq

/-- In a round only nodes of its wave are neither pending nor completed. -/
theorem mem_wave_of_phase {x : Execution} {k : Nat} (hs : Distinct s.nodes)
    (h : Layered s x.board k) (hk : x.rounds.length = k + 1) {n : Node} (hn : n ∈ s.nodes)
    {p : Phase} (hphase : x.phase? n.id = some p) (hpending : p ≠ .pending)
    (hcompleted : p ≠ .completed) : n ∈ s.graph.wave k := by
  have hafter : n.id ∈ s.graph.settled (k + 1) := by
    by_contra hnot
    have hpend : x.board.Shows n.id .pending := (h.pending n hn).2 (by
      rw [show x.board.rounds.length = k + 1 from hk]
      exact hnot)
    exact hpending (Execution.phase_eq_of_shows hpend hphase).symm
  refine mem_wave_of_settled hs hn (fun hbefore => ?_) hafter
  obtain ⟨output, hshow⟩ := h.completed n.id hbefore
  exact hcompleted (Execution.phase_eq_of_shows hshow hphase).symm

/-- **When a node has failed**, it belongs to the last round, and the first fault of the run is
that of a node of that round. -/
theorem Sound.fault_of_failed (hs : Distinct s.nodes) (h : Sound s m) {n : Node}
    (hn : n ∈ s.nodes) (hfail : m.execution.phase? n.id = some .failed) :
    ∃ k, m.execution.rounds.length = k + 1 ∧ n ∈ s.graph.wave k ∧
      ∃ n' ∈ s.graph.wave k, ∃ cause : NodeCause,
        m.stage.faults.head? = some (.node { node := n'.id, cause := some cause }) := by
  cases h with
  | between hrun h hidle => exact absurd hfail (not_failed_of_layered h hn)
  | completed hrun h hall => exact absurd hfail (not_failed_of_layered h hn)
  | deadlocked hrun h hnil hleft => exact absurd hfail (not_failed_of_layered h hn)
  | @round x k statics tasks faults hrun hk h hkind hu =>
    have hwave := mem_wave_of_phase hs h hk hn hfail (by decide) (by decide)
    refine ⟨k, hk, hwave, ?_⟩
    -- a busy or a completed node has not failed, so there is a fault, and perhaps an earlier one
    rcases hu.accounted n hwave with hbusy | ⟨output, hshow⟩ | ⟨cause, _, hfault⟩
    · cases Execution.phase_eq_of_shows (hu.running n hbusy).2 hfail
    · cases Execution.phase_eq_of_shows hshow hfail
    · cases faults with
      | nil => exact absurd hfault List.not_mem_nil
      | cons f rest =>
        obtain ⟨n', hn', cause', rfl, _⟩ := hu.failed f List.mem_cons_self
        exact ⟨n', hn', cause', rfl⟩
  | @failed x k left f faults hrun hk h hu =>
    refine ⟨k, hk, mem_wave_of_phase hs h hk hn hfail (by decide) (by decide), ?_⟩
    obtain ⟨n', hn', cause, rfl, _⟩ := hu.failed f List.mem_cons_self
    exact ⟨n', hn', cause, rfl⟩

/-- **After a fault no round is opened**, and the first fault is the one that counts. -/
theorem Snapshot.Leads.rounds_of_fault (hs : Distinct s.nodes) (h : Sound s m)
    {past : List Snapshot} (hl : Leads s m past m') {f : RunFault}
    (hf : m.stage.faults.head? = some f) :
    m'.stage.faults.head? = some f ∧ m'.execution.rounds = m.execution.rounds := by
  have hall : Sound s m' ∧ m'.stage.faults.head? = some f ∧
      m'.execution.rounds = m.execution.rounds := by
    induction hl with
    | refl => exact ⟨h, hf, rfl⟩
    | pass moment _ ih => exact ⟨ih.1.atMoment moment, ih.2⟩
    | @next past b b' _ hn ih =>
      obtain ⟨hsound, hfault, hrounds⟩ := ih
      have hmoves := hsound.moves hs hn
      refine ⟨hsound.next hs hn, ?_⟩
      rw [← hrounds]
      rcases hmoves.rounds with hsame | ⟨⟨idle, hstage⟩, _⟩
      · refine ⟨?_, hsame⟩
        cases hmoves with
        | sleeps htodo htodo' hboard hleft hcarries => exact hfault
        | completes htodo hboard hresult => exact hfault
        | @fails x y statics statics' tasks tasks' faults n o cause htodo hboard hresult =>
          cases faults with
          | nil => cases hfault
          | cons g rest => exact hfault
        | stops => exact hfault
        | finishes hall => cases hfault
        | opens hwave hboard hbusy hkind hfirst => cases hfault
        | stalls hnil hleft hidle => cases hfault
        | deadlocks hnil hleft hidle => cases hfault
        | settles => cases hfault
      · rw [hstage] at hfault
        cases hfault
  exact hall.2

/-- The ids of the last round are those of its wave. -/
theorem getLast?_rounds {x : Execution} {j k : Nat} (h : Layered s x.board j)
    (hk : x.rounds.length = k + 1) :
    x.rounds.getLast? = some ((s.graph.wave k).map (·.id)) := by
  have hrounds : x.rounds = (List.range x.rounds.length).map fun i =>
      (s.graph.wave i).map (·.id) := h.rounds
  rw [hrounds, hk, List.range_succ, List.map_append, List.map_singleton]
  exact List.getLast?_concat

end Failure

/-! ## 5. What a run comes to -/

section Ends

open Classical in
/-- The ids of the nodes outside the least closed set, in their order. -/
noncomputable def Setup.stuck (s : Setup) : List String :=
  (s.nodes.map (·.id)).filter fun id => decide (¬ s.graph.Settles id)

/-- What every run of some nodes comes to. -/
structure Terminates (s : Setup) : Prop where
  /-- Every course is bounded. -/
  bounded : ∀ {past : List Snapshot} {m : Snapshot}, Leads s (Snapshot.initial s) past m →
    past.length < RunState.suspensions s
  /-- A run that is not over can go on. -/
  live : ∀ {m : Snapshot}, (∀ fault, m.stage ≠ .ended fault) → ∃ m', Next s m m'
  /-- Running the nodes is to go to the end of a course. -/
  driven : ∃ past x fault, Leads s (Snapshot.initial s) past ⟨x, .ended fault⟩ ∧
    Run.ofNodes s = Run.ended s x fault
  /-- When no node has failed, the least closed set is completed. -/
  completed : ∀ {past : List Snapshot} {x : Execution} {fault : Option RunFault},
    Leads s (Snapshot.initial s) past ⟨x, .ended fault⟩ →
    (∀ n ∈ s.nodes, x.phase? n.id ≠ some .failed) →
    ∀ id, x.phase? id = some .completed ↔ s.graph.Settles id
  /-- When that is every node, the run is completed, after no more rounds than there are nodes. -/
  whole : ∀ {past : List Snapshot} {x : Execution} {fault : Option RunFault},
    Leads s (Snapshot.initial s) past ⟨x, .ended fault⟩ →
    (∀ n ∈ s.nodes, x.phase? n.id ≠ some .failed) → (∀ n ∈ s.nodes, s.graph.Settles n.id) →
    fault = none ∧ x.rounds.length ≤ s.nodes.length
  /-- Otherwise there is a deadlock of the other nodes, after one stalled pause more than the run
  puts up with. -/
  deadlock : ∀ {past : List Snapshot} {x : Execution} {fault : Option RunFault},
    Leads s (Snapshot.initial s) past ⟨x, .ended fault⟩ →
    (∀ n ∈ s.nodes, x.phase? n.id ≠ some .failed) → (∃ n ∈ s.nodes, ¬ s.graph.Settles n.id) →
    ∃ d, fault = some (.deadlock d) ∧ d.pending = s.stuck ∧ stalls past = s.config.grace + 1
  /-- Once nothing can be begun between two rounds, it stays so, and nothing is called or
  stored. -/
  idle : ∀ {a b : Snapshot} {past : List Snapshot}, Leads s a past b →
    (∃ idle, a.stage = .between idle) → a.execution.runnable s.graph = [] →
    b.execution.runnable s.graph = [] ∧ b.execution.outputs = a.execution.outputs ∧
      b.execution.nodes = a.execution.nodes ∧ b.execution.calls = a.execution.calls
  /-- Once a node has failed, its round is the last one, and the run ends with the failure of a
  node of that round. -/
  failure : ∀ {past : List Snapshot} {a : Snapshot}, Leads s (Snapshot.initial s) past a →
    ∀ n ∈ s.nodes, a.execution.phase? n.id = some .failed →
    ∀ {more : List Snapshot} {b : Snapshot}, Leads s a more b →
    b.execution.rounds = a.execution.rounds ∧
      ∃ round, b.execution.rounds.getLast? = some round ∧ n.id ∈ round ∧
        ∀ fault, b.stage = .ended fault →
          ∃ f : NodeFailure, fault = some (.node f) ∧ f.node ∈ round

variable {s : Setup}

/-- What the last stages say of a run that came to its end without a failure. -/
theorem end_of_no_failure (hs : Distinct s.nodes) {past : List Snapshot} {x : Execution}
    {fault : Option RunFault} (hl : Leads s (Snapshot.initial s) past ⟨x, .ended fault⟩)
    (hok : ∀ n ∈ s.nodes, x.phase? n.id ≠ some .failed) :
    Layered s x.board x.rounds.length ∧ s.graph.wave x.rounds.length = [] ∧
      ((fault = none ∧ ∀ n ∈ s.nodes, n.id ∈ s.graph.settled x.rounds.length) ∨
        fault = some (.deadlock (s.deadlockAfter x.rounds.length)) ∧
          ∃ n ∈ s.nodes, n.id ∉ s.graph.settled x.rounds.length) := by
  cases hl.sound hs with
  | completed hrun h hall =>
    exact ⟨h, wave_eq_nil_of_settled hall, Or.inl ⟨rfl, hall⟩⟩
  | deadlocked hrun h hnil hleft => exact ⟨h, hnil, Or.inr ⟨rfl, hleft⟩⟩
  | failed hrun hk h hu =>
    obtain ⟨n, hn, cause, _, hshow⟩ := hu.failed _ List.mem_cons_self
    exact absurd (Execution.phase?_of_shows hshow) (hok n (mem_wave.1 hn).1)

/-- **Every run of nodes with distinct ids ends, and ends as the stages of their graph say.** -/
theorem run_terminates (hs : Distinct s.nodes) : Terminates s where
  bounded hl := by
    have heffort := (hl.effort_le hs (sound_initial hs)).2
    have hinitial := effort_initial_lt s
    omega
  live := exists_next s
  driven := Run.ofNodes_eq_ended hs
  completed hl hok id := by
    obtain ⟨h, hnil, _⟩ := end_of_no_failure hs hl hok
    rw [completed_iff_settled h, settles_iff_of_wave_eq_nil hnil]
  whole hl hok hall := by
    obtain ⟨h, hnil, hfault⟩ := end_of_no_failure hs hl hok
    refine ⟨?_, stages_le_length hs h.waves⟩
    rcases hfault with ⟨hnone, _⟩ | ⟨_, n, hn, hnot⟩
    · exact hnone
    · exact absurd ((settles_iff_of_wave_eq_nil hnil).1 (hall n hn)) hnot
  deadlock hl hok hleft := by
    obtain ⟨h, hnil, hfault⟩ := end_of_no_failure hs hl hok
    rcases hfault with ⟨_, hall⟩ | ⟨hdead, _⟩
    · obtain ⟨n, hn, hnot⟩ := hleft
      exact absurd ((settles_iff_of_wave_eq_nil hnil).2 (hall n hn)) hnot
    · subst hdead
      refine ⟨_, rfl, ?_, counted_of_leads hs hl⟩
      simp only [Setup.deadlockAfter, Setup.stuck, settles_iff_of_wave_eq_nil hnil]
  idle hl hstage hrun := by
    obtain ⟨_, workflow, now, heq⟩ := hl.idles hstage hrun
    rw [heq]
    exact ⟨hrun, rfl, rfl, rfl⟩
  failure hl n hn hfail more b hmore := by
    have hsound := hl.sound hs
    obtain ⟨k, hk, hwave, n', hn', cause, hhead⟩ := hsound.fault_of_failed hs hn hfail
    obtain ⟨hfault, hrounds⟩ := hmore.rounds_of_fault hs hsound hhead
    obtain ⟨j, hj, _⟩ := hsound.layered
    refine ⟨hrounds, _, hrounds ▸ getLast?_rounds hj hk, List.mem_map_of_mem hwave, ?_⟩
    intro fault hstage
    rw [hstage] at hfault
    cases fault with
    | none => cases hfault
    | some f =>
      obtain rfl := Option.some.inj hfault
      exact ⟨_, rfl, List.mem_map_of_mem hn'⟩

/-- A run of a free node, two that wait for each other, and one that waits for nobody. -/
def blocked : Setup where
  nodes := [
    { id := "a", kind := .static, template := "free" },
    { id := "b", kind := .static, references := ["c"] },
    { id := "c", kind := .llm (.nickname "flash"), references := ["b"] },
    { id := "d", kind := .static, references := ["nobody"] }]
  client := echoClient
  config := {}
  input := ""
  listener := none

/-- The run ends in a deadlock. -/
theorem run_terminates_blocked : Distinct blocked.nodes ∧ Terminates blocked ∧
    (match (Run.ofNodes blocked).outcome with
      | .stopped f => decide (f = .deadlock ⟨["b", "c", "d"], ["b", "c"]⟩)
      | _ => false) = true :=
  ⟨by decide, run_terminates (by decide), by decide +kernel⟩

end Ends
end PromptChain
