/-
# What is left of a round in which a node fails

When nodes of a round fail, the run is stopped with the fault that came first.  What a run is told
keeps the order of the faults (`Stage.Told`): a step tells of a failure exactly when it is a fault,
so the first failure that was told is the one the run is stopped with, whatever the others did
before that was noticed.

The others are left where they are.  A node of the round has come to its end or is still running,
and then nothing is stored for it and its call, if it has made one, is not answered.  Every other
node shows what it showed before the round was opened: a step changes nodes of the last round only
(`Sound.frame`), and after a fault that round stays the last (`Aftermath`).
-/
import PromptChain.Proofs.Run.Calls
import PromptChain.Proofs.Run.Chronicle

namespace PromptChain

open PromptChain.Graph Snapshot

/-! ## 1. Failures that are told -/

/-- Whether an event is the failure of a node. -/
def Event.isFailed : Event → Bool
  | failed _ _ => true
  | _ => false

/-- The failures among some events. -/
def failuresOf (events : List Event) : List Event := events.filter (·.isFailed)

/-- Whether the failures told are the faults so far; of a run that is over only the first is
known. -/
def Stage.Told (failures : List Event) : Stage → Prop
  | between _ => failures = []
  | round _ _ faults => failures = faults.flatMap RunFault.told
  | ended fault => fault.toList.flatMap RunFault.told <+: failures

section Failures

variable {s : Setup} {x : Execution} {m m' : Snapshot} {n : Node} {beginning launch : List Event}

theorem failuresOf_append (events new : List Event) :
    failuresOf (events ++ new) = failuresOf events ++ failuresOf new :=
  List.filter_append ..

theorem RunFault.failuresOf_told (f : RunFault) : failuresOf f.told = f.told := by
  unfold told
  split <;> rfl

theorem Setup.failuresOf_delaying (s : Setup) (n : Node) (heldBack : Bool) :
    failuresOf (s.delaying n heldBack) = [] := by
  unfold delaying
  split <;> rfl

theorem Setup.failuresOf_launching (s : Setup) (o : Store String) (n : Node) :
    failuresOf (s.launching o n) = [] := by
  unfold launching
  split
  · rfl
  · split <;> rfl

section Steps

variable (hbeginning : failuresOf beginning = []) (hlaunch : failuresOf launch = [])

include hbeginning hlaunch

theorem failuresOf_opening : failuresOf (beginning ++ launch) = [] := by
  rw [failuresOf_append, hbeginning, hlaunch, List.append_nil]

theorem Step.failuresOf_told (step : Step) : failuresOf (step.told beginning launch) = [] := by
  cases step with
  | begin heldBack => rfl
  | launch => exact hbeginning
  | send model prompt => exact failuresOf_opening hbeginning hlaunch
  | answer index r => exact failuresOf_opening hbeginning hlaunch

/-- A node tells of a failure when it fails, and not otherwise. -/
theorem Pace.failuresOf_told (id : String) (pace : Pace) :
    failuresOf (pace.told id beginning launch) = pace.faults.flatMap RunFault.told := by
  have hbefore := failuresOf_opening hbeginning hlaunch
  cases pace with
  | asleep z => exact Step.failuresOf_told hbeginning hlaunch z.task.step
  | settled =>
    rw [told, failuresOf_append, hbefore]
    rfl
  | stops f =>
    rw [told, failuresOf_append, hbefore, f.failuresOf_told, faults, List.flatMap_singleton,
      List.nil_append]

end Steps

/-- **A step of a running model node tells of a failure exactly when it is a fault.** -/
theorem Execution.failuresOf_perform {t : Task} (hheard : s.listener.isSome = true)
    (hrun : x.board.Shows t.node.id .running) (hllm : t.node.isLlm = true) :
    failuresOf (x.perform s t).1.progress =
      failuresOf x.progress ++ (x.perform s t).2.faults.flatMap RunFault.told := by
  obtain ⟨held, -, new, hprogress, -, htold⟩ := exists_tells hheard hrun hllm
  have hbeginning := s.failuresOf_delaying t.node held
  have hlaunch := s.failuresOf_launching x.outputs t.node
  have hnew := congrArg failuresOf htold
  rw [failuresOf_append, Step.failuresOf_told hbeginning hlaunch, List.nil_append,
    Pace.failuresOf_told hbeginning hlaunch] at hnew
  rw [hprogress, failuresOf_append, hnew]

/-- **Every step tells of the failures that are its faults.** -/
theorem Stage.Told.next (hs : Distinct s.nodes) (hheard : s.listener.isSome = true)
    (hsound : Sound s m) (h : m.stage.Told (failuresOf m.execution.progress)) (hn : Next s m m') :
    m'.stage.Told (failuresOf m'.execution.progress) := by
  cases hn with
  | finishes hun => exact List.nil_prefix
  | @opens x idle hun hrun =>
    cases hsound with
    | between hphase hlayered hidle =>
      rw [runnable_eq_wave hs hlayered]
      obtain ⟨y, heq, hprogress, -⟩ := exists_opened hs hlayered
      rw [heq]
      show failuresOf y.progress = []
      rw [hprogress]
      exact h
  | stalls hun hrun hidle => exact h
  | deadlocks hun hrun hidle => exact List.nil_prefix
  | @resolves x n rest tasks =>
    obtain ⟨-, hrun, -⟩ := hsound.running_of_todo (mem_todo_static n rest tasks)
    have hnone := (hsound.resolves hs).1
    have hprogress := Execution.progress_resolveStatic hheard hrun hnone
    rw [hnone]
    show failuresOf (x.resolveStatic s n).1.progress = []
    rw [hprogress, failuresOf_append, show failuresOf x.progress = [] from h]
    rfl
  | @works x t tasks faults =>
    obtain ⟨-, hrun, hllm⟩ := hsound.running_of_task
    show failuresOf (x.perform s t).1.progress =
      (faults ++ (x.perform s t).2.faults).flatMap RunFault.told
    rw [Execution.failuresOf_perform hheard hrun hllm, List.flatMap_append,
      show failuresOf x.progress = faults.flatMap RunFault.told from h]
  | settles => exact h
  | @stops x statics tasks f faults =>
    show [f].flatMap RunFault.told <+: failuresOf (x.moveWorkflow .failed).progress
    rw [Execution.progress_moveWorkflow, List.flatMap_singleton,
      show failuresOf x.progress = (f :: faults).flatMap RunFault.told from h, List.flatMap_cons]
    exact List.prefix_append _ _

/-- **At every point of every course the failures told are the faults so far.** -/
theorem Snapshot.Leads.told (hs : Distinct s.nodes) (hheard : s.listener.isSome = true)
    {past : List Snapshot} (h : Leads s (Snapshot.initial s) past m) :
    m.stage.Told (failuresOf m.execution.progress) := by
  induction h with
  | refl => exact rfl
  | pass moment _ ih => exact ih
  | next hl hn ih => exact ih.next hs hheard (hl.sound hs) hn

/-- The first failure that was told is the first fault. -/
theorem Stage.Told.find? {stage : Stage} {events : List Event} {f : NodeFailure}
    {cause : NodeCause} (h : stage.Told (failuresOf events))
    (hfault : stage.faults.head? = some (.node f)) (hcause : f.cause = some cause) :
    events.find? (·.isFailed) = some (.failed f.node cause.message) := by
  have htold : (RunFault.node f).told = [.failed f.node cause.message] := by
    obtain ⟨id, cause', remark⟩ := f
    obtain rfl : cause' = some cause := hcause
    rfl
  rw [← List.head?_filter]
  show (failuresOf events).head? = _
  cases stage with
  | between idle => cases hfault
  | round statics tasks faults =>
    obtain ⟨rest, hfaults⟩ := List.head?_eq_some_iff.1 hfault
    rw [show failuresOf events = _ from h, show faults = _ from hfaults, List.flatMap_cons, htold]
    rfl
  | ended fault =>
    obtain ⟨more, hmore⟩ : fault.toList.flatMap RunFault.told <+: failuresOf events := h
    cases fault with
    | none => cases hfault
    | some g =>
      obtain rfl := Option.some.inj hfault
      rw [← hmore, Option.toList_some, List.flatMap_singleton, htold]
      rfl

end Failures

/-! ## 2. Nodes outside a round -/

/-- Whether two boards agree on all nodes but some: where they stand, how they came there, and
what is stored for them. -/
def Board.AgreeOutside (ids : List String) (b b' : Board) : Prop :=
  ∀ id ∉ ids, b'.nodes.get? id = b.nodes.get? id ∧ b'.outputs.get? id = b.outputs.get? id

section Frame

variable {s : Setup} {b b' b'' : Board} {ids : List String} {m m' : Snapshot} {n : Node} {k : Nat}

theorem Board.AgreeOutside.refl (ids : List String) (b : Board) : AgreeOutside ids b b :=
  fun _ _ => ⟨rfl, rfl⟩

theorem Board.AgreeOutside.trans (h : AgreeOutside ids b b') (h' : AgreeOutside ids b' b'') :
    AgreeOutside ids b b'' :=
  fun id hid => ⟨(h' id hid).1.trans (h id hid).1, (h' id hid).2.trans (h id hid).2⟩

/-- Setting one of the nodes changes no other. -/
theorem Board.AgreeOutside.set {id : String} (hid : id ∈ ids) (b : Board) (st : Standing) :
    AgreeOutside ids b (b.set id st) := by
  intro other hother
  have hne : other ≠ id := fun heq => hother (heq ▸ hid)
  refine ⟨Store.get?_put_ne _ _ hne, ?_⟩
  cases hst : st.output? with
  | none => simp [Board.set, hst]
  | some output => simp [Board.set, hst, Store.get?_put_ne _ _ hne]

/-- Setting some of the nodes running changes no other. -/
theorem Board.AgreeOutside.start {nodes : List Node} (h : ∀ n ∈ nodes, n.id ∈ ids) (b : Board) :
    AgreeOutside ids b (b.start nodes) := by
  induction nodes generalizing b with
  | nil => exact .refl ids b
  | cons n rest ih =>
    exact (AgreeOutside.set (h n List.mem_cons_self) b .running).trans
      (ih (fun k hk => h k (List.mem_cons_of_mem n hk)) _)

/-- A node that is running belongs to the last round. -/
theorem Sound.mem_wave_of_running (hs : Distinct s.nodes) (h : Sound s m) (hn : n ∈ s.nodes)
    (hrun : m.execution.phase? n.id = some .running) :
    ∃ k, m.execution.rounds.length = k + 1 ∧ n ∈ s.graph.wave k := by
  have hbetween : ¬ Layered s m.execution.board m.execution.rounds.length := fun h => by
    rcases phase_of_layered h hn hrun with heq | heq <;> cases heq
  cases h with
  | between hphase h hidle => exact absurd h hbetween
  | round hphase hk h hkind hu =>
    exact ⟨_, hk, mem_wave_of_phase hs h hk hn hrun (by decide) (by decide)⟩
  | completed hphase h hall => exact absurd h hbetween
  | deadlocked hphase h hnil hleft => exact absurd h hbetween
  | failed hphase hk h hu =>
    exact ⟨_, hk, mem_wave_of_phase hs h hk hn hrun (by decide) (by decide)⟩

/-- **A step changes nodes of the last round only**, and that is the round it opens if it opens
one. -/
theorem Sound.frame (hs : Distinct s.nodes) (h : Sound s m) (hn : Next s m m')
    (hk : m'.execution.rounds.length = k + 1) :
    Board.AgreeOutside ((s.graph.wave k).map (·.id)) m.execution.board m'.execution.board := by
  rcases (h.moves hs hn).board h with ⟨workflow, hboard⟩ | ⟨-, -, hboard⟩ |
    ⟨n, hmem, st, hshow, -, hboard⟩
  · rw [hboard]
    exact fun id _ => ⟨rfl, rfl⟩
  · have hrounds := Execution.rounds_of_start hboard
    rw [hrounds, List.length_append, List.length_singleton] at hk
    obtain rfl : m.execution.rounds.length = k := Nat.succ.inj hk
    rw [hboard]
    exact Board.AgreeOutside.start (fun n hn => List.mem_map_of_mem hn)
      { m.execution.board with rounds := _ }
  · have hrounds : m'.execution.rounds = m.execution.rounds := congrArg Board.rounds hboard
    obtain ⟨j, hj, hwave⟩ := h.mem_wave_of_running hs hmem (Execution.phase?_of_shows hshow)
    obtain rfl : j = k := Nat.succ.inj (hj.symm.trans (hrounds ▸ hk))
    rw [hboard]
    exact Board.AgreeOutside.set (List.mem_map_of_mem hwave) _ st

end Frame

/-! ## 3. Rounds along a course -/

section Course

variable {s : Setup} {a b m m' : Snapshot} {past more : List Snapshot} {k : Nat}

/-- A snapshot that was left behind divides a course. -/
theorem Snapshot.Leads.exists_split (h : Leads s a past m) {c : Snapshot} (hc : c ∈ past) :
    ∃ p q, Leads s a p c ∧ Leads s c q m := by
  induction h with
  | refl => exact absurd hc List.not_mem_nil
  | pass moment _ ih =>
    obtain ⟨p, q, hp, hq⟩ := ih hc
    exact ⟨p, q, hp, .pass moment hq⟩
  | next hl hn ih =>
    rcases List.mem_append.1 hc with hc | hc
    · obtain ⟨p, q, hp, hq⟩ := ih hc
      exact ⟨p, _, hp, .next hq hn⟩
    · obtain rfl := List.mem_singleton.1 hc
      exact ⟨_, _, hl, .single hn⟩

/-- **The rounds of a run grow.** -/
theorem Sound.rounds_grow (hs : Distinct s.nodes) (h : Sound s m) (hl : Leads s m past m') :
    Sound s m' ∧ m.execution.rounds <+: m'.execution.rounds := by
  induction hl with
  | refl => exact ⟨h, List.prefix_refl _⟩
  | pass moment _ ih => exact ⟨ih.1.atMoment moment, ih.2⟩
  | next _ hn ih =>
    obtain ⟨hsound, hgrow⟩ := ih
    refine ⟨hsound.next hs hn, hgrow.trans ?_⟩
    rcases (hsound.moves hs hn).rounds with hsame | ⟨-, hrounds⟩
    · exact hsame ▸ List.prefix_refl _
    · exact hrounds ▸ List.prefix_append _ _

/-- **As long as no round is opened**, a course changes nodes of the last one only. -/
theorem Sound.frame_of_leads (hs : Distinct s.nodes) (h : Sound s m) (hl : Leads s m past m')
    (hk : m.execution.rounds.length = k + 1) (hk' : m'.execution.rounds.length = k + 1) :
    m'.execution.rounds = m.execution.rounds ∧
      Board.AgreeOutside ((s.graph.wave k).map (·.id)) m.execution.board m'.execution.board := by
  refine ⟨((h.rounds_grow hs hl).2.eq_of_length (hk.trans hk'.symm)).symm, ?_⟩
  induction hl with
  | refl => exact .refl _ _
  | pass moment _ ih => exact ih hk'
  | @next past c c' hl hn ih =>
    obtain ⟨hsound, hgrow⟩ := h.rounds_grow hs hl
    have hmid : c.execution.rounds.length = k + 1 := by
      have hle := hgrow.length_le
      have hle' := (hsound.rounds_grow hs (.single hn)).2.length_le
      omega
    exact (ih hmid).trans (hsound.frame hs hn hk')

/-- **Every round was opened by a step.** -/
theorem Snapshot.Leads.exists_opening (hs : Distinct s.nodes)
    (h : Leads s (Snapshot.initial s) past m) {before : List (List String)} {round : List String}
    (hrounds : m.execution.rounds = before ++ [round]) :
    ∃ p a b q, Leads s (Snapshot.initial s) p a ∧ Next s a b ∧ Leads s b q m ∧
      b.execution.rounds = a.execution.rounds ++ [round] := by
  induction h with
  | refl =>
    rw [show (Snapshot.initial s).execution.rounds = [] from rfl] at hrounds
    exact absurd hrounds (by simp)
  | pass moment _ ih =>
    obtain ⟨p, a, b, q, ha, hab, hb, hopen⟩ := ih hrounds
    exact ⟨p, a, b, q, ha, hab, .pass moment hb, hopen⟩
  | @next past c c' hl hn ih =>
    rcases ((hl.sound hs).moves hs hn).rounds with hsame | ⟨-, hnew⟩
    · obtain ⟨p, a, b, q, ha, hab, hb, hopen⟩ := ih (hsame ▸ hrounds)
      exact ⟨p, a, b, _, ha, hab, .next hb hn, hopen⟩
    · obtain ⟨-, hround⟩ := List.append_inj' (hnew.symm.trans hrounds) rfl
      exact ⟨_, c, c', [], hl, hn, .refl, by rw [hnew, hround]⟩

end Course

/-! ## 4. After a failure -/

/-- What is left of a round at a snapshot when one of its nodes has failed.  The round was opened at
another snapshot, some were left behind since, and a failure came first. -/
structure Aftermath (s : Setup) (a : Snapshot) (round : List String) (past : List Snapshot)
    (m : Snapshot) (f : NodeFailure) : Prop where
  /-- The run is stopped with the first failure, and by nothing else. -/
  fault : m.stage.faults.head? = some (.node f)
  ended : ∀ fault, m.stage = .ended fault →
    fault = some (.node f) ∧ m.execution.workflow.phase = .failed
  /-- It is that of a node of the round, and the first that was told. -/
  member : f.node ∈ round ∧ m.execution.phase? f.node = some .failed
  told : s.listener.isSome = true → ∃ cause, f.cause = some cause ∧
    m.execution.progress.find? (·.isFailed) = some (.failed f.node cause.message)
  /-- The nodes of the round are completed, have failed or still run. -/
  nodes : ∀ id ∈ round,
    (m.execution.phase? id = some .completed ∧
        ∃ output, m.execution.outputs.get? id = some output) ∨
      m.execution.phase? id = some .failed ∨ m.execution.phase? id = some .running
  /-- Of those that still run nothing is stored, and no call is answered. -/
  running : ∀ id, m.execution.phase? id = some .running →
    m.execution.outputs.get? id = none ∧ ∀ c, (id, c) ∈ m.execution.calls → c.finished = none
  /-- No other node has changed since the round was opened. -/
  outside : ∀ c ∈ past ++ [m], Board.AgreeOutside round a.execution.board c.execution.board
  /-- No other round was opened. -/
  last : ∀ c ∈ past ++ [m], c.execution.rounds = a.execution.rounds ++ [round]

section Failed

variable {s : Setup} {a b m : Snapshot} {past more : List Snapshot} {k : Nat}
  {round : List String} {id : String}

/-- **A step that opens a round opens that of the next wave**, and changes no node outside it. -/
theorem Sound.opening (hs : Distinct s.nodes) (h : Sound s a) (hn : Next s a b)
    (hopen : b.execution.rounds = a.execution.rounds ++ [round]) :
    round = (s.graph.wave a.execution.rounds.length).map (·.id) ∧
      Board.AgreeOutside round a.execution.board b.execution.board := by
  have hlength : b.execution.rounds.length = a.execution.rounds.length + 1 := by
    rw [hopen, List.length_append, List.length_singleton]
  have hround : round = (s.graph.wave a.execution.rounds.length).map (·.id) := by
    rcases (h.moves hs hn).rounds with hsame | ⟨-, hrounds⟩
    · rw [hsame] at hlength
      omega
    · exact List.singleton_inj.1 (List.append_cancel_left (hopen.symm.trans hrounds))
  exact ⟨hround, hround ▸ h.frame hs hn hlength⟩

/-- A node of the last round is completed, has failed or still runs. -/
theorem Sound.phase_of_mem_wave (h : Sound s m) {n : Node} (hn : n ∈ s.graph.wave k)
    (hk : k < m.execution.rounds.length) :
    (m.execution.phase? n.id = some .completed ∧
        ∃ output, m.execution.outputs.get? n.id = some output) ∨
      m.execution.phase? n.id = some .failed ∨ m.execution.phase? n.id = some .running := by
  have hmem := (mem_wave.1 hn).1
  obtain ⟨_, hlayered, -⟩ := h.layered
  obtain ⟨st, hshow⟩ := hlayered.tidy.shows n hmem
  have hphase := Execution.phase?_of_shows hshow
  cases st with
  | pending =>
    refine absurd ?_ ((h.pending_iff hmem).1 hphase)
    exact settled_mono hk (mem_settled_succ.2 (Or.inr ⟨n, hn, rfl⟩))
  | running => exact Or.inr (Or.inr hphase)
  | completed output => exact Or.inl ⟨hphase, output, hshow.2⟩
  | failed reason => exact Or.inr (Or.inl hphase)

/-- **Of a node that still runs nothing is stored, and its call is not answered.** -/
theorem Booked.of_running (hsound : Sound s m) (h : Booked s m)
    (hrun : m.execution.phase? id = some .running) :
    m.execution.outputs.get? id = none ∧ ∀ c, (id, c) ∈ m.execution.calls → c.finished = none := by
  obtain ⟨_, hlayered, -⟩ := hsound.layered
  have hshow := (Execution.phase?_eq_iff_shows hlayered.tidy .running (Or.inr rfl)).1 hrun
  refine ⟨hshow.2, fun c hc => h.unfinished id c hc fun output hdone => ?_⟩
  cases hshow.unique hdone

/-- A run that is over with a fault in its list was stopped with it, and has failed. -/
theorem Sound.ended_of_fault (h : Sound s m) {f : RunFault} (hf : m.stage.faults.head? = some f)
    {fault : Option RunFault} (hend : m.stage = .ended fault) :
    fault = some f ∧ m.execution.workflow.phase = .failed := by
  obtain ⟨x, stage⟩ := m
  obtain rfl : stage = .ended fault := hend
  cases h with
  | completed hphase h hall => cases hf
  | deadlocked hphase h hnil hleft => exact ⟨hf, hphase⟩
  | failed hphase hk h hu => exact ⟨hf, hphase⟩

/-- **When a node of a round has failed**, this is what is left of the round, at every snapshot from
there on. -/
theorem exists_aftermath (hs : Distinct s.nodes) (hvar : ∀ n ∈ s.nodes, n.modelVariable? ≠ some "")
    (ha : Leads s (Snapshot.initial s) past a) (hab : Next s a b)
    (hopen : b.execution.rounds = a.execution.rounds ++ [round]) (hb : Leads s b more m)
    (hid : id ∈ round) (hfailed : m.execution.phase? id = some .failed) :
    ∃ f, Aftermath s a round more m f := by
  have hsound := ha.sound hs
  have hleads : Leads s (Snapshot.initial s) _ m := (ha.trans (.single hab)).trans hb
  have hsound' := hleads.sound hs
  obtain ⟨hround, hframe⟩ := hsound.opening hs hab hopen
  obtain ⟨n, hn, rfl⟩ := List.mem_map.1 (hround ▸ hid)
  -- the failed node belongs to the last round, so no other was opened since
  obtain ⟨k, hk, hwave, n', hn', cause, hfault⟩ :=
    hsound'.fault_of_failed hs (mem_wave.1 hn).1 hfailed
  obtain rfl := wave_unique hn hwave rfl
  have hlength : b.execution.rounds.length = a.execution.rounds.length + 1 := by
    rw [hopen, List.length_append, List.length_singleton]
  have hsince : ∀ c ∈ more ++ [m], c.execution.rounds = b.execution.rounds ∧
      Board.AgreeOutside round b.execution.board c.execution.board := by
    intro c hc
    obtain ⟨p, q, hp, hq⟩ : ∃ p q, Leads s b p c ∧ Leads s c q m := by
      rcases List.mem_append.1 hc with hc | hc
      · exact hb.exists_split hc
      · obtain rfl := List.mem_singleton.1 hc
        exact ⟨more, [], hb, .refl⟩
    obtain ⟨hsoundc, hle⟩ := (hsound.next hs hab).rounds_grow hs hp
    have hle' := (hsoundc.rounds_grow hs hq).2.length_le
    rw [hround]
    refine (hsound.next hs hab).frame_of_leads hs hp hlength (Nat.le_antisymm ?_ ?_)
    · exact hk ▸ hle'
    · exact hlength ▸ hle.length_le
  refine ⟨⟨n'.id, some cause, ""⟩, hfault, fun fault => hsound'.ended_of_fault hfault,
    ⟨hround ▸ List.mem_map_of_mem hn', ?_⟩, fun hheard => ⟨cause, rfl, ?_⟩, fun id' hid' => ?_,
    fun id' => (hleads.booked hs hvar).of_running hsound', fun c hc => ?_, fun c hc => ?_⟩
  · exact hsound'.failed_of_mem_faults (List.mem_of_mem_head? hfault)
  · exact (hleads.told hs hheard).find? hfault rfl
  · obtain ⟨n'', hn'', rfl⟩ := List.mem_map.1 (hround ▸ hid')
    exact hsound'.phase_of_mem_wave hn'' (hk ▸ Nat.lt_succ_self _)
  · exact hframe.trans (hsince c hc).2
  · rw [(hsince c hc).1, hopen]

end Failed

/-- **A failure ends its round.**  Take the nodes of a script and any course of them, and a step of
it that opens a round.  When a node of this round has failed later on, one failure of the round came
first: it is the first that was told and the one the run is stopped with.  The others are completed,
have failed too or still run, half completed is none; no node outside the round has changed since
the round was opened, and no other round was opened.  So it is when a run of the script is over, and
not cancelled, in which a node has failed. -/
theorem failure_ends_round (source : String) :
    (∀ s : Setup, Script.load source = .ok s.nodes →
      ∀ {past more : List Snapshot} {a b m : Snapshot} {round : List String},
      Leads s (Snapshot.initial s) past a → Next s a b →
      b.execution.rounds = a.execution.rounds ++ [round] → Leads s b more m →
      ∀ id ∈ round, m.execution.phase? id = some .failed → ∃ f, Aftermath s a round more m f) ∧
    ∀ client config input listener limit,
      let run := Run.ofScript source client config input listener limit
      ∀ x id, run.execution = some x → x.phase? id = some .failed →
        run.outcome.isCancelled = false →
        ∃ nodes f, Script.load source = .ok nodes ∧ run.outcome = .stopped (.node f) ∧
          let s : Setup := { nodes, client, config, input, listener }
          ∃ past a b round more, Leads s (Snapshot.initial s) past a ∧ Next s a b ∧
            b.execution.rounds = a.execution.rounds ++ [round] ∧
            Leads s b more ⟨x, .ended (some (.node f))⟩ ∧ id ∈ round ∧
            Aftermath s a round more ⟨x, .ended (some (.node f))⟩ f := by
  have hcourse : ∀ s : Setup, Script.load source = .ok s.nodes →
      ∀ {past more : List Snapshot} {a b m : Snapshot} {round : List String},
      Leads s (Snapshot.initial s) past a → Next s a b →
      b.execution.rounds = a.execution.rounds ++ [round] → Leads s b more m →
      ∀ id ∈ round, m.execution.phase? id = some .failed → ∃ f, Aftermath s a round more m f := by
    intro s hload past more a b m round ha hab hopen hb id hid hfailed
    have hloaded := Script.loaded_of_load hload
    exact exists_aftermath hloaded.distinct (fun n hn => hloaded.modelVariable?_ne hn) ha hab hopen
      hb hid hfailed
  refine ⟨hcourse, fun client config input listener limit => ?_⟩
  intro run x id hx hfailed hover
  obtain ⟨nodes, past, fault, hload, hl, hrun⟩ := Run.ofScript_over hx hover
  have hs := (Script.loaded_of_load hload).distinct
  obtain ⟨k, hlayered, -⟩ := (hl.sound hs).layered
  obtain ⟨hnode, -⟩ := Execution.exists_shows_of_phase? hlayered.tidy hfailed
  obtain ⟨n, hn, rfl⟩ := List.mem_map.1 hnode
  -- the node belongs to the last round, which a step opened
  obtain ⟨j, hj, hwave, -⟩ := (hl.sound hs).fault_of_failed hs hn hfailed
  obtain ⟨before, hrounds⟩ := List.getLast?_eq_some_iff.1 (getLast?_rounds hlayered hj)
  obtain ⟨p, a, b, q, ha, hab, hb, hopen⟩ := hl.exists_opening hs hrounds
  obtain ⟨f, hafter⟩ := hcourse _ hload ha hab hopen hb n.id (List.mem_map_of_mem hwave) hfailed
  obtain ⟨rfl, -⟩ := hafter.ended fault rfl
  refine ⟨nodes, f, hload, ?_, p, a, b, _, q, ha, hab, hopen, hb, List.mem_map_of_mem hwave, hafter⟩
  simp only [run, hrun, Run.ended]

/-- Four nodes that may be called together, two of them with a model that cannot answer, and a fifth
that waits for the first. -/
def raceScript : String :=
  "#quick flash: go\n" ++
  "#lost broken: go\n" ++
  "#late slow: go\n" ++
  "#gone broken: go\n" ++
  "#after flash: \x7b\x7b#quick\x7d\x7d"

/-- A client with a model that takes its time, and one that fails. -/
def raceClient : Client where
  models := [{ nickname := "flash" }, { nickname := "broken" }, { nickname := "slow" }]
  transcript := .ok none
  answer r := if r.nickname = "broken" then .error ⟨.runtime, "down"⟩ else .ok r.prompt
  latency r := if r.nickname = "flash" then 0.25 else if r.nickname = "slow" then 2.0 else 0.5

/-- The first node is completed, then two fail at the same moment, and the run is stopped with the
first of these while the slow one still runs; the last is never begun. -/
theorem failure_ends_round_race : ∃ x f nodes a round more,
    Run.ofScript raceScript raceClient { sequential := false } "" (some fun _ _ => .ok ()) none =
      ⟨.stopped (.node f), some x⟩ ∧ f.node = "lost" ∧
    x.phases.entries = [("quick", .completed), ("lost", .failed), ("late", .running),
      ("gone", .failed), ("after", .pending)] ∧
    Aftermath ⟨nodes, raceClient, { sequential := false }, "", some fun _ _ => .ok (),
      fun _ => raceClient.encounter⟩ a round more ⟨x, .ended (some (.node f))⟩ f := by
  have hrun := (failure_ends_round raceScript).2 raceClient { sequential := false } ""
    (some fun _ _ => .ok ()) none
  have hfault : (Run.ofScript raceScript raceClient { sequential := false } ""
      (some fun _ _ => .ok ()) none).outcome.fault? =
      some (.node ⟨"lost", some (.client ⟨.runtime, "down"⟩), ""⟩) := by decide +kernel
  have hheld : ((Run.ofScript raceScript raceClient { sequential := false } ""
      (some fun _ _ => .ok ()) none).execution.map fun x =>
        (x.phases.entries, x.phase? "gone")) =
      some ([("quick", .completed), ("lost", .failed), ("late", .running), ("gone", .failed),
        ("after", .pending)], some .failed) := by decide +kernel
  generalize Run.ofScript raceScript raceClient { sequential := false } ""
    (some fun _ _ => .ok ()) none = run at hrun hfault hheld ⊢
  obtain ⟨outcome, execution⟩ := run
  obtain rfl := Outcome.eq_of_fault? hfault
  obtain ⟨x, rfl, heq⟩ := Option.map_eq_some_iff.1 hheld
  obtain ⟨hphases, hgone⟩ := Prod.mk.inj heq
  obtain ⟨nodes, f, -, hstop, past, a, b, round, more, -, -, -, -, -, hafter⟩ :=
    hrun x "gone" rfl hgone rfl
  obtain rfl : NodeFailure.mk "lost" (some (.client ⟨.runtime, "down"⟩)) "" = f := by
    simpa using hstop
  exact ⟨x, _, nodes, a, round, more, rfl, rfl, hphases, hafter⟩

end PromptChain
