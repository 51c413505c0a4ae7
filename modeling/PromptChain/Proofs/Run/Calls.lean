/-
# Every call is made once

At any moment of a run the log of its calls belongs to its nodes (`Booked`): there is one call of a
node at most, with the request that the outputs of the node's dependencies give; it is finished
when the node is completed, and only then, and what the client answered to it is the output that is
stored.  Of a node that is pending nothing is noted, and neither is of a static node.

A step changes what is noted of one node only, and only as its pace says (`Notes`).  So a call is
neither repeated nor lost, whatever else happens while the client takes its time: other nodes may
fail, and the run may be stopped or cancelled (`calls_made_once`).
-/
import PromptChain.Proofs.Run.Noting
import PromptChain.Proofs.Run.Scripts
import PromptChain.Proofs.Run.Values

namespace PromptChain

open PromptChain.Graph Snapshot

/-! ## 1. What is noted at any moment -/

/-- What holds of the log of a run at any moment. -/
structure Booked (s : Setup) (m : Snapshot) : Prop where
  once : (m.execution.calls.map (·.1)).Nodup
  /-- Who has something to do has noted what the next step needs. -/
  noted : ∀ q ∈ m.stage.todo, Noted m.execution.calls q.1 q.2
  /-- A call is that of a node that is no longer pending. -/
  owner : ∀ id c, (id, c) ∈ m.execution.calls →
    ¬ m.execution.board.Shows id .pending ∧ ∃ n ∈ s.nodes, n.id = id
  right : ∀ n ∈ s.nodes, ∀ c, (n.id, c) ∈ m.execution.calls → Right s m.execution.outputs n c
  /-- The call of a completed node is finished, and its answer is the output. -/
  finished : ∀ n ∈ s.nodes, n.isLlm = true → ∀ output,
    m.execution.board.Shows n.id (.completed output) → ∃ c, (n.id, c) ∈ m.execution.calls ∧
      c.finished ≠ none ∧ (s.meets n).answer c.request = .ok output
  unfinished : ∀ id c, (id, c) ∈ m.execution.calls →
    (∀ output, ¬ m.execution.board.Shows id (.completed output)) → c.finished = none

section Steps

variable {s : Setup} {m m' : Snapshot} {x y : Execution} {stage stage' : Stage} {n : Node}

theorem booked_initial (s : Setup) : Booked s (Snapshot.initial s) where
  once := List.nodup_nil
  noted _ hq := absurd hq (Multiset.notMem_zero _)
  owner _ _ h := absurd h List.not_mem_nil
  right _ _ _ h := absurd h List.not_mem_nil
  finished n _ _ output h := by cases h.2
  unfinished _ _ h := absurd h List.not_mem_nil

/-- **The request of a call stays right.** -/
theorem Right.kept (hs : Distinct s.nodes) (hvar : ∀ n ∈ s.nodes, n.modelVariable? ≠ some "")
    (h : Sound s m) {past : List Snapshot} (hl : Leads s m past m') (hn : n ∈ s.nodes)
    (hleft : m.execution.phase? n.id ≠ some .pending) {c : Call}
    (hc : Right s m.execution.outputs n c) : Right s m'.execution.outputs n c := by
  obtain ⟨source, hkind, hr⟩ := hc
  refine ⟨source, hkind, ?_⟩
  rw [← hr]
  refine Setup.requestFor_congr (Setup.Alike.refl s) (hvar n hn) (fun d hd => ?_) hkind
  obtain ⟨output, hget, hget'⟩ := h.reads_kept hs hl hn hleft d hd
  rw [hget, hget']

/-- A node whose call is in the log has left the pending phase. -/
theorem Booked.left (hsound : Sound s m) (h : Booked s m) {id : String} {c : Call}
    (hc : (id, c) ∈ m.execution.calls) : m.execution.phase? id ≠ some .pending := by
  intro hpend
  obtain ⟨k, hlayered, -⟩ := hsound.layered
  exact (h.owner id c hc).1
    ((Execution.phase?_eq_iff_shows hlayered.tidy .pending (Or.inl rfl)).1 hpend)

/-- The answer to a right call is what comes of the node. -/
theorem Right.answer {o : Store String} {c : Call} (hc : Right s o n c) {text : String}
    (hresult : s.resultFor o n = .ok text) : (s.meets n).answer c.request = .ok text := by
  obtain ⟨source, hkind, hr⟩ := hc
  simp only [Setup.resultFor, hkind, hr, bind, Except.bind] at hresult
  cases hans : (s.meets n).answer c.request with
  | error f => simp [hans, Except.mapError] at hresult
  | ok answer => simpa [hans, Except.mapError] using hresult

/-- When nobody has done anything, nothing is noted. -/
theorem Booked.idle (h : Booked s ⟨x, stage⟩) (hcalls : y.calls = x.calls)
    (hnodes : y.nodes = x.nodes) (houtputs : y.outputs = x.outputs) (htodo : stage'.todo = 0) :
    Booked s ⟨y, stage'⟩ := by
  have hshows : ∀ id st, y.board.Shows id st ↔ x.board.Shows id st := by
    intro id st
    simp only [Board.Shows, Execution.board, hnodes, houtputs]
  constructor
  · exact hcalls ▸ h.once
  · intro q hq
    rw [htodo] at hq
    exact absurd hq (Multiset.notMem_zero q)
  · intro id c hc
    rw [hshows]
    exact h.owner id c (hcalls ▸ hc)
  · intro k hk c hc
    show Right s y.outputs k c
    rw [houtputs]
    exact h.right k hk c (hcalls ▸ hc)
  · intro k hk hllm output hshow
    show ∃ c, (k.id, c) ∈ y.calls ∧ _
    rw [hcalls]
    exact h.finished k hk hllm output ((hshows _ _).1 hshow)
  · intro id c hc hnot
    exact h.unfinished id c (hcalls ▸ hc) fun output hshow => hnot output ((hshows _ _).2 hshow)

/-- **A node has done a step**, and nothing else has changed. -/
theorem Booked.turn {st : Standing} (hs : Distinct s.nodes) (h : Booked s ⟨x, stage⟩)
    (hn : n ∈ s.nodes) (hself : y.board.Shows n.id st) (hst : st ≠ .pending)
    (hothers : ∀ id st', id ≠ n.id → (y.board.Shows id st' ↔ x.board.Shows id st'))
    (hre : Renoted n.id x.calls y.calls)
    (hright : ∀ k ∈ s.nodes, ∀ c, (k.id, c) ∈ y.calls → Right s y.outputs k c)
    (hdone : ∀ output, st = .completed output → n.isLlm = true → ∃ c, (n.id, c) ∈ y.calls ∧
      c.finished ≠ none ∧ (s.meets n).answer c.request = .ok output)
    (hopen : (∀ output, st ≠ .completed output) → ∀ c, (n.id, c) ∈ y.calls → c.finished = none)
    (htodo : ∀ q ∈ stage'.todo, Noted y.calls q.1 q.2) : Booked s ⟨y, stage'⟩ := by
  refine ⟨hre.once h.once, htodo, fun id c hc => ?_, hright, fun k hk hllm output hshow => ?_,
    fun id c hc hnot => ?_⟩
  · by_cases hid : id = n.id
    · subst hid
      exact ⟨fun hpend => hst (hself.unique hpend), n, hn, rfl⟩
    · rw [hothers id _ hid]
      exact h.owner id c ((hre.mem_of_ne hid).1 hc)
  · by_cases hid : k.id = n.id
    · obtain rfl := hs.eq_of_id_eq hk hn hid
      exact hdone output (hself.unique hshow) hllm
    · obtain ⟨c, hc, hfin, hans⟩ := h.finished k hk hllm output ((hothers _ _ hid).1 hshow)
      exact ⟨c, (hre.mem_of_ne hid).2 hc, hfin, hans⟩
  · by_cases hid : id = n.id
    · subst hid
      exact hopen (fun output heq => hnot output (heq ▸ hself)) c hc
    · exact h.unfinished id c ((hre.mem_of_ne hid).1 hc) fun output hshow =>
        hnot output ((hothers _ _ hid).2 hshow)

/-- What a busy node has done with its step shows on the board. -/
theorem Worked.shows {left : Nat} {sure : Prop} {p : Execution × Pace}
    (hw : Worked s x.board n left sure p) (hrun : x.board.Shows n.id .running) :
    ∃ st, p.1.board.Shows n.id st ∧ st ≠ .pending ∧
      (∀ id st', id ≠ n.id → (p.1.board.Shows id st' ↔ x.board.Shows id st')) ∧
      (∀ t ∈ p.2.tasks, t.node = n) ∧
      ((∃ text, st = .completed text ∧ p.2 = .settled ∧
          (sure → s.resultFor x.outputs n = .ok text)) ∨
        (∀ text, st ≠ .completed text) ∧ p.2 ≠ .settled) := by
  cases hw with
  | sleeps hboard hnode hleft hcarries =>
    rw [hboard]
    exact ⟨.running, hrun, by simp, fun _ _ _ => Iff.rfl, by simpa [Pace.tasks] using hnode,
      Or.inr ⟨by simp, by simp⟩⟩
  | completes hboard hresult =>
    rw [hboard]
    exact ⟨_, Board.shows_set_self hrun.2, by simp, fun _ _ hne => Board.shows_set_ne hne,
      by simp [Pace.tasks], Or.inl ⟨_, rfl, rfl, hresult⟩⟩
  | fails hboard hresult =>
    rw [hboard]
    exact ⟨_, Board.shows_set_self hrun.2, by simp, fun _ _ hne => Board.shows_set_ne hne,
      by simp [Pace.tasks], Or.inr ⟨by simp, by simp⟩⟩

/-- What a node has noted with its step, if that was not its last one, is not finished. -/
theorem Pace.Notes.unfinished {log : CallLog} {pace : Pace} (h : pace.Notes log n)
    (honce : (log.map (·.1)).Nodup) (hpace : pace ≠ .settled) {c : Call} (hc : (n.id, c) ∈ log) :
    c.finished = none := by
  cases pace with
  | settled => exact absurd rfl hpace
  | asleep z => exact Noted.unfinished h honce hc
  | stops f => exact h c hc

/-- A node that falls asleep has noted what it needs when it wakes. -/
theorem Pace.Notes.noted {log : CallLog} {pace : Pace} (h : pace.Notes log n) {t : Task}
    (ht : t ∈ pace.tasks) : Noted log n (some t.step) := by
  cases pace with
  | asleep z =>
    obtain rfl := Multiset.mem_singleton.1 ht
    exact h
  | settled => exact absurd ht (Multiset.notMem_zero t)
  | stops f => exact absurd ht (Multiset.notMem_zero t)

/-- **The step of a model node keeps the log in order.** -/
theorem Booked.works {t : Task} {tasks : Multiset Task} {faults : List RunFault}
    (hs : Distinct s.nodes) (hvar : ∀ n ∈ s.nodes, n.modelVariable? ≠ some "")
    (hsound : Sound s ⟨x, .round [] (t ::ₘ tasks) faults⟩)
    (hfaithful : Faithful s ⟨x, .round [] (t ::ₘ tasks) faults⟩)
    (h : Booked s ⟨x, .round [] (t ::ₘ tasks) faults⟩) :
    Booked s ⟨(x.perform s t).1,
      .round [] ((x.perform s t).2.tasks + tasks) (faults ++ (x.perform s t).2.faults)⟩ := by
  have hnext : Next s ⟨x, .round [] (t ::ₘ tasks) faults⟩ _ := .works
  have hmem := mem_todo_task [] t tasks
  obtain ⟨_, -, -, hu⟩ := hsound.underway
  rw [busy_of_todo (todo_cons_right [] t tasks)] at hu
  obtain ⟨hnode, hrun, hllm⟩ := hsound.running_of_task
  have hsure : Carries s x.outputs t.node t.step := hfaithful.sure _ hmem
  have hnotes := Execution.perform_notes (s := s) hrun hllm h.once (h.noted _ hmem)
  obtain ⟨st, hself, hst, hothers, htasks, hdone⟩ :=
    (Execution.perform_worked (s := s) hrun hllm).shows hrun
  generalize x.perform s t = p at hnext hnotes hself hothers htasks hdone ⊢
  have honce := hnotes.renoted.once h.once
  refine h.turn hs hnode hself hst hothers hnotes.renoted ?_ ?_ ?_ ?_
  · intro n hn c hc
    by_cases hid : n.id = t.node.id
    · obtain rfl := hs.eq_of_id_eq hn hnode hid
      refine Right.kept hs hvar hsound (.single hnext) hn ?_ (hnotes.right c hc hsure)
      simp [Execution.phase?_of_shows hrun, Standing.phase]
    · have hold := (hnotes.renoted.mem_of_ne hid).1 hc
      exact Right.kept hs hvar hsound (.single hnext) hn (h.left hsound hold) (h.right n hn c hold)
  · rintro output rfl -
    obtain ⟨text, heq, hsettled, hresult⟩ | ⟨hnot, -⟩ := hdone
    · cases heq
      have hown := hnotes.own
      rw [hsettled] at hown
      obtain ⟨c, hc, hfin⟩ := hown
      exact ⟨c, hc, hfin, (hnotes.right c hc hsure).answer (hresult hsure)⟩
    · exact absurd rfl (hnot output)
  · intro hnot c hc
    obtain ⟨text, rfl, -⟩ | ⟨-, hpace⟩ := hdone
    · exact absurd rfl (hnot text)
    · exact hnotes.own.unfinished honce hpace hc
  · intro q hq
    obtain ⟨hq, -⟩ | ⟨t', ht', rfl⟩ := mem_todo.1 hq
    · exact absurd hq List.not_mem_nil
    rcases Multiset.mem_add.1 ht' with ht' | ht'
    · rw [htasks t' ht']
      exact hnotes.own.noted ht'
    · have hin : (t'.node, some t'.step) ∈ todo [] tasks := mem_todo.2 (Or.inr ⟨t', ht', rfl⟩)
      refine (h.noted _ ?_).renoted hnotes.renoted
        (hu.ne_of_mem_busy (Multiset.mem_map_of_mem _ hin))
      rw [Stage.todo, todo_cons_right]
      exact Multiset.mem_cons_of_mem hin

/-- **Resolving a static node notes nothing.** -/
theorem Booked.resolves {rest : List Node} {tasks : Multiset Task} (hs : Distinct s.nodes)
    (hvar : ∀ n ∈ s.nodes, n.modelVariable? ≠ some "")
    (hsound : Sound s ⟨x, .round (n :: rest) tasks []⟩)
    (h : Booked s ⟨x, .round (n :: rest) tasks []⟩) :
    Booked s ⟨(x.resolveStatic s n).1, .round rest tasks (x.resolveStatic s n).2.toList⟩ := by
  have hnext : Next s ⟨x, .round (n :: rest) tasks []⟩ _ := .resolves
  have hmem := mem_todo_static n rest tasks
  obtain ⟨hnode, hrun, hstatic⟩ := hsound.running_of_todo hmem
  have hfresh : n.id ∉ x.calls.map (·.1) := h.noted _ hmem
  have hcalls := x.calls_resolveStatic s n
  have hres := Execution.resolveStatic_resolved (s := s) hrun hstatic
  obtain ⟨st, hst, hboard⟩ : ∃ st : Standing, st ≠ .pending ∧
      (x.resolveStatic s n).1.board = x.board.set n.id st := by
    generalize x.resolveStatic s n = r at hres
    cases hres with
    | completes hboard hresult => exact ⟨_, by simp, hboard⟩
    | fails hboard hresult => exact ⟨_, by simp, hboard⟩
  generalize x.resolveStatic s n = r at hnext hcalls hboard ⊢
  have hnone : ∀ c, (n.id, c) ∉ r.1.calls := fun c hc =>
    hfresh (hcalls ▸ List.mem_map_of_mem hc)
  refine h.turn hs hnode (hboard ▸ Board.shows_set_self hrun.2) hst
    (fun id st' hne => hboard ▸ Board.shows_set_ne hne) (hcalls ▸ .refl _ _) ?_ ?_
    (fun _ c hc => absurd hc (hnone c)) ?_
  · intro k hk c hc
    rw [hcalls] at hc
    exact Right.kept hs hvar hsound (.single hnext) hk (h.left hsound hc) (h.right k hk c hc)
  · intro output _ hllm
    simp [Node.isLlm, hstatic] at hllm
  · intro q hq
    rw [hcalls]
    refine h.noted q ?_
    rw [Stage.todo, todo_cons_left]
    exact Multiset.mem_cons_of_mem hq

/-- **Opening a round notes nothing**, and of the nodes of its wave nothing was noted. -/
theorem Booked.opens {idle : Nat} {statics : List Node} {tasks : Multiset Task}
    {faults : List RunFault} (hlayered : Layered s x.board x.rounds.length)
    (h : Booked s ⟨x, .between idle⟩) (hcalls : y.calls = x.calls)
    (hboard : y.board = Board.start
      { x.board with rounds := x.rounds ++ [(s.graph.wave x.rounds.length).map (·.id)] }
      (s.graph.wave x.rounds.length))
    (hbusy : busy statics tasks = s.graph.wave x.rounds.length)
    (hfirst : ∀ q ∈ todo statics tasks, ∀ step ∈ q.2, ∃ heldBack, step = .begin heldBack) :
    Booked s ⟨y, .round statics tasks faults⟩ := by
  have hpend : ∀ n ∈ s.graph.wave x.rounds.length, x.board.Shows n.id .pending := by
    intro n hn
    exact hlayered.pending_of_mem_wave rfl hn
  have houtputs : y.outputs = x.outputs := Execution.outputs_of_start hboard
  -- a node that is not running showed before what it shows now
  have hold : ∀ {id : String} {st : Standing}, y.board.Shows id st → st ≠ .running →
      x.board.Shows id st := by
    intro id st hst hne
    rw [hboard] at hst
    obtain ⟨-, heq⟩ | ⟨-, hst⟩ := (hlayered.shows_opened rfl).1 hst
    · exact absurd heq hne
    · exact hst
  have hkept : ∀ {id output : String}, x.board.Shows id (.completed output) →
      y.board.Shows id (.completed output) := by
    intro id output hst
    rw [hboard]
    refine (hlayered.shows_opened rfl).2 (Or.inr ⟨fun hid => ?_, hst⟩)
    obtain ⟨n, hn, rfl⟩ := List.mem_map.1 hid
    exact absurd (hst.unique (hpend n hn)) (by simp)
  refine ⟨hcalls ▸ h.once, fun q hq => ?_, fun id c hc => ⟨fun hst => ?_, ?_⟩, fun n hn c hc => ?_,
    fun n hn hllm output hst => ?_, fun id c hc hnot => ?_⟩
  · have hwave : q.1 ∈ s.graph.wave x.rounds.length := by
      rw [← Multiset.mem_coe, ← hbusy]
      exact Multiset.mem_map_of_mem _ hq
    have hfresh : q.1.id ∉ y.calls.map (·.1) := by
      rw [hcalls]
      intro hmem
      obtain ⟨⟨_, c⟩, hc, rfl⟩ := List.mem_map.1 hmem
      exact (h.owner _ c hc).1 (hpend q.1 hwave)
    cases hq2 : q.2 with
    | none => exact hfresh
    | some step =>
      obtain ⟨heldBack, rfl⟩ := hfirst q hq step hq2
      exact hfresh
  · exact (h.owner id c (hcalls ▸ hc)).1 (hold hst (by simp))
  · exact (h.owner id c (hcalls ▸ hc)).2
  · show Right s y.outputs n c
    rw [houtputs]
    exact h.right n hn c (hcalls ▸ hc)
  · show ∃ c, (n.id, c) ∈ y.calls ∧ _
    rw [hcalls]
    exact h.finished n hn hllm output (hold hst (by simp))
  · exact h.unfinished id c (hcalls ▸ hc) fun output hst => hnot output (hkept hst)

/-- **Every step keeps the log in order.** -/
theorem Booked.next (hs : Distinct s.nodes) (hvar : ∀ n ∈ s.nodes, n.modelVariable? ≠ some "")
    (hsound : Sound s m) (hfaithful : Faithful s m) (h : Booked s m) (hn : Next s m m') :
    Booked s m' := by
  have hended : ∀ {x : Execution} {stage : Stage} {p : Phase} {fault : Option RunFault},
      Booked s ⟨x, stage⟩ → Booked s ⟨x.moveWorkflow p, .ended fault⟩ := by
    intro x stage p fault h
    refine h.idle (x.calls_moveWorkflow p) ?_ (x.outputs_moveWorkflow p) rfl
    rw [x.moveWorkflow_eq p]
  cases hn with
  | finishes hun => exact hended h
  | @opens x idle hun hrun =>
    have hmoves : Moves s ⟨x, .between idle⟩ _ := hsound.moves hs (.opens hun hrun)
    have hcalls : (opened s (x.runnable s.graph) x).execution.calls = x.calls :=
      Execution.calls_startAll _ _
    have hround : ∃ statics tasks faults,
        (opened s (x.runnable s.graph) x).stage = .round statics tasks faults := ⟨_, _, _, rfl⟩
    generalize opened s (x.runnable s.graph) x = m' at hmoves hcalls hround ⊢
    obtain ⟨statics, tasks, faults, hround⟩ := hround
    cases hmoves with
    | opens hwave hboard hbusy hkind hfirst =>
      cases hsound with
      | between hphase hlayered hidle => exact h.opens hlayered hcalls hboard hbusy hfirst
    | _ => cases hround
  | stalls hun hrun hidle => exact h.idle rfl rfl rfl rfl
  | deadlocks hun hrun hidle => exact hended h
  | resolves => exact h.resolves hs hvar hsound
  | works => exact h.works hs hvar hsound hfaithful
  | settles => exact h.idle rfl rfl rfl rfl
  | stops => exact hended h

/-- **At every point of every course the log is in order.** -/
theorem Snapshot.Leads.booked (hs : Distinct s.nodes)
    (hvar : ∀ n ∈ s.nodes, n.modelVariable? ≠ some "") {past : List Snapshot}
    (h : Leads s (Snapshot.initial s) past m) : Booked s m := by
  induction h with
  | refl => exact booked_initial s
  | pass moment _ ih => exact ⟨ih.once, ih.noted, ih.owner, ih.right, ih.finished, ih.unfinished⟩
  | next hl hn ih => exact ih.next hs hvar (hl.sound hs) (hl.faithful hs hvar) hn

/-- What a step does to the log: nothing, or it notes something of a node that is running. -/
theorem Booked.renoted (hsound : Sound s m) (h : Booked s m) (hn : Next s m m') :
    ∃ id, Renoted id m.execution.calls m'.execution.calls ∧
      (m'.execution.calls = m.execution.calls ∨ m.execution.phase? id = some .running) := by
  have hsame : ∀ {x y : Execution}, y.calls = x.calls →
      ∃ id, Renoted id x.calls y.calls ∧ (y.calls = x.calls ∨ x.phase? id = some .running) := by
    intro x y heq
    exact ⟨"", heq ▸ .refl _ _, Or.inl heq⟩
  cases hn with
  | finishes hun => exact hsame (Execution.calls_moveWorkflow _ _)
  | opens hun hrun => exact hsame (Execution.calls_startAll _ _)
  | stalls hun hrun hidle => exact hsame rfl
  | deadlocks hun hrun hidle => exact hsame (Execution.calls_moveWorkflow _ _)
  | resolves => exact hsame (Execution.calls_resolveStatic _ _ _)
  | @works x t tasks faults =>
    obtain ⟨-, hrun, hllm⟩ := hsound.running_of_task
    have hnoted := h.noted _ (mem_todo_task [] t tasks)
    exact ⟨t.node.id, (Execution.perform_notes (s := s) hrun hllm h.once hnoted).renoted,
      Or.inr (Execution.phase?_of_shows hrun)⟩
  | settles => exact hsame rfl
  | stops => exact hsame (Execution.calls_moveWorkflow _ _)

end Steps

/-! ## 2. Calls and nodes -/

/-- Whether a request is made of the model, the flags and the messages of a node, composed of some
outputs. -/
structure Composed (s : Setup) (o : Store String) (n : Node) (r : Request) : Prop where
  model : ∃ source, n.kind = .llm source ∧
    Context.modelOf ⟨o, s.input⟩ (s.meets n) source = .ok r.nickname
  flags : r.flags = n.flags
  messages : ∃ prompt, Context.prompt ⟨o, s.input⟩ n = .ok prompt ∧
    (s.meets n).messages n.flags prompt = .ok r.messages

/-- Whether the calls of a run are those of different model nodes, and each is where its node
stands. -/
structure CalledOnce (s : Setup) (x : Execution) (owner : Fin x.calls.length → Node) : Prop where
  injective : Function.Injective owner
  llm : ∀ i, owner i ∈ s.nodes ∧ (owner i).isLlm = true
  noted : ∀ i, (x.calls.get i).1 = (owner i).id
  composed : ∀ i, Composed s x.outputs (owner i) (x.calls.get i).2.request
  dependencies : ∀ i, ∀ d ∈ (owner i).dependencies, x.phase? d = some .completed
  /-- The call of a completed node is finished, and what was answered is what is stored. -/
  completed : ∀ n ∈ s.nodes, n.isLlm = true → x.phase? n.id = some .completed →
    ∃ i, owner i = n ∧ (x.calls.get i).2.finished ≠ none ∧
      ∃ output, x.outputs.get? n.id = some output ∧
        (s.meets n).answer (x.calls.get i).2.request = .ok output
  unfinished : ∀ i, x.phase? (owner i).id ≠ some .completed → (x.calls.get i).2.finished = none
  pending : ∀ i, x.phase? (owner i).id ≠ some .pending

/-- Whether no call is lost or changed from one moment to the next, and every new one is made when
the dependencies of its node have been completed. -/
structure CallsGrow (s : Setup) (x y : Execution) : Prop where
  kept : ∀ (i : Nat) (e : String × Call), x.calls[i]? = some e →
    ∃ c, y.calls[i]? = some (e.1, c) ∧ c.request = e.2.request
  new : ∀ (i : Nat) (e : String × Call), x.calls.length ≤ i → y.calls[i]? = some e →
    ∀ n ∈ s.nodes, n.id = e.1 → ∀ d ∈ n.dependencies, x.phase? d = some .completed

section Owners

variable {s : Setup} {m m' : Snapshot}

/-- **Every call has an owner.** -/
theorem Booked.exists_owner (hs : Distinct s.nodes) (hsound : Sound s m) (h : Booked s m) :
    ∃ owner, CalledOnce s m.execution owner := by
  obtain ⟨k, hlayered, -⟩ := hsound.layered
  have howner : ∀ i : Fin m.execution.calls.length, ∃ n ∈ s.nodes,
      n.id = (m.execution.calls.get i).1 := by
    intro i
    exact (h.owner _ _ (List.get_mem _ i)).2
  choose owner hmem hid using howner
  have hcall : ∀ i, ((owner i).id, (m.execution.calls.get i).2) ∈ m.execution.calls := by
    intro i
    rw [hid i]
    exact List.get_mem _ i
  have hright := fun i => h.right _ (hmem i) _ (hcall i)
  have hpending : ∀ i, m.execution.phase? (owner i).id ≠ some .pending := fun i =>
    h.left hsound (hcall i)
  refine ⟨owner, ?_, fun i => ⟨hmem i, ?_⟩, fun i => (hid i).symm, fun i => ?_, ?_, ?_, ?_,
    hpending⟩
  · intro i j hij
    have hsame : (m.execution.calls.get i).1 = (m.execution.calls.get j).1 := by
      rw [← hid i, ← hid j, hij]
    have hlt : i.1 < (m.execution.calls.map (·.1)).length := by simp
    exact Fin.ext ((List.getElem?_inj hlt h.once).1 (by simpa using hsame))
  · obtain ⟨source, hkind, -⟩ := hright i
    simp [Node.isLlm, Node.isStatic, hkind]
  · obtain ⟨source, hkind, hr⟩ := hright i
    obtain ⟨hmodel, hflags, hmessages⟩ := Setup.requestFor_eq_ok_iff.1 hr
    exact ⟨⟨source, hkind, hmodel⟩, hflags, hmessages⟩
  · intro i d hd
    exact hsound.dependencies_completed hs (hmem i) (hpending i) hd
  · intro n hn hllm hdone
    obtain ⟨output, hshow⟩ := (Execution.phase?_eq_completed_iff hlayered.tidy).1 hdone
    obtain ⟨c, hc, hfin, hans⟩ := h.finished n hn hllm output hshow
    obtain ⟨i, hi⟩ := List.get_of_mem hc
    refine ⟨i, hs.eq_of_id_eq (hmem i) hn (by rw [hid i, hi]), ?_, output, hshow.2, ?_⟩
    · rwa [hi]
    · rwa [hi]
  · intro i hnot
    refine h.unfinished _ _ (hcall i) fun output hshow => hnot ?_
    exact Execution.phase?_of_shows hshow

/-- **The log grows.** -/
theorem Booked.grows (hs : Distinct s.nodes) (hsound : Sound s m) (h : Booked s m)
    (hn : Next s m m') : CallsGrow s m.execution m'.execution := by
  obtain ⟨id, hre, hrun⟩ := h.renoted hsound hn
  refine ⟨fun i e hi => ?_, fun i e hi he n hmem hid d hd => ?_⟩
  · obtain ⟨c, hc, hrequest, -⟩ := hre.kept i e hi
    exact ⟨c, hc, hrequest⟩
  · rcases hrun with heq | hrun
    · rw [heq, List.getElem?_eq_none hi] at he
      cases he
    · refine hsound.dependencies_completed hs hmem ?_ hd
      rw [hid, hre.new i e hi he, hrun]
      simp

end Owners

/-- **Every call of a run is made once.**  At every point of every course of the nodes of a script,
and so whenever and however it is stopped, the calls so far belong to different model nodes.  Each
carries what its node asks; it was made when the node's dependencies were completed; it is finished
when the node is completed, with the output as its answer, and not otherwise; and none is missing.
Whatever the run of a script holds when it is over or cancelled is such a point. -/
theorem calls_made_once (source : String) :
    (∀ s : Setup, Script.load source = .ok s.nodes → ∀ {past : List Snapshot} {m : Snapshot},
      Leads s (Snapshot.initial s) past m →
      (∃ owner, CalledOnce s m.execution owner) ∧
      ∀ {m' : Snapshot}, Next s m m' → CallsGrow s m.execution m'.execution) ∧
    ∀ client config input listener limit,
      let run := Run.ofScript source client config input listener limit
      run.execution = none ∨ ∃ nodes x owner, Script.load source = .ok nodes ∧
        run.execution = some x ∧ CalledOnce { nodes, client, config, input, listener } x owner := by
  have hcourse : ∀ s : Setup, Script.load source = .ok s.nodes →
      ∀ {past : List Snapshot} {m : Snapshot}, Leads s (Snapshot.initial s) past m →
      Sound s m ∧ Booked s m := by
    intro s hload past m hl
    have hloaded := Script.loaded_of_load hload
    exact ⟨hl.sound hloaded.distinct,
      hl.booked hloaded.distinct fun n hn => hloaded.modelVariable?_ne hn⟩
  refine ⟨fun s hload past m hl => ?_, fun client config input listener limit => ?_⟩
  · have hdistinct := (Script.loaded_of_load hload).distinct
    obtain ⟨hsound, hbooked⟩ := hcourse s hload hl
    exact ⟨hbooked.exists_owner hdistinct hsound, fun hn => hbooked.grows hdistinct hsound hn⟩
  · intro run
    cases hload : Script.load source with
    | error r => exact Or.inl (by simp only [run, Run.ofScript, hload, Run.refused])
    | ok nodes =>
      by_cases hne : nodes = []
      · subst hne
        exact Or.inl (by simp only [run, Run.ofScript_of_nil hload])
      cases hcheck : (Graph.mk nodes).checkModels client with
      | error f =>
        exact Or.inl (by simp only [run, Run.ofScript_of_error hload hcheck hne, Run.refused])
      | ok =>
        obtain ⟨past, x, stage, hl, hrun⟩ :=
          Run.ofScript_reaches hload hcheck hne config input listener limit
        obtain ⟨hsound, hbooked⟩ := hcourse _ hload hl
        obtain ⟨owner, howner⟩ := hbooked.exists_owner (Script.loaded_of_load hload).distinct hsound
        refine Or.inr ⟨nodes, x, owner, rfl, ?_, howner⟩
        rcases hrun with ⟨-, hrun⟩ | ⟨fault, -, hrun⟩
        · simp only [run, hrun]
        · cases fault <;> simp only [run, hrun, Run.ended]

/-- Cancelled while the client takes its time, that script's run has made the one call of its model
node, and nobody has answered it. -/
theorem calls_made_once_relay :
    ∃ x owner, Run.ofScript Script.relayScript echoClient {} "rain" none (some 0.1) =
        ⟨.cancelled, some x⟩ ∧
      CalledOnce relay x owner ∧ x.calls.map (·.1) = ["draft"] ∧
      x.phase? "draft" = some .running ∧ ∀ i, (x.calls.get i).2.finished = none := by
  have hrun := (calls_made_once Script.relayScript).2 echoClient {} "rain" none (some 0.1)
  have hcancelled : (Run.ofScript Script.relayScript echoClient {} "rain" none
      (some 0.1)).outcome.isCancelled = true := by decide +kernel
  have hheld : ((Run.ofScript Script.relayScript echoClient {} "rain" none
      (some 0.1)).execution.map fun x => (x.calls.map (·.1), x.phase? "draft")) =
      some (["draft"], some .running) := by decide +kernel
  generalize Run.ofScript Script.relayScript echoClient {} "rain" none (some 0.1) = run
    at hrun hcancelled hheld ⊢
  obtain ⟨outcome, execution⟩ := run
  obtain rfl := Outcome.eq_of_isCancelled hcancelled
  obtain hnone | ⟨nodes, x, owner, hload, rfl, howner⟩ := hrun
  · rw [hnone] at hheld
    cases hheld
  obtain rfl := Except.ok.inj (hload.symm.trans Script.load_relayScript)
  obtain ⟨hcalls, hphase⟩ := Prod.mk.inj (Option.some.inj hheld)
  refine ⟨x, owner, rfl, howner, hcalls, hphase, fun i => howner.unfinished i ?_⟩
  have hid : (x.calls.get i).1 ∈ x.calls.map (·.1) := List.mem_map_of_mem (List.get_mem _ i)
  rw [hcalls, List.mem_singleton] at hid
  rw [← howner.noted i, hid, hphase]
  simp

end PromptChain
