/-
# The values of nodes

What comes of a node is a function of the outputs of its dependencies (`Setup.resultFor_congr`),
and these come of the dependencies in the same way.  So a node has at most one value, and the
schedule has no part in it (`Yields.unique`).

A run computes these values and no others: whatever is stored for a node is the node's value,
whatever has failed has none, and what a busy node carries with it is right (`Faithful`).  A node
that reads an output reads that of a dependency, which was completed before the node began; so it
does not matter what else is completed while it is busy (`Sure.congr`).
-/
import PromptChain.Proofs.Run.Layers
import PromptChain.Proofs.Template.Visibility

namespace PromptChain

open PromptChain.Graph Snapshot

/-! ## 1. What a node reads -/

namespace Setup

/-- Setups that differ in nothing that comes of a node: not in the nodes, not in the input, and
not in what the nodes are told, only in when. -/
structure Alike (s t : Setup) : Prop where
  nodes : s.nodes = t.nodes
  input : s.input = t.input
  models : ∀ n, (s.meets n).models = (t.meets n).models
  transcript : ∀ n, (s.meets n).transcript = (t.meets n).transcript
  answer : ∀ n, (s.meets n).answer = (t.meets n).answer

variable {s t : Setup}

theorem Alike.refl (s : Setup) : s.Alike s :=
  ⟨rfl, rfl, fun _ => rfl, fun _ => rfl, fun _ => rfl⟩

theorem Alike.symm (h : s.Alike t) : t.Alike s :=
  ⟨h.nodes.symm, h.input.symm, fun n => (h.models n).symm, fun n => (h.transcript n).symm,
    fun n => (h.answer n).symm⟩

theorem Alike.graph (h : s.Alike t) : s.graph = t.graph := congrArg Graph.mk h.nodes

variable {o p : Store String} {n : Node}

/-- The model a node calls depends on its dependencies. -/
theorem modelOf_congr (ha : s.Alike t) (hvar : n.modelVariable? ≠ some "")
    (h : ∀ d ∈ n.dependencies, o.get? d = p.get? d) {source : ModelSource}
    (hkind : n.kind = .llm source) :
    Context.modelOf ⟨o, s.input⟩ (s.meets n) source =
      Context.modelOf ⟨p, t.input⟩ (t.meets n) source := by
  cases source with
  | nickname name => rfl
  | output id =>
    have hread : o.get? id = p.get? id := h id (Node.mem_dependencies_of_output hkind hvar)
    simp only [Context.modelOf, hread, ha.models]

/-- The request of a node depends on its dependencies. -/
theorem requestFor_congr (ha : s.Alike t) (hvar : n.modelVariable? ≠ some "")
    (h : ∀ d ∈ n.dependencies, o.get? d = p.get? d) {source : ModelSource}
    (hkind : n.kind = .llm source) : s.requestFor o n source = t.requestFor p n source := by
  have hprompt : Context.prompt ⟨o, s.input⟩ n = Context.prompt ⟨p, t.input⟩ n :=
    Context.prompt_congr ha.input fun d hd => h d hd.mem_dependencies
  simp only [requestFor, modelOf_congr ha hvar h hkind, hprompt, Encounter.messages,
    ha.transcript]

/-- **What comes of a node depends on its dependencies**, and not on the schedule. -/
theorem resultFor_congr (ha : s.Alike t) (hvar : n.modelVariable? ≠ some "")
    (h : ∀ d ∈ n.dependencies, o.get? d = p.get? d) : s.resultFor o n = t.resultFor p n := by
  cases hkind : n.kind with
  | static =>
    have htext : Context.staticText ⟨o, s.input⟩ n = Context.staticText ⟨p, t.input⟩ n :=
      Context.staticText_congr ha.input fun d hd => h d hd.mem_dependencies
    simp only [resultFor, hkind, htext]
  | llm source => simp only [resultFor, hkind, requestFor_congr ha hvar h hkind, ha.answer]

end Setup

/-- What a node carries stays right when other outputs are stored. -/
theorem Sure.congr {s : Setup} {o p : Store String} {n : Node}
    (hvar : n.modelVariable? ≠ some "") (h : ∀ d ∈ n.dependencies, o.get? d = p.get? d)
    {step? : Option Step} (hsure : Sure s o n step?) : Sure s p n step? := by
  have ha := Setup.Alike.refl s
  cases step? with
  | none => exact trivial
  | some step =>
    cases step with
    | begin heldBack => exact trivial
    | launch => exact trivial
    | send model prompt =>
      obtain ⟨source, hkind, hmodel, hprompt⟩ := hsure
      refine ⟨source, hkind, ?_, ?_⟩
      · rwa [← Setup.modelOf_congr ha hvar h hkind]
      · exact (Context.prompt_congr (c := ⟨p, s.input⟩) (d := ⟨o, s.input⟩) rfl
          fun d hd => (h d hd.mem_dependencies).symm).trans hprompt
    | answer index r =>
      obtain ⟨source, hkind, hrequest⟩ := hsure
      exact ⟨source, hkind, by rwa [← Setup.requestFor_congr ha hvar h hkind]⟩

/-! ## 2. Values -/

/-- A node has a value when its dependencies do and the node comes out well with these. -/
inductive Yields (s : Setup) : String → String → Prop where
  | node {n : Node} {text : String} (value : String → String) (o : Store String)
      (hn : n ∈ s.nodes) (hdeps : ∀ d ∈ n.dependencies, Yields s d (value d))
      (hread : ∀ d ∈ n.dependencies, o.get? d = some (value d))
      (hresult : s.resultFor o n = .ok text) : Yields s n.id text

/-- Whether some outputs hold the values of the dependencies of a node. -/
def Reads (s : Setup) (o : Store String) (n : Node) : Prop :=
  ∀ d ∈ n.dependencies, ∃ text, o.get? d = some text ∧ Yields s d text

/-- A node fails when its dependencies have values and the node does not come out well. -/
def Fails (s : Setup) (n : Node) (cause : NodeCause) : Prop :=
  ∃ o, Reads s o n ∧ s.resultFor o n = .error cause

section Values

variable {s t : Setup} {id a b : String} {n : Node} {o p : Store String}

theorem Yields.of_reads (hn : n ∈ s.nodes) (h : Reads s o n) {text : String}
    (hresult : s.resultFor o n = .ok text) : Yields s n.id text := by
  have hread : ∀ d ∈ n.dependencies, o.get? d = some ((o.get? d).getD "") := by
    intro d hd
    obtain ⟨value, hget, _⟩ := h d hd
    exact Store.get?_eq_some_getD (Store.mem_ids_iff.2 ⟨value, hget⟩) ""
  refine .node (fun d => (o.get? d).getD "") o hn (fun d hd => ?_) hread hresult
  obtain ⟨value, hget, hyields⟩ := h d hd
  rwa [hget, Option.getD_some]

/-- A value is that of a node that reads values. -/
theorem Yields.exists_node (h : Yields s id a) :
    ∃ n ∈ s.nodes, n.id = id ∧ ∃ o, Reads s o n ∧ s.resultFor o n = .ok a := by
  cases h with
  | node value o hn hdeps hread hresult =>
    exact ⟨_, hn, rfl, o, fun d hd => ⟨value d, hread d hd, hdeps d hd⟩, hresult⟩

/-- **A node has one value**, whatever the schedule. -/
theorem Yields.unique (hs : Distinct s.nodes) (hvar : ∀ n ∈ s.nodes, n.modelVariable? ≠ some "")
    (ha : s.Alike t) (h : Yields s id a) (h' : Yields t id b) : a = b := by
  induction h generalizing b with
  | @node n text value o hn _ hread hresult ih =>
    obtain ⟨n', hn', hid, p, hp, hresult'⟩ := h'.exists_node
    obtain rfl : n' = n := hs.eq_of_id_eq (ha.nodes ▸ hn') hn hid
    have hsame : ∀ d ∈ n'.dependencies, o.get? d = p.get? d := by
      intro d hd
      obtain ⟨text', hget, hyields⟩ := hp d hd
      rw [hread d hd, hget, ih d hd hyields]
    rw [Setup.resultFor_congr ha (hvar n' hn) hsame, hresult'] at hresult
    exact (Except.ok.inj hresult).symm

/-- A node that fails has no value. -/
theorem Fails.not_yields (hs : Distinct s.nodes)
    (hvar : ∀ n ∈ s.nodes, n.modelVariable? ≠ some "") (ha : s.Alike t) (hn : n ∈ s.nodes)
    {cause : NodeCause} (h : Fails s n cause) : ¬ Yields t n.id a := by
  intro h'
  obtain ⟨o, ho, hresult⟩ := h
  obtain ⟨n', hn', hid, p, hp, hresult'⟩ := h'.exists_node
  obtain rfl : n' = n := hs.eq_of_id_eq (ha.nodes ▸ hn') hn hid
  have hsame : ∀ d ∈ n'.dependencies, o.get? d = p.get? d := by
    intro d hd
    obtain ⟨text, hget, hyields⟩ := ho d hd
    obtain ⟨text', hget', hyields'⟩ := hp d hd
    rw [hget, hget', hyields.unique hs hvar ha hyields']
  rw [Setup.resultFor_congr ha (hvar n' hn) hsame, hresult'] at hresult
  cases hresult

end Values

/-! ## 3. A run computes the values -/

/-- What is still to be done where a run stands. -/
def Stage.todo : Stage → Multiset (Node × Option Step)
  | round statics tasks _ => PromptChain.todo statics tasks
  | _ => 0

/-- What is stored are values, what has failed has none, and what is carried is right. -/
structure Faithful (s : Setup) (m : Snapshot) : Prop where
  yields : ∀ id text, m.execution.board.Shows id (.completed text) → Yields s id text
  fails : ∀ n ∈ s.nodes, ∀ reason, m.execution.board.Shows n.id (.failed reason) →
    ∃ cause, Fails s n cause
  sure : ∀ q ∈ m.stage.todo, Sure s m.execution.outputs q.1 q.2

section Faithful

variable {s : Setup} {m m' : Snapshot}

/-- A node of the next wave reads values. -/
theorem Layered.reads {x : Execution} {k : Nat} (h : Layered s x.board k)
    (hyields : ∀ id text, x.board.Shows id (.completed text) → Yields s id text) {n : Node}
    (hn : n ∈ s.graph.wave k) : Reads s x.outputs n := by
  intro d hd
  obtain ⟨output, hshow⟩ := h.completed_of_mem_wave hn hd
  exact ⟨output, hshow.2, hyields d output hshow⟩

theorem faithful_initial (hs : Distinct s.nodes) : Faithful s (Snapshot.initial s) := by
  have hpend := (tidy_initial hs).2
  refine ⟨?_, ?_, ?_⟩
  · intro id text hshow
    cases hshow.2
  · intro n hn reason hshow
    exact absurd (hshow.unique (hpend n hn)) (by simp)
  · intro q hq
    exact absurd hq (Multiset.notMem_zero q)

/-- A node of the wave that comes to its end changes nothing that another one reads. -/
theorem sure_set {x y : Execution} {k : Nat} (hvar : ∀ n ∈ s.nodes, n.modelVariable? ≠ some "")
    {n n' : Node} (hn : n ∈ s.graph.wave k) (hn' : n' ∈ s.graph.wave k) {st : Standing}
    (hboard : y.board = x.board.set n.id st) {step? : Option Step}
    (h : Sure s x.outputs n' step?) : Sure s y.outputs n' step? := by
  refine h.congr (hvar n' (mem_wave.1 hn').1) fun d hd => ?_
  have hne : d ≠ n.id := by
    rintro rfl
    exact (mem_wave.1 hn).2.1 (dependencies_settled hn' hd)
  rw [show y.outputs = (x.board.set n.id st).outputs from congrArg Board.outputs hboard]
  cases hst : st.output? with
  | none => simp only [Board.set, hst, Execution.board]
  | some output =>
    simp only [Board.set, hst]
    exact (Store.get?_put_ne _ output hne).symm

/-- What shows after a node has come to its end showed before, or is the node's. -/
theorem shows_of_set {x y : Execution} {n : Node} {st st' : Standing} {id : String}
    (hboard : y.board = x.board.set n.id st) (hrun : x.board.Shows n.id .running)
    (h : y.board.Shows id st') : x.board.Shows id st' ∨ id = n.id ∧ st' = st := by
  rw [hboard] at h
  by_cases hid : id = n.id
  · subst hid
    exact Or.inr ⟨rfl, h.unique (Board.shows_set_self hrun.2)⟩
  · exact Or.inl ((Board.shows_set_ne hid).1 h)

/-- A busy node that comes to its end keeps a round faithful. -/
theorem Faithful.ends {x y : Execution} {statics statics' : List Node}
    {tasks tasks' : Multiset Task} {faults faults' : List RunFault} {n : Node} {o : Option Step}
    {st : Standing} (hs : Distinct s.nodes) (hvar : ∀ n ∈ s.nodes, n.modelVariable? ≠ some "")
    (hsound : Sound s ⟨x, .round statics tasks faults⟩)
    (h : Faithful s ⟨x, .round statics tasks faults⟩)
    (htodo : todo statics tasks = (n, o) ::ₘ todo statics' tasks')
    (hboard : y.board = x.board.set n.id st)
    (hst : Sure s x.outputs n o →
      (∃ text, st = .completed text ∧ s.resultFor x.outputs n = .ok text) ∨
        ∃ cause : NodeCause, st = .failed cause.message ∧ s.resultFor x.outputs n = .error cause) :
    Faithful s ⟨y, .round statics' tasks' faults'⟩ := by
  cases hsound with
  | round hrun hk hlayer hkind hu =>
    have hold : ∀ q ∈ (n, o) ::ₘ todo statics' tasks', Sure s x.outputs q.1 q.2 := htodo ▸ h.sure
    rw [busy_of_todo htodo] at hu
    obtain ⟨hwave, hshow⟩ := hu.running n (Multiset.mem_cons_self n _)
    have hreads := hlayer.reads h.yields hwave
    have hst := hst (hold (n, o) (Multiset.mem_cons_self _ _))
    refine ⟨?_, ?_, ?_⟩
    · intro id text ht
      rcases shows_of_set hboard hshow ht with hx | ⟨rfl, rfl⟩
      · exact h.yields id text hx
      · rcases hst with ⟨text', heq, hresult⟩ | ⟨cause, heq, _⟩
        · cases heq
          exact Yields.of_reads (mem_wave.1 hwave).1 hreads hresult
        · cases heq
    · intro k hk' reason hr
      rcases shows_of_set hboard hshow hr with hx | ⟨hid, rfl⟩
      · exact h.fails k hk' reason hx
      · obtain rfl := hs.eq_of_id_eq hk' (mem_wave.1 hwave).1 hid
        rcases hst with ⟨text', heq, _⟩ | ⟨cause, _, hresult⟩
        · cases heq
        · exact ⟨cause, x.outputs, hreads, hresult⟩
    · intro q hq
      have hq' : q.1 ∈ s.graph.wave _ :=
        (hu.running q.1 (Multiset.mem_cons_of_mem (Multiset.mem_map_of_mem _ hq))).1
      exact sure_set hvar hwave hq' hboard (hold q (Multiset.mem_cons_of_mem hq))

/-- Where nothing new shows and nobody is busy, a run stays faithful. -/
theorem Faithful.idles {x y : Execution} {stage stage' : Stage} (h : Faithful s ⟨x, stage⟩)
    (hshow : ∀ id st, y.board.Shows id st → x.board.Shows id st) (htodo : stage'.todo = 0) :
    Faithful s ⟨y, stage'⟩ := by
  refine ⟨?_, ?_, ?_⟩
  · intro id text ht
    exact h.yields id text (hshow id _ ht)
  · intro n hn reason hr
    exact h.fails n hn reason (hshow n.id _ hr)
  · intro q hq
    rw [htodo] at hq
    exact absurd hq (Multiset.notMem_zero q)

/-- When a round is opened, its nodes show that they run, and carry nothing yet. -/
theorem Faithful.opens {x y : Execution} {idle : Nat} {statics : List Node} {tasks : Multiset Task}
    (hsound : Sound s ⟨x, .between idle⟩) (h : Faithful s ⟨x, .between idle⟩)
    (hboard : y.board = Board.start
      { x.board with rounds := x.rounds ++ [(s.graph.wave x.rounds.length).map (·.id)] }
      (s.graph.wave x.rounds.length))
    (hfirst : ∀ p ∈ todo statics tasks, ∀ step ∈ p.2, ∃ heldBack, step = .begin heldBack) :
    Faithful s ⟨y, .round statics tasks []⟩ := by
  cases hsound with
  | between hrun hlayer hidle =>
    have hout : ∀ n ∈ s.graph.wave x.rounds.length, x.board.outputs.get? n.id = none := by
      intro n hn
      exact (hlayer.pending_of_mem_wave rfl hn).2
    -- only nodes of the wave show something new, and they are running
    have hshow : ∀ id st, y.board.Shows id st → st ≠ .running → x.board.Shows id st := by
      intro id st hy hne
      rw [hboard] at hy
      by_cases hid : id ∈ (s.graph.wave x.rounds.length).map (·.id)
      · exact absurd (hy.unique (Board.shows_start_of_mem hout hid)) hne
      · rw [Board.shows_start_of_not_mem hid] at hy
        exact hy
    refine ⟨?_, ?_, ?_⟩
    · intro id text ht
      exact h.yields id text (hshow id _ ht (by simp))
    · intro n hn reason hr
      exact h.fails n hn reason (hshow n.id _ hr (by simp))
    · rintro ⟨n, o⟩ hq
      cases o with
      | none => exact trivial
      | some step =>
        obtain ⟨heldBack, rfl⟩ := hfirst _ hq step rfl
        exact trivial

/-- When a busy node goes on to rest, it carries on what is right. -/
theorem Faithful.sleeps {x y : Execution} {statics : List Node} {tasks tasks' : Multiset Task}
    {faults : List RunFault} {n : Node} {step step' : Step} {rest : Multiset (Node × Option Step)}
    (h : Faithful s ⟨x, .round statics tasks faults⟩)
    (htodo : todo statics tasks = (n, some step) ::ₘ rest)
    (htodo' : todo statics tasks' = (n, some step') ::ₘ rest) (hboard : y.board = x.board)
    (hcarries : Carries s x.outputs n step → Carries s x.outputs n step') :
    Faithful s ⟨y, .round statics tasks' faults⟩ := by
  have hout : y.outputs = x.outputs := congrArg Board.outputs hboard
  have hold : ∀ q ∈ (n, some step) ::ₘ rest, Sure s x.outputs q.1 q.2 := htodo ▸ h.sure
  refine ⟨?_, ?_, ?_⟩
  · intro id text ht
    exact h.yields id text (hboard ▸ ht)
  · intro n hn reason hr
    exact h.fails n hn reason (hboard ▸ hr)
  · intro q hq
    rw [Stage.todo, htodo', Multiset.mem_cons] at hq
    rw [hout]
    rcases hq with rfl | hq
    · exact hcarries (hold (n, some step) (Multiset.mem_cons_self _ _))
    · exact hold q (Multiset.mem_cons_of_mem hq)

/-- **Every step keeps a run faithful.** -/
theorem Faithful.next (hs : Distinct s.nodes) (hvar : ∀ n ∈ s.nodes, n.modelVariable? ≠ some "")
    (hsound : Sound s m) (h : Faithful s m) (hm : Moves s m m') : Faithful s m' := by
  have hmoved : ∀ {x : Execution} {p : Phase} (id : String) (st : Standing),
      (x.moveWorkflow p).board.Shows id st → x.board.Shows id st := by
    intro x p id st hshow
    rw [Execution.board_moveWorkflow] at hshow
    exact hshow
  cases hm with
  | finishes hall => exact h.idles hmoved rfl
  | stalls hnil hleft hidle => exact h.idles (fun _ _ hshow => hshow) rfl
  | deadlocks hnil hleft hidle => exact h.idles hmoved rfl
  | settles => exact h.idles (fun _ _ hshow => hshow) rfl
  | stops => exact h.idles hmoved rfl
  | opens hwave hboard hbusy hkind hfirst => exact h.opens hsound hboard hfirst
  | sleeps htodo htodo' hboard hleft hcarries => exact h.sleeps htodo htodo' hboard hcarries
  | completes htodo hboard hresult =>
    exact h.ends hs hvar hsound htodo hboard fun hsure => Or.inl ⟨_, rfl, hresult hsure⟩
  | fails htodo hboard hresult =>
    exact h.ends hs hvar hsound htodo hboard fun hsure => Or.inr ⟨_, rfl, hresult hsure⟩

/-- **At every point of every course a run has computed values and nothing else.** -/
theorem Snapshot.Leads.faithful (hs : Distinct s.nodes)
    (hvar : ∀ n ∈ s.nodes, n.modelVariable? ≠ some "") {past : List Snapshot}
    (h : Leads s (Snapshot.initial s) past m) : Faithful s m := by
  induction h with
  | refl => exact faithful_initial hs
  | pass moment _ ih => exact ⟨ih.yields, ih.fails, ih.sure⟩
  | next hl hn ih => exact ih.next hs hvar (hl.sound hs) ((hl.sound hs).moves hs hn)

end Faithful
end PromptChain
