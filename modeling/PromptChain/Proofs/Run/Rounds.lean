/-
# The rounds of a run are the batches of its graph

Batches are made of levels, before anything runs; rounds are made of what is found ready while
nodes are completed.  Both are the waves of the graph: the batches as the levels count them
(`Graph.mem_batch_iff`), the rounds as every course goes through them (`Sound`).

A node is set running by a step that opens a round, and by no other (`Sound.starts_iff`); so it is
the step that opens round `k`, whatever happens in between, that sets just the nodes of batch `k`
running.  A run that meets no failure goes through all of them (`rounds_are_batches`).
-/
import PromptChain.Proofs.Graph.Batches
import PromptChain.Proofs.Run.Scripts

namespace PromptChain

open PromptChain.Graph Snapshot

/-! ## 1. What sets a node running -/

/-- Whether a step sets a node running. -/
def Snapshot.Starts (m m' : Snapshot) (id : String) : Prop :=
  m.execution.phase? id ≠ some .running ∧ m'.execution.phase? id = some .running

section Steps

variable {s : Setup} {m m' : Snapshot} {id : String}

/-- What a step does to the board: nothing but that the run as a whole moves on, or it opens a
round, or a running node comes to its end. -/
theorem Moves.board (h : Sound s m) (hm : Moves s m m') :
    (∃ workflow, m'.execution.board = { m.execution.board with workflow }) ∨
      (s.graph.wave m.execution.rounds.length ≠ [] ∧
        Layered s m.execution.board m.execution.rounds.length ∧
        m'.execution.board = Board.start { m.execution.board with
          rounds := m.execution.rounds ++ [(s.graph.wave m.execution.rounds.length).map (·.id)] }
          (s.graph.wave m.execution.rounds.length)) ∨
      ∃ n ∈ s.nodes, ∃ st : Standing, m.execution.board.Shows n.id .running ∧
        st.phase.isFinal = true ∧ m'.execution.board = m.execution.board.set n.id st := by
  cases hm with
  | @finishes x idle hall => exact Or.inl ⟨_, x.board_moveWorkflow .completed⟩
  | opens hwave hboard hbusy hkind hfirst =>
    cases h with
    | between hrun h hidle => exact Or.inr (Or.inl ⟨hwave, h, hboard⟩)
  | stalls hnil hleft hidle => exact Or.inl ⟨_, rfl⟩
  | @deadlocks x idle hnil hleft hidle => exact Or.inl ⟨_, x.board_moveWorkflow .failed⟩
  | sleeps htodo htodo' hboard hleft hcarries => exact Or.inl ⟨_, hboard⟩
  | completes htodo hboard hresult =>
    obtain ⟨hn, hshow, -⟩ := h.running_of_todo (htodo ▸ Multiset.mem_cons_self _ _)
    exact Or.inr (Or.inr ⟨_, hn, _, hshow, rfl, hboard⟩)
  | fails htodo hboard hresult =>
    obtain ⟨hn, hshow, -⟩ := h.running_of_todo (htodo ▸ Multiset.mem_cons_self _ _)
    exact Or.inr (Or.inr ⟨_, hn, _, hshow, rfl, hboard⟩)
  | settles => exact Or.inl ⟨_, rfl⟩
  | @stops x statics tasks f faults => exact Or.inl ⟨_, x.board_moveWorkflow .failed⟩

/-- **A step sets a node running exactly when it opens a round and the node is in its wave.** -/
theorem Sound.starts_iff (hs : Distinct s.nodes) (h : Sound s m) (hn : Next s m m') :
    m.Starts m' id ↔ m'.execution.rounds ≠ m.execution.rounds ∧
      ∃ n ∈ s.graph.wave m.execution.rounds.length, n.id = id := by
  -- a node that runs after the step shows that it does
  have hshown : m'.execution.phase? id = some .running → m'.execution.board.Shows id .running := by
    obtain ⟨k, hk, -⟩ := (h.next hs hn).layered
    exact (Execution.phase?_eq_iff_shows hk.tidy .running (Or.inr rfl)).1
  rcases (h.moves hs hn).board h with ⟨workflow, hboard⟩ | ⟨hwave, hlayered, hboard⟩ |
    ⟨n, hmem, st, hshow, hfinal, hboard⟩
  · have hrounds : m'.execution.rounds = m.execution.rounds := congrArg Board.rounds hboard
    have hnodes : m'.execution.nodes = m.execution.nodes := congrArg Board.nodes hboard
    simp [Starts, Execution.phase?, hrounds, hnodes]
  · have hrounds := Execution.rounds_of_start hboard
    have hne : m'.execution.rounds ≠ m.execution.rounds := by
      intro heq
      have hlength := congrArg List.length (hrounds.symm.trans heq)
      simp at hlength
    rw [and_iff_right hne]
    constructor
    · rintro ⟨hnot, hrun⟩
      have hnew := hshown hrun
      rw [hboard] at hnew
      rcases (hlayered.shows_opened rfl).1 hnew with ⟨hin, -⟩ | ⟨-, hold⟩
      · exact List.mem_map.1 hin
      · exact absurd (Execution.phase?_of_shows hold) hnot
    · rintro ⟨n, hn, rfl⟩
      have hpend := hlayered.pending_of_mem_wave rfl hn
      have hrun : m'.execution.board.Shows n.id .running := by
        rw [hboard]
        exact (hlayered.shows_opened rfl).2 (Or.inl ⟨List.mem_map_of_mem hn, rfl⟩)
      refine ⟨?_, Execution.phase?_of_shows hrun⟩
      rw [Execution.phase?_of_shows hpend]
      simp [Standing.phase]
  · have hrounds : m'.execution.rounds = m.execution.rounds := congrArg Board.rounds hboard
    simp only [hrounds, ne_eq, not_true_eq_false, false_and, iff_false]
    rintro ⟨hnot, hrun⟩
    have hnew := hshown hrun
    rw [hboard] at hnew
    by_cases hid : id = n.id
    · subst hid
      rw [(Board.shows_set_self hshow.2).unique hnew] at hfinal
      cases hfinal
    · exact hnot (Execution.phase?_of_shows ((Board.shows_set_ne hid).1 hnew))

end Steps

/-! ## 2. Rounds and batches -/

/-- Whether a step that opens a round sets just the nodes of the next batch running, and any other
step none. -/
def Snapshot.Batched (nodes : List Node) (m m' : Snapshot) : Prop :=
  (m'.execution.rounds = m.execution.rounds ∧ ∀ id, ¬ m.Starts m' id) ∨
    ∃ batch, (Graph.mk nodes).batches[m.execution.rounds.length]? = some batch ∧
      m'.execution.rounds.length = m.execution.rounds.length + 1 ∧
      ∀ id, m.Starts m' id ↔ id ∈ batch

/-- Whether the rounds of a run were the batches of its nodes. -/
structure InBatches (nodes : List Node) (x : Execution) : Prop where
  length : x.rounds.length = (Graph.mk nodes).batches.length
  mem : ∀ (k : Nat) (round batch : List String), x.rounds[k]? = some round →
    (Graph.mk nodes).batches[k]? = some batch → ∀ id, id ∈ round ↔ id ∈ batch

section Batches

variable {s : Setup} (hdistinct : Distinct s.nodes)
  (hknown : ∀ n ∈ s.nodes, ∀ d ∈ n.dependencies, d ∈ s.nodes.map (·.id))
  (hacyclic : s.graph.Acyclic)

include hdistinct hknown hacyclic

/-- **A step that opens a round sets just the next batch running.** -/
theorem batched_of_next {m m' : Snapshot} (h : Sound s m) (hn : Next s m m') :
    m.Batched s.nodes m' := by
  have hstarts : ∀ id, m.Starts m' id ↔ _ := fun id => h.starts_iff hdistinct hn
  have hnone : m'.execution.rounds = m.execution.rounds → m.Batched s.nodes m' := fun hsame =>
    Or.inl ⟨hsame, fun id hstart => ((hstarts id).1 hstart).1 hsame⟩
  rcases (h.moves hdistinct hn).board h with ⟨workflow, hboard⟩ | ⟨hwave, -, hboard⟩ |
    ⟨n, -, st, -, -, hboard⟩
  · exact hnone (congrArg Board.rounds hboard)
  · have hrounds := Execution.rounds_of_start hboard
    have hne : m'.execution.rounds ≠ m.execution.rounds := by simp [hrounds]
    have hlt := (lt_length_batches_iff (g := s.graph) hdistinct hknown hacyclic).2 hwave
    refine Or.inr ⟨_, List.getElem?_eq_getElem hlt, by simp [hrounds], fun id => ?_⟩
    rw [hstarts id, and_iff_right hne,
      mem_batch_iff hdistinct hknown hacyclic (List.getElem?_eq_getElem hlt)]
  · exact hnone (congrArg Board.rounds hboard)

/-- **A run that meets no failure goes through all batches.** -/
theorem inBatches_of_leads {past : List Snapshot} {x : Execution} {fault : Option RunFault}
    (hl : Leads s (Snapshot.initial s) past ⟨x, .ended fault⟩)
    (hok : ∀ n ∈ s.nodes, x.phase? n.id ≠ some .failed) :
    fault = none ∧ InBatches s.nodes x := by
  obtain ⟨hlayered, hnil, hfault⟩ := end_of_no_failure hdistinct hl hok
  have hrounds : x.rounds = _ := hlayered.rounds
  have hcount : ∀ k, k < s.graph.batches.length ↔ s.graph.wave k ≠ [] := fun k =>
    lt_length_batches_iff hdistinct hknown hacyclic
  refine ⟨?_, ?_, ?_⟩
  · rcases hfault with ⟨hnone, -⟩ | ⟨-, n, hn, hnot⟩
    · exact hnone
    · have hset := settles_of_acyclic hacyclic hknown hn
      exact absurd ((settles_iff_of_wave_eq_nil hnil).1 hset) hnot
  · refine Nat.le_antisymm (Nat.le_of_not_lt fun hlt => ?_)
      (Nat.le_of_not_lt fun hlt => (hcount _).1 hlt hnil)
    exact absurd ((hcount _).2 (hlayered.waves _ hlt)) (Nat.lt_irrefl _)
  · intro k round batch hround hbatch id
    rw [mem_batch_iff hdistinct hknown hacyclic hbatch]
    rw [hrounds, List.getElem?_map, Option.map_eq_some_iff] at hround
    obtain ⟨l, hl, rfl⟩ := hround
    obtain rfl : k = l := by
      obtain ⟨_, hl⟩ := List.getElem?_eq_some_iff.1 hl
      rwa [List.getElem_range] at hl
    exact List.mem_map

end Batches

/-- **The rounds of a script are the batches of its graph.**  Take a script without cycles whose
models are offered.  Along every course of its nodes, whatever their client, input and schedule,
the step that opens a round sets just the nodes of the next batch running, and no other step sets
any; and without a failure the course ends when all batches have had their round.  So it is with
every run of the script that no limit cancels. -/
theorem rounds_are_batches {source : String} {nodes : List Node} {client : Client}
    (hload : Script.load source = .ok nodes) (hne : nodes ≠ [])
    (hacyclic : (Graph.mk nodes).Acyclic)
    (hcheck : (Graph.mk nodes).checkModels client = .ok ()) :
    (∀ s : Setup, s.nodes = nodes → ∀ {past : List Snapshot} {m : Snapshot},
      Leads s (Snapshot.initial s) past m →
      (∀ {m' : Snapshot}, Next s m m' → m.Batched nodes m') ∧
      ∀ fault, m.stage = .ended fault →
        (∀ n ∈ nodes, m.execution.phase? n.id ≠ some .failed) →
        fault = none ∧ InBatches nodes m.execution) ∧
    ∀ config input listener limit,
      let run := Run.ofScript source client config input listener limit
      ∃ x, run.execution = some x ∧
        (run.outcome = .cancelled ∧ limit.isSome = true ∨ (∃ n ∈ nodes, x.phase? n.id = some .failed) ∨
          ∃ r, run.outcome = .completed r ∧ r.rounds = (Graph.mk nodes).batches.length ∧
            InBatches nodes x) := by
  have hloaded := Script.loaded_of_load hload
  have hknown : ∀ n ∈ nodes, ∀ d ∈ n.dependencies, d ∈ nodes.map (·.id) :=
    fun n hn d hd => hloaded.dependencies hn hd
  have hends : ∀ s : Setup, s.nodes = nodes →
      ∀ {past : List Snapshot} {x : Execution} {fault : Option RunFault},
        Leads s (Snapshot.initial s) past ⟨x, .ended fault⟩ →
        (∀ n ∈ nodes, x.phase? n.id ≠ some .failed) → fault = none ∧ InBatches nodes x := by
    rintro s rfl past x fault hl hok
    exact inBatches_of_leads hloaded.distinct hknown hacyclic hl hok
  refine ⟨?_, fun config input listener limit => ?_⟩
  · rintro s rfl past ⟨x, stage⟩ hl
    refine ⟨fun hn => batched_of_next hloaded.distinct hknown hacyclic (hl.sound hloaded.distinct)
      hn, ?_⟩
    rintro fault rfl hok
    exact hends s rfl hl hok
  · obtain ⟨past, x, stage, hl, hrun⟩ :=
      Run.ofScript_reaches hload hcheck hne config input listener limit
    rcases hrun with ⟨hlimit, hrun⟩ | ⟨fault, rfl, hrun⟩
    · rw [hrun]
      exact ⟨x, rfl, Or.inl ⟨rfl, hlimit⟩⟩
    · by_cases hok : ∀ n ∈ nodes, x.phase? n.id ≠ some .failed
      · obtain ⟨rfl, hin⟩ := hends _ rfl hl hok
        rw [hrun]
        exact ⟨x, rfl, Or.inr (Or.inr ⟨_, rfl, hin.length, hin⟩)⟩
      · rw [hrun]
        have hfailed : ∃ n ∈ nodes, x.phase? n.id = some .failed := by simpa using hok
        exact ⟨x, by cases fault <;> rfl, Or.inr (Or.inl hfailed)⟩

/-- The model and the note of that script have the first round, and what is drafted with both the
second. -/
theorem rounds_are_batches_relay :
    (Graph.mk Script.relayNodes).batches = [["model", "note"], ["draft"]] ∧
    ∃ r x, Run.ofScript Script.relayScript echoClient {} "rain" none = ⟨.completed r, some x⟩ ∧
      r.rounds = (Graph.mk Script.relayNodes).batches.length ∧ InBatches Script.relayNodes x := by
  have hload := Script.load_relayScript
  have hloaded := Script.loaded_of_load hload
  have hacyclic : (Graph.mk Script.relayNodes).Acyclic :=
    (isOrdered_iff_acyclic hloaded.distinct).1 (by decide +kernel)
  have hcheck : (Graph.mk Script.relayNodes).checkModels echoClient = .ok () :=
    Script.eq_ok_of_toOption (by decide +kernel)
  have hrun := (rounds_are_batches hload (by decide) hacyclic hcheck).2 {} "rain" none none
  have hphases : ((Run.ofScript Script.relayScript echoClient {} "rain" none).execution.map fun x =>
      decide (∀ n ∈ Script.relayNodes, x.phase? n.id ≠ some .failed)) = some true := by
    decide +kernel
  refine ⟨by decide +kernel, ?_⟩
  generalize Run.ofScript Script.relayScript echoClient {} "rain" none = run
    at hrun hphases ⊢
  obtain ⟨outcome, execution⟩ := run
  obtain ⟨x, rfl, ⟨-, hlimit⟩ | ⟨n, hn, hfail⟩ | ⟨r, rfl, hrounds, hin⟩⟩ := hrun
  · cases hlimit
  · exact absurd hfail (of_decide_eq_true (Option.some.inj hphases) n hn)
  · exact ⟨r, x, rfl, hrounds, hin⟩

end PromptChain
