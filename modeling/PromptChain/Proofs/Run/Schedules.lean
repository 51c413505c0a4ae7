/-
# The schedule does not matter

Two runs of the same nodes with the same input, whose nodes are told the same by the client, come
to the same, whatever is set about their schedule, however long every call takes and in whatever
order the tasks of a round take turns (`ends_agree`).

Both go through the stages of one graph and store the values of its nodes.  So when neither meets
a failure they stop after the same stage.  And when one of them fails in some round, a node of
that wave has no value; the other cannot have left that wave behind, and it has come as far, for
otherwise it would have failed earlier, and the first one with it (`rounds_eq_of_failed`).
-/
import PromptChain.Proofs.Run.Termination
import PromptChain.Proofs.Run.Values
import PromptChain.Proofs.Script.Loaded

namespace PromptChain

open PromptChain.Graph Snapshot

/-! ## 1. The same run -/

/-- Two runs that come to the same. -/
inductive SameRun : Run → Run → Prop where
  /-- Both are completed, with the same result, outputs, phases and number of rounds. -/
  | completed {r r' : RunRecord} {x y : Option Execution} (hresult : r.result = r'.result)
      (houtputs : ∀ id, r.outputs.get? id = r'.outputs.get? id) (hnodes : r.nodes = r'.nodes)
      (hrounds : r.rounds = r'.rounds) : SameRun ⟨.completed r, x⟩ ⟨.completed r', y⟩
  /-- Both are in the same deadlock. -/
  | deadlock {d : Deadlock} {x y : Option Execution} :
      SameRun ⟨.stopped (.deadlock d), x⟩ ⟨.stopped (.deadlock d), y⟩
  /-- In both a node has failed in the same round; the same nodes have been begun, and what the
  rounds before have stored is the same. -/
  | failure {f g : NodeFailure} {x y : Execution}
      (hpending : ∀ id, x.phase? id = some .pending ↔ y.phase? id = some .pending)
      (hrounds : x.rounds = y.rounds)
      (houtputs : ∀ id ∈ x.rounds.dropLast.flatten,
        ∃ output, x.outputs.get? id = some output ∧ y.outputs.get? id = some output) :
      SameRun ⟨.stopped (.node f), some x⟩ ⟨.stopped (.node g), some y⟩

/-! ## 2. Where two runs stop -/

section Agreement

variable {s t : Setup} {x y : Execution} {k : Nat}

/-- After a round with a failure, a wave that was not empty has a node without a value. -/
theorem exists_failed_node {left : Multiset Node} {f : RunFault} {faults : List RunFault}
    (hu : Underway s x.board k left (f :: faults)) {stage : Stage} (hf : Faithful s ⟨x, stage⟩) :
    ∃ n ∈ s.graph.wave k, ∃ cause, Fails s n cause := by
  obtain ⟨n, hn, cause, _, hshow⟩ := hu.failed f List.mem_cons_self
  exact ⟨n, hn, hf.fails n (mem_wave.1 hn).1 _ hshow⟩

/-- **A run does not leave a wave behind in which a node has no value.** -/
theorem not_settled_of_fails (hs : Distinct s.nodes)
    (hvar : ∀ n ∈ s.nodes, n.modelVariable? ≠ some "") (ha : s.Alike t) {n : Node}
    (hn : n ∈ s.nodes) {cause : NodeCause} (hfails : Fails s n cause) {j : Nat}
    (h : Layered t y.board j) {stage : Stage} (hf : Faithful t ⟨y, stage⟩) :
    n.id ∉ t.graph.settled j := by
  intro hset
  obtain ⟨output, hshow⟩ := h.completed n.id hset
  exact hfails.not_yields hs hvar ha hn (hf.yields n.id output hshow)

/-- A wave that is not settled after some stages is not an earlier one. -/
theorem le_of_not_settled {g : Graph} {n : Node} {j : Nat} (hn : n ∈ g.wave k)
    (hnot : n.id ∉ g.settled j) : j ≤ k := by
  by_contra hlt
  exact hnot (settled_mono (Nat.lt_of_not_le hlt) (mem_settled_succ.2 (Or.inr ⟨n, hn, rfl⟩)))

/-- The outputs of what both runs have completed are the same. -/
theorem outputs_eq_of_completed (hs : Distinct s.nodes)
    (hvar : ∀ n ∈ s.nodes, n.modelVariable? ≠ some "") (ha : s.Alike t) {i j : Nat}
    (hx : Layered s x.board i) (hy : Layered t y.board j) {stage stage' : Stage}
    (hfx : Faithful s ⟨x, stage⟩) (hfy : Faithful t ⟨y, stage'⟩) {id : String}
    (hi : id ∈ s.graph.settled i) (hj : id ∈ t.graph.settled j) :
    ∃ output, x.board.Shows id (.completed output) ∧ y.board.Shows id (.completed output) := by
  obtain ⟨output, hshow⟩ := hx.completed id hi
  obtain ⟨output', hshow'⟩ := hy.completed id hj
  have heq : output = output' :=
    (hfx.yields id output hshow).unique hs hvar ha (hfy.yields id output' hshow')
  exact ⟨output, hshow, heq ▸ hshow'⟩

/-- Runs that stop between two rounds stop after the same one. -/
theorem rounds_eq_of_stopped (ha : s.Alike t) (hx : Layered s x.board x.rounds.length)
    (hy : Layered t y.board y.rounds.length) (hxnil : s.graph.wave x.rounds.length = [])
    (hynil : t.graph.wave y.rounds.length = []) : x.rounds.length = y.rounds.length := by
  have hwy := hy.waves
  rw [← ha.graph] at hynil hwy
  exact stages_unique hx.waves hwy hxnil hynil

/-- **When one run fails, the other cannot stop between two rounds.** -/
theorem false_of_failed_of_stopped (hs : Distinct s.nodes)
    (hvar : ∀ n ∈ s.nodes, n.modelVariable? ≠ some "") (ha : s.Alike t) {left : Multiset Node}
    {f : RunFault} {faults : List RunFault} (hu : Underway s x.board k left (f :: faults))
    (hy : Layered t y.board y.rounds.length) (hynil : t.graph.wave y.rounds.length = [])
    {stage stage' : Stage} (hfx : Faithful s ⟨x, stage⟩) (hfy : Faithful t ⟨y, stage'⟩) :
    False := by
  obtain ⟨n, hn, cause, hfails⟩ := exists_failed_node hu hfx
  have hnot := not_settled_of_fails hs hvar ha (mem_wave.1 hn).1 hfails hy hfy
  rw [ha.graph] at hn
  have hnil := wave_eq_nil_of_le hynil (le_of_not_settled hn hnot)
  rw [hnil] at hn
  exact absurd hn List.not_mem_nil

/-- **Two runs that fail do so in the same round.** -/
theorem rounds_eq_of_failed (hs : Distinct s.nodes)
    (hvar : ∀ n ∈ s.nodes, n.modelVariable? ≠ some "") (ha : s.Alike t) {j : Nat}
    {left left' : Multiset Node} {f g : RunFault} {faults faults' : List RunFault}
    (hx : Layered s x.board k) (hu : Underway s x.board k left (f :: faults))
    (hy : Layered t y.board j) (hv : Underway t y.board j left' (g :: faults'))
    {stage stage' : Stage} (hfx : Faithful s ⟨x, stage⟩) (hfy : Faithful t ⟨y, stage'⟩) :
    k = j := by
  obtain ⟨n, hn, cause, hfails⟩ := exists_failed_node hu hfx
  obtain ⟨n', hn', cause', hfails'⟩ := exists_failed_node hv hfy
  have hst : t.nodes = s.nodes := ha.nodes.symm
  refine Nat.le_antisymm ?_ ?_
  · exact le_of_not_settled (ha.graph ▸ hn') (not_settled_of_fails (hst ▸ hs) (hst ▸ hvar)
      ha.symm (mem_wave.1 hn').1 hfails' hx hfx)
  · exact le_of_not_settled (ha.graph ▸ hn) (not_settled_of_fails hs hvar ha
      (mem_wave.1 hn).1 hfails hy hfy)

theorem Setup.Alike.deadlockAfter (ha : s.Alike t) (k : Nat) :
    s.deadlockAfter k = t.deadlockAfter k := by
  simp only [Setup.deadlockAfter, ha.nodes, ha.graph]

/-- Runs that have completed the same nodes leave the same record but for the time. -/
theorem same_record (hs : Distinct s.nodes) (hvar : ∀ n ∈ s.nodes, n.modelVariable? ≠ some "")
    (ha : s.Alike t) (hx : Layered s x.board x.rounds.length)
    (hy : Layered t y.board y.rounds.length) (hrounds : x.rounds.length = y.rounds.length)
    (hall : ∀ n ∈ s.nodes, n.id ∈ s.graph.settled x.rounds.length)
    {stage stage' : Stage} (hfx : Faithful s ⟨x, stage⟩) (hfy : Faithful t ⟨y, stage'⟩) :
    SameRun (Run.ended s x none) (Run.ended t y none) := by
  have hshow : ∀ n ∈ s.nodes, ∃ output, x.board.Shows n.id (.completed output) ∧
      y.board.Shows n.id (.completed output) := by
    intro n hn
    exact outputs_eq_of_completed hs hvar ha hx hy hfx hfy (hall n hn)
      (hrounds ▸ ha.graph ▸ hall n hn)
  have hids : x.nodes.ids = y.nodes.ids := by
    rw [show x.nodes.ids = _ from hx.tidy.ids, show y.nodes.ids = _ from hy.tidy.ids, ha.nodes]
  have houtputs : ∀ id, x.outputs.get? id = y.outputs.get? id := by
    intro id
    by_cases hid : id ∈ s.nodes.map (·.id)
    · obtain ⟨n, hn, rfl⟩ := List.mem_map.1 hid
      obtain ⟨output, hsx, hsy⟩ := hshow n hn
      exact hsx.2.trans hsy.2.symm
    · have hxnone : x.outputs.get? id = none :=
        Store.get?_eq_none_iff.2 fun hmem => hid (hx.tidy.known id hmem)
      have hynone : y.outputs.get? id = none :=
        Store.get?_eq_none_iff.2 fun hmem => hid (ha.nodes ▸ hy.tidy.known id hmem)
      rw [hxnone, hynone]
  have hnodes : x.nodes = y.nodes := by
    refine Store.eq_of_ids_eq ?_ hids fun id hid => ?_
    · rw [show x.nodes.ids = _ from hx.tidy.ids]
      exact hs
    · rw [show x.nodes.ids = _ from hx.tidy.ids] at hid
      obtain ⟨n, hn, rfl⟩ := List.mem_map.1 hid
      obtain ⟨output, hsx, hsy⟩ := hshow n hn
      exact hsx.1.trans hsy.1.symm
  refine .completed ?_ houtputs ?_ hrounds
  · simp only [Execution.record, Execution.result, houtputs, ha.nodes]
  · simp only [Execution.record, Execution.phases, hnodes]

/-- **Two runs that differ in their schedules only come to the same.** -/
theorem ends_agree (hs : Distinct s.nodes) (hvar : ∀ n ∈ s.nodes, n.modelVariable? ≠ some "")
    (ha : s.Alike t) {past past' : List Snapshot} {f g : Option RunFault}
    (hx : Leads s (Snapshot.initial s) past ⟨x, .ended f⟩)
    (hy : Leads t (Snapshot.initial t) past' ⟨y, .ended g⟩) :
    SameRun (Run.ended s x f) (Run.ended t y g) := by
  have hst : t.nodes = s.nodes := ha.nodes.symm
  have hfx := hx.faithful hs hvar
  have hfy := hy.faithful (hst ▸ hs) (hst ▸ hvar)
  have hsx := hx.sound hs
  have hsy := hy.sound (hst ▸ hs)
  cases hsx with
  | completed hrunx hlx hallx =>
    have hxnil : s.graph.wave x.rounds.length = [] := wave_eq_nil_of_settled hallx
    cases hsy with
    | completed hruny hly hally =>
      have hrounds := rounds_eq_of_stopped ha hlx hly hxnil (wave_eq_nil_of_settled hally)
      exact same_record hs hvar ha hlx hly hrounds hallx hfx hfy
    | deadlocked hruny hly hynil hleft =>
      have hrounds := rounds_eq_of_stopped ha hlx hly hxnil hynil
      obtain ⟨n, hn, hnot⟩ := hleft
      exact absurd (ha.graph ▸ hrounds ▸ hallx n (hst ▸ hn)) hnot
    | failed hruny hky hly hv =>
      exact (false_of_failed_of_stopped (hst ▸ hs) (hst ▸ hvar) ha.symm hv hlx hxnil hfy
        hfx).elim
  | deadlocked hrunx hlx hxnil hleft =>
    cases hsy with
    | completed hruny hly hally =>
      have hrounds := rounds_eq_of_stopped ha hlx hly hxnil (wave_eq_nil_of_settled hally)
      obtain ⟨n, hn, hnot⟩ := hleft
      rw [ha.graph, hrounds] at hnot
      exact absurd (hally n (ha.nodes ▸ hn)) hnot
    | deadlocked hruny hly hynil _ =>
      rw [ha.deadlockAfter, rounds_eq_of_stopped ha hlx hly hxnil hynil]
      exact .deadlock
    | failed hruny hky hly hv =>
      exact (false_of_failed_of_stopped (hst ▸ hs) (hst ▸ hvar) ha.symm hv hlx hxnil hfy
        hfx).elim
  | @failed _ k left fx faults hrunx hkx hlx hu =>
    cases hsy with
    | completed hruny hly hally =>
      have hynil : t.graph.wave y.rounds.length = [] := wave_eq_nil_of_settled hally
      exact (false_of_failed_of_stopped hs hvar ha hu hly hynil hfx hfy).elim
    | deadlocked hruny hly hynil _ =>
      exact (false_of_failed_of_stopped hs hvar ha hu hly hynil hfx hfy).elim
    | @failed _ j left' fy faults' hruny hky hly hv =>
      obtain rfl := rounds_eq_of_failed hs hvar ha hlx hu hly hv hfx hfy
      obtain ⟨n, _, cause, rfl, _⟩ := hu.failed fx List.mem_cons_self
      obtain ⟨n', _, cause', rfl, _⟩ := hv.failed fy List.mem_cons_self
      have hrounds : x.rounds = y.rounds := by
        rw [show x.rounds = _ from hlx.rounds, show y.rounds = _ from hly.rounds,
          show x.board.rounds.length = k + 1 from hkx, show y.board.rounds.length = k + 1 from hky,
          ha.graph]
      refine .failure (fun id => ?_) hrounds fun id hid => ?_
      · rw [hlx.phase?_eq_pending_iff, hly.phase?_eq_pending_iff, ha.nodes, ha.graph, hrounds]
      · -- what was there before the last round was settled by the stages before
        rw [show x.rounds = _ from hlx.rounds, show x.board.rounds.length = k + 1 from hkx,
          List.range_succ, List.map_append, List.map_singleton, List.dropLast_concat,
          ← settled_eq_flatten] at hid
        obtain ⟨output, hshow, hshow'⟩ := outputs_eq_of_completed hs hvar ha hlx hly hfx hfy hid
          (ha.graph ▸ hid)
        exact ⟨output, hshow.2, hshow'.2⟩

end Agreement

/-! ## 3. Runs of a script -/

/-- Clients that say the same, perhaps at other times. -/
structure Client.Alike (c d : Client) : Prop where
  models : c.models = d.models
  transcript : c.transcript = d.transcript
  answer : c.answer = d.answer

/-- Whether the nodes of a run are these, its input is this, and what its nodes are told is what a
client says; the schedule, the listener and the times are open. -/
structure Setup.Serves (s : Setup) (nodes : List Node) (input : String) (c : Client) : Prop where
  nodes : s.nodes = nodes
  input : s.input = input
  models : ∀ n, (s.meets n).models = .ok c.models
  transcript : ∀ n, (s.meets n).transcript = c.transcript
  answer : ∀ n, (s.meets n).answer = c.answer

section Scripts

variable {nodes : List Node} {input : String} {c d : Client} {s t : Setup}

theorem Setup.Serves.alike (h : s.Serves nodes input c) (h' : t.Serves nodes input c) :
    s.Alike t where
  nodes := h.nodes.trans h'.nodes.symm
  input := h.input.trans h'.input.symm
  models n := (h.models n).trans (h'.models n).symm
  transcript n := (h.transcript n).trans (h'.transcript n).symm
  answer n := (h.answer n).trans (h'.answer n).symm

/-- Running the nodes for a client serves every client like it. -/
theorem Client.Alike.serves (h : c.Alike d) (config : RunConfig) (listener : Option Listener) :
    Setup.Serves { nodes, client := d, config, input, listener } nodes input c where
  nodes := rfl
  input := rfl
  models _ := congrArg Except.ok h.models.symm
  transcript _ := h.transcript.symm
  answer _ := h.answer.symm

theorem Client.Alike.checkModels_eq (h : c.Alike d) (g : Graph) :
    g.checkModels c = g.checkModels d := by
  have hoffers : c.offers = d.offers := by
    funext nickname
    simp only [Client.offers, h.models]
  simp only [Graph.checkModels, hoffers]

/-- **The outcome of a script does not depend on the schedule.**  Take any two runs of its nodes
with one input, whose nodes are told the same: whatever their configurations, listeners and
latencies, and in whatever order their tasks take turns, they come to the same; and so do any two
runs of the script itself. -/
theorem script_runs_agree {source : String} (hload : Script.load source = .ok nodes)
    (hcheck : (Graph.mk nodes).checkModels c = .ok ()) (input : String) :
    (∀ s t : Setup, s.Serves nodes input c → t.Serves nodes input c →
      SameRun (Run.ofNodes s) (Run.ofNodes t) ∧
      ∀ {past past' : List Snapshot} {x y : Execution} {f g : Option RunFault},
        Leads s (Snapshot.initial s) past ⟨x, .ended f⟩ →
        Leads t (Snapshot.initial t) past' ⟨y, .ended g⟩ →
        SameRun (Run.ended s x f) (Run.ended t y g)) ∧
    ∀ {d : Client}, c.Alike d → ∀ config config' listener listener',
      SameRun (Run.ofScript source c config input listener)
        (Run.ofScript source d config' input listener') := by
  have hloaded := Script.loaded_of_load hload
  have hvar : ∀ n ∈ nodes, n.modelVariable? ≠ some "" := by
    intro n hn
    exact hloaded.modelVariable?_ne hn
  have hall : ∀ s t : Setup, s.Serves nodes input c → t.Serves nodes input c →
      SameRun (Run.ofNodes s) (Run.ofNodes t) ∧
      ∀ {past past' : List Snapshot} {x y : Execution} {f g : Option RunFault},
        Leads s (Snapshot.initial s) past ⟨x, .ended f⟩ →
        Leads t (Snapshot.initial t) past' ⟨y, .ended g⟩ →
        SameRun (Run.ended s x f) (Run.ended t y g) := by
    intro s t hs ht
    have hdistinct : Distinct s.nodes := hs.nodes ▸ hloaded.distinct
    refine ⟨?_, fun hx hy => ends_agree hdistinct (hs.nodes ▸ hvar) (hs.alike ht) hx hy⟩
    obtain ⟨past, x, f, hx, hsrun⟩ := Run.ofNodes_eq_ended hdistinct
    obtain ⟨past', y, g, hy, htrun⟩ := Run.ofNodes_eq_ended (ht.nodes ▸ hloaded.distinct)
    rw [hsrun, htrun]
    exact ends_agree hdistinct (hs.nodes ▸ hvar) (hs.alike ht) hx hy
  refine ⟨hall, fun {d} hd config config' listener listener' => ?_⟩
  cases nodes with
  | nil =>
    simp only [Run.ofScript, hload]
    exact .completed rfl (fun _ => rfl) rfl rfl
  | cons n rest =>
    have hcheck' : (Graph.mk (n :: rest)).checkModels d = .ok () := by
      rw [← hd.checkModels_eq]
      exact hcheck
    simp only [Run.ofScript, hload, hcheck, hcheck']
    exact (hall _ _ (Client.Alike.serves ⟨rfl, rfl, rfl⟩ config listener)
      (hd.serves config' listener')).1

/-- The same client, without the delay. -/
def promptClient : Client := { echoClient with latency := fun _ => 0.0 }

/-- A script run with one call at a time and a slow client, and all at once with a fast one. -/
theorem script_runs_agree_relay :
    SameRun
      (Run.ofScript Script.relayScript echoClient { delay := 1.5, pause := 0.0 } "rain" none)
      (Run.ofScript Script.relayScript promptClient { sequential := false } "rain" none) := by
  have hcheck : (Graph.mk Script.relayNodes).checkModels echoClient = .ok () :=
    Script.eq_ok_of_toOption (by decide +kernel)
  have halike : echoClient.Alike promptClient := ⟨rfl, rfl, rfl⟩
  exact (script_runs_agree Script.load_relayScript hcheck "rain").2 halike _ _ _ _

end Scripts
end PromptChain
