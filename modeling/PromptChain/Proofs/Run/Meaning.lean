/-
# What a script means

A script without cycles means a function from its ids to texts, by recursion along the
dependencies: a static node means its text with every placeholder replaced, and a model node what
the client replies to its request (`Meaning.valueOf`).  The recursion goes as deep as there are
nodes; on a graph without cycles that is deep enough, and the function is the one that solves the
equations of the nodes (`Meaning.of_eq`, `Meaning.eq_of_solves`).

When the client replies to every request and every model that an output names is offered, every
node yields what it means (`yields_meaning`).  So no run meets a failure, whatever its schedule,
and as every node is settled, every run is completed and stores what its nodes mean
(`script_runs_to_its_meaning`).
-/
import PromptChain.Proofs.Graph.Acyclic
import PromptChain.Proofs.Run.Schedules
import PromptChain.Proofs.Template.Substitution

namespace PromptChain

open PromptChain.Graph Snapshot Template

/-! ## 1. The meaning of the nodes -/

/-- What the outputs of a script are made of: its nodes, the input, the transcript, and what the
client replies. -/
structure Meaning where
  nodes : List Node
  input : String
  transcript : Option (List Message)
  reply : Request → String

namespace Meaning

variable (c : Meaning) (value : String → String) (n : Node)

/-- The text of a node, with every placeholder replaced at once. -/
def text : String := substituted c.input (Script.idsOf c.nodes) value n.template

/-- The prompt of a node: its text, after the values of the children it does not refer to, each
set off by a blank line. -/
def prompt : String :=
  Context.apart
    (Text.joined "\n\n" ((n.children.filter fun d => decide (d ∉ referenceIds n.template)).map value))
    (c.text value n)

/-- The request of a node: to its model, with its flags, and with its prompt after the transcript
if it asks for that. -/
def request : ModelSource → Request
  | .nickname name => ⟨name, messages, n.flags⟩
  | .output id => ⟨Text.trim (value id), messages, n.flags⟩
where
  messages : List Message :=
    (if historyFlag ∈ n.flags then c.transcript.getD [] else []) ++ [⟨userSender, c.prompt value n⟩]

/-- What a node means when the values of its dependencies are given. -/
def valueOf : String :=
  match n.kind with
  | .static => c.text value n
  | .llm source => c.reply (c.request value n source)

/-- What an id means, by recursion along the dependencies to some depth. -/
def ofDepth : Nat → String → String
  | 0, _ => ""
  | k + 1, id =>
    match (Graph.mk c.nodes).find? id with
    | none => ""
    | some n => c.valueOf (ofDepth k) n

/-- What an id means. -/
def of (id : String) : String := c.ofDepth c.nodes.length id

end Meaning

/-! ## 2. The equations of the nodes -/

namespace Meaning

variable {c : Meaning} {value value' : String → String} {n : Node}

/-- Without cycles every node of a script is settled. -/
theorem settles (h : Script.Loaded c.nodes) (hacyclic : (Graph.mk c.nodes).Acyclic)
    (hn : n ∈ c.nodes) : (Graph.mk c.nodes).Settles n.id := by
  refine settles_of_acyclic hacyclic ?_ hn
  intro m hm d hd
  exact h.dependencies hm hd

/-- The ids that a text refers to and that are known are dependencies. -/
theorem mem_dependencies_of_reference (h : Script.Loaded c.nodes) (hn : n ∈ c.nodes) {id : String}
    (hid : id ∈ referenceIds n.template) (hknown : id ∈ Script.idsOf c.nodes) :
    id ∈ n.dependencies := by
  refine Node.mem_dependencies_of_mem_references ?_
  rw [h.references n hn]
  exact List.mem_filter.2 ⟨hid, decide_eq_true hknown⟩

/-- **What a node means depends on its dependencies.** -/
theorem valueOf_congr (h : Script.Loaded c.nodes) (hn : n ∈ c.nodes)
    (hvalue : ∀ d ∈ n.dependencies, value d = value' d) : c.valueOf value n = c.valueOf value' n := by
  have htext : c.text value n = c.text value' n :=
    substituted_congr (fun _ _ => Iff.rfl) fun id hid hknown =>
      hvalue id (mem_dependencies_of_reference h hn hid hknown)
  have hchildren : (n.children.filter fun d => decide (d ∉ referenceIds n.template)).map value =
      (n.children.filter fun d => decide (d ∉ referenceIds n.template)).map value' :=
    List.map_congr_left fun d hd =>
      hvalue d (Node.mem_dependencies_of_mem_children (List.mem_filter.1 hd).1)
  have hprompt : c.prompt value n = c.prompt value' n := by
    simp only [prompt, htext, hchildren]
  have hmessages : request.messages c value n = request.messages c value' n := by
    simp only [request.messages, hprompt]
  cases hkind : n.kind with
  | static => simp only [valueOf, hkind, htext]
  | llm source =>
    cases source with
    | nickname name => simp only [valueOf, hkind, request, hmessages]
    | output id =>
      have hread : value id = value' id :=
        hvalue id (Node.mem_dependencies_of_output hkind (h.modelVariable?_ne hn))
      simp only [valueOf, hkind, request, hmessages, hread]

/-- Once an id is settled, going deeper changes nothing. -/
theorem ofDepth_eq_of_settled (h : Script.Loaded c.nodes) {k j : Nat} (hk : k ≤ j) {id : String}
    (hid : id ∈ (Graph.mk c.nodes).settled k) : c.ofDepth j id = c.ofDepth k id := by
  induction k generalizing j id with
  | zero => exact absurd hid List.not_mem_nil
  | succ k ih =>
    rcases mem_settled_succ.1 hid with hbefore | ⟨n, hn, rfl⟩
    · rw [ih (Nat.le_of_succ_le hk) hbefore, ih (Nat.le_succ k) hbefore]
    · obtain ⟨j, rfl⟩ : ∃ i, j = i + 1 := ⟨j - 1, by omega⟩
      have hmem : n ∈ c.nodes := (mem_wave.1 hn).1
      simp only [ofDepth, find?_of_distinct (g := Graph.mk c.nodes) h.distinct hmem]
      exact valueOf_congr h hmem fun d hd =>
        ih (Nat.le_of_succ_le_succ hk) (dependencies_settled hn hd)

/-- **The meaning solves the equations of the nodes.** -/
theorem of_eq (h : Script.Loaded c.nodes) (hacyclic : (Graph.mk c.nodes).Acyclic)
    (hn : n ∈ c.nodes) : c.of n.id = c.valueOf c.of n := by
  have hset : n.id ∈ (Graph.mk c.nodes).settled c.nodes.length :=
    (settles_iff_settled_length h.distinct).1 (settles h hacyclic hn)
  obtain ⟨j, hj, m, hm, hid⟩ := exists_wave_of_mem_settled hset
  obtain rfl := h.distinct.eq_of_id_eq (mem_wave.1 hm).1 hn hid
  have hstep : c.of m.id = c.valueOf (c.ofDepth j) m := by
    rw [of, ofDepth_eq_of_settled h hj (mem_settled_succ.2 (Or.inr ⟨m, hm, rfl⟩)), ofDepth,
      find?_of_distinct (g := Graph.mk c.nodes) h.distinct hn]
  rw [hstep]
  exact valueOf_congr h hn fun d hd =>
    (ofDepth_eq_of_settled h (Nat.le_of_lt hj) (dependencies_settled hm hd)).symm

/-! ## 3. Runs that come to the meaning -/

/-- Whether a client grants what a meaning is made of: the transcript, a reply to each request of
the nodes, and a model for each nickname that the value of a node is; a blank text is none. -/
structure Granted (c : Meaning) (client : Client) : Prop where
  transcript : client.transcript = .ok c.transcript
  replies : ∀ n ∈ c.nodes, ∀ source, n.kind = .llm source →
    client.answer (c.request c.of n source) = .ok (c.reply (c.request c.of n source))
  models : ∀ n ∈ c.nodes, ∀ id, n.modelVariable? = some id →
    Text.trim (c.of id) ≠ "" ∧ client.offers (Text.trim (c.of id)) = true

variable {client : Client} {s : Setup} {o : Store String}

/-- A node that reads the values of its references has its text. -/
theorem resolve_eq (h : Script.Loaded c.nodes) (hn : n ∈ c.nodes)
    (hread : ∀ d ∈ n.dependencies, o.get? d = some (value d)) :
    Context.resolve ⟨o, c.input⟩ n.template n.references = .ok (c.text value n) := by
  have href : ∀ d ∈ n.references, o.get? d = some (value d) := by
    intro d hd
    exact hread d (Node.mem_dependencies_of_mem_references hd)
  rw [Context.resolve_eq_substituted href]
  refine congrArg Except.ok (substituted_congr (fun id hid => ?_) fun _ _ _ => rfl)
  rw [h.references n hn, List.mem_filter, decide_eq_true_eq]
  exact and_iff_right hid

/-- A node that reads the values of its dependencies has its prompt. -/
theorem prompt_eq (h : Script.Loaded c.nodes) (hn : n ∈ c.nodes)
    (hread : ∀ d ∈ n.dependencies, o.get? d = some (value d)) :
    Context.prompt ⟨o, c.input⟩ n = .ok (c.prompt value n) := by
  have hfilter : (n.children.filter fun d => decide (d ∉ n.references)) =
      n.children.filter fun d => decide (d ∉ referenceIds n.template) := by
    refine List.filter_congr fun d hd => ?_
    have hknown := h.children n hn d hd
    simp [h.references n hn, hknown]
  have hchild : ∀ d ∈ n.children.filter fun d => decide (d ∉ referenceIds n.template),
      o.get? d = some (value d) := by
    intro d hd
    exact hread d (Node.mem_dependencies_of_mem_children (List.mem_filter.1 hd).1)
  simp only [Context.prompt, Context.compose, resolve_eq h hn hread, hfilter,
    Context.outputsOf_eq_map (c := ⟨o, c.input⟩) hchild]
  rfl

/-- **A node that reads what its dependencies mean comes to what it means.** -/
theorem resultFor_eq (h : Script.Loaded c.nodes) (hg : c.Granted client)
    (hs : s.Serves c.nodes c.input client) (hn : n ∈ c.nodes)
    (hread : ∀ d ∈ n.dependencies, o.get? d = some (c.of d)) :
    s.resultFor o n = .ok (c.valueOf c.of n) := by
  cases hkind : n.kind with
  | static =>
    simp only [Setup.resultFor, hkind, valueOf, Context.staticText, hs.input,
      resolve_eq h hn hread]
    rfl
  | llm source =>
    have hmodel : Context.modelOf ⟨o, c.input⟩ (s.meets n) source =
        .ok (c.request c.of n source).nickname := by
      cases source with
      | nickname name => rfl
      | output id =>
        have hid : n.modelVariable? = some id := by simp [Node.modelVariable?, hkind]
        have hget : o.get? id = some (c.of id) :=
          hread id (Node.mem_dependencies_of_output hkind (h.modelVariable?_ne hn))
        obtain ⟨hne, hoffers⟩ := hg.models n hn id hid
        have hany : client.models.any (·.answersTo (Text.trim (c.of id))) = true := hoffers
        have hisEmpty : (Text.trim (c.of id)).isEmpty = false := by simpa using hne
        simp [Context.modelOf, hget, hs.models, hany, hisEmpty, request]
    have hmessages : (s.meets n).messages n.flags (c.prompt c.of n) =
        .ok (request.messages c c.of n) := by
      simp only [Encounter.messages, hs.transcript, hg.transcript, request.messages]
      split <;> rfl
    have hrequest : s.requestFor o n source = .ok (c.request c.of n source) := by
      simp only [Setup.requestFor, hs.input, hmodel, prompt_eq h hn hread]
      cases source <;> simp [Except.mapError, hmessages, bind, Except.bind, pure, Except.pure, request]
    simp only [Setup.resultFor, hkind, hrequest, valueOf, hs.answer]
    simp [bind, Except.bind, hg.replies n hn source hkind, Except.mapError]

/-- **Every node yields what it means.** -/
theorem yields_meaning (h : Script.Loaded c.nodes) (hacyclic : (Graph.mk c.nodes).Acyclic)
    (hg : c.Granted client) (hs : s.Serves c.nodes c.input client) (hn : n ∈ c.nodes) :
    Yields s n.id (c.of n.id) := by
  have hall : ∀ {id}, (Graph.mk c.nodes).Settles id → Yields s id (c.of id) := by
    intro id hset
    induction hset with
    | @node m hm _ ih =>
      have hread : ∀ d ∈ m.dependencies,
          (Store.mk (m.dependencies.map fun d => (d, c.of d))).get? d = some (c.of d) :=
        fun d hd => Store.get?_map hd
      refine .node c.of _ (hs.nodes ▸ hm) ih hread ?_
      rw [of_eq h hacyclic hm]
      exact resultFor_eq h hg hs hm hread
  exact hall (settles h hacyclic hn)

/-- **The equations of the nodes have no other solution.** -/
theorem eq_of_solves (h : Script.Loaded c.nodes) (hacyclic : (Graph.mk c.nodes).Acyclic)
    (hvalue : ∀ n ∈ c.nodes, value n.id = c.valueOf value n) (hn : n ∈ c.nodes) :
    value n.id = c.of n.id := by
  have hall : ∀ {id}, (Graph.mk c.nodes).Settles id → value id = c.of id := by
    intro id hset
    induction hset with
    | @node m hm _ ih =>
      rw [hvalue m hm, of_eq h hacyclic hm]
      exact valueOf_congr h hm ih
  exact hall (settles h hacyclic hn)

/-- **Whatever the schedule, the end of a run is the meaning of its nodes.** -/
theorem ends_in_meaning (h : Script.Loaded c.nodes) (hacyclic : (Graph.mk c.nodes).Acyclic)
    (hg : c.Granted client) (hs : s.Serves c.nodes c.input client) {past : List Snapshot}
    {x : Execution} {f : Option RunFault}
    (hl : Leads s (Snapshot.initial s) past ⟨x, .ended f⟩) :
    f = none ∧ x.workflow.phase = .completed ∧
      ∀ id, x.outputs.get? id = if id ∈ Script.idsOf c.nodes then some (c.of id) else none := by
  have hdistinct : Distinct s.nodes := hs.nodes ▸ h.distinct
  have hvar : ∀ n ∈ s.nodes, n.modelVariable? ≠ some "" := by
    intro n hn
    exact h.modelVariable?_ne (hs.nodes ▸ hn)
  have hgraph : s.graph = Graph.mk c.nodes := congrArg Graph.mk hs.nodes
  have hfaithful := hl.faithful hdistinct hvar
  have hyields : ∀ n ∈ s.nodes, Yields s n.id (c.of n.id) := by
    intro n hn
    exact yields_meaning h hacyclic hg hs (hs.nodes ▸ hn)
  obtain ⟨k, hk, -⟩ := (hl.sound hdistinct).layered
  -- a node that had failed would have no value
  have hok : ∀ n ∈ s.nodes, x.phase? n.id ≠ some .failed := by
    intro n hn hfail
    obtain ⟨-, st, hst, heq⟩ := Execution.exists_shows_of_phase? hk.tidy hfail
    cases st with
    | failed reason =>
      obtain ⟨cause, hfails⟩ := hfaithful.fails n hn reason hst
      exact hfails.not_yields hdistinct hvar (Setup.Alike.refl s) hn (hyields n hn)
    | _ => cases heq
  obtain ⟨hlayered, hnil, hend⟩ := end_of_no_failure hdistinct hl hok
  have hall : ∀ n ∈ s.nodes, n.id ∈ s.graph.settled x.rounds.length := by
    intro n hn
    rw [← settles_iff_of_wave_eq_nil hnil, hgraph]
    exact settles h hacyclic (hs.nodes ▸ hn)
  obtain rfl : f = none := by
    rcases hend with ⟨hnone, _⟩ | ⟨_, n, hn, hnot⟩
    · exact hnone
    · exact absurd (hall n hn) hnot
  refine ⟨rfl, ?_, fun id => ?_⟩
  · cases hl.sound hdistinct with
    | completed hrun _ _ => exact hrun
  · by_cases hid : id ∈ Script.idsOf c.nodes
    · obtain ⟨n, hn, rfl⟩ := List.mem_map.1 hid
      rw [← hs.nodes] at hn
      obtain ⟨output, hshow⟩ := hlayered.completed n.id (hall n hn)
      have hvalue : output = c.of n.id := (hfaithful.yields n.id output hshow).unique hdistinct
        hvar (Setup.Alike.refl s) (hyields n hn)
      rw [if_pos hid, ← hvalue]
      exact hshow.2
    · rw [if_neg hid]
      refine Store.get?_eq_none_iff.2 fun hmem => hid ?_
      rw [Script.idsOf, ← hs.nodes]
      exact hlayered.tidy.known id hmem

end Meaning

/-- **A run of a script computes what the script means.**  Take a script without cycles whose
models are offered, and a client that gives the transcript, replies to the requests of the nodes,
and offers the models that outputs name.  The meaning is the one function that solves the
equations of the nodes; and every run of the script, whatever its configuration and its listener,
is completed and has stored exactly what its nodes mean.  So does every run of its nodes, whatever
the latency of every single call, and in whatever order the tasks take turns. -/
theorem script_runs_to_its_meaning {source : String} {c : Meaning} {client : Client}
    (hload : Script.load source = .ok c.nodes) (hne : c.nodes ≠ [])
    (hacyclic : (Graph.mk c.nodes).Acyclic)
    (hcheck : (Graph.mk c.nodes).checkModels client = .ok ()) (hg : c.Granted client) :
    (∀ n ∈ c.nodes, c.of n.id = c.valueOf c.of n) ∧
    (∀ value, (∀ n ∈ c.nodes, value n.id = c.valueOf value n) →
      ∀ n ∈ c.nodes, value n.id = c.of n.id) ∧
    (∀ config listener, ∃ r x,
      Run.ofScript source client config c.input listener = ⟨.completed r, some x⟩ ∧
      x.workflow.phase = .completed ∧
      ∀ id, r.outputs.get? id = if id ∈ Script.idsOf c.nodes then some (c.of id) else none) ∧
    ∀ s : Setup, s.Serves c.nodes c.input client →
      ∀ {past : List Snapshot} {x : Execution} {f : Option RunFault},
        Leads s (Snapshot.initial s) past ⟨x, .ended f⟩ →
        f = none ∧ x.workflow.phase = .completed ∧
          ∀ id, x.outputs.get? id = if id ∈ Script.idsOf c.nodes then some (c.of id) else none := by
  have h := Script.loaded_of_load hload
  refine ⟨fun n hn => Meaning.of_eq h hacyclic hn,
    fun value hvalue n hn => Meaning.eq_of_solves h hacyclic hvalue hn,
    fun config listener => ?_, fun s hs _ _ _ hl => Meaning.ends_in_meaning h hacyclic hg hs hl⟩
  have hs : Setup.Serves ⟨c.nodes, client, config, c.input, listener, fun _ => client.encounter⟩
      c.nodes c.input client :=
    Client.Alike.serves ⟨rfl, rfl, rfl⟩ config listener
  obtain ⟨past, x, f, hl, hrun⟩ := Run.ofNodes_eq_ended (s := ⟨c.nodes, client, config, c.input,
    listener, fun _ => client.encounter⟩) h.distinct
  obtain ⟨rfl, hphase, houtputs⟩ := Meaning.ends_in_meaning h hacyclic hg hs hl
  refine ⟨x.record c.nodes, x, ?_, hphase, houtputs⟩
  -- the script has nodes, so they are run
  cases hnodes : c.nodes with
  | nil => exact absurd hnodes hne
  | cons n rest =>
    rw [hnodes] at hload hcheck hrun
    simp only [Run.ofScript, hload, hcheck]
    exact hrun

/-- What the nodes of a script mean when the client repeats the prompt after the nickname. -/
def relayMeaning : Meaning where
  nodes := Script.relayNodes
  input := "rain"
  transcript := some [⟨"User", "Hello"⟩]
  reply r := r.nickname ++ "(" ++ r.prompt ++ ")"

/-- The second node means what the model of the first replies to its prompt, after the third. -/
theorem script_runs_to_its_meaning_relay :
    relayMeaning.of "draft" = "flash(short\n\nAbout rain, by flash)" ∧
    ∃ r x, Run.ofScript Script.relayScript echoClient { sequential := false } "rain" none =
      ⟨.completed r, some x⟩ ∧ x.workflow.phase = .completed ∧
      ∀ id, r.outputs.get? id =
        if id ∈ Script.idsOf relayMeaning.nodes then some (relayMeaning.of id) else none := by
  have hload : Script.load Script.relayScript = .ok relayMeaning.nodes := Script.load_relayScript
  have hloaded := Script.loaded_of_load hload
  have hacyclic : (Graph.mk relayMeaning.nodes).Acyclic := by
    refine (acyclic_iff_settles hloaded.distinct fun m hm d hd =>
      hloaded.dependencies hm hd).2 fun n hn => settles_iff_settled.2 ⟨2, ?_⟩
    revert n
    decide +kernel
  have hgranted : relayMeaning.Granted echoClient := by
    refine ⟨rfl, fun _ _ _ _ => rfl, ?_⟩
    decide +kernel
  exact ⟨by decide +kernel, (script_runs_to_its_meaning hload (by decide) hacyclic
    (Script.eq_ok_of_toOption (by decide +kernel)) hgranted).2.2.1 _ _⟩

end PromptChain
