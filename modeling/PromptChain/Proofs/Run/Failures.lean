/-
# What may stop a run

A node begins when all its dependencies are completed, and what it reads are their outputs; so its
text never lacks an output, and neither does the variable of its model.  What is left are four ways
to fail (`Excuse`): the client raises a fault in place of the transcript or of the answer, or the
output that should name the model is blank or names none that is offered.  All four are ways of a
model node (`Setup.excuse_of_error`).

Hence a fault of a run is a deadlock or a model node with such an excuse (`Foreseen`), at every
point of every course (`foreseen_of_leads`), and no static node ever fails
(`static_not_failed`).  So a run that comes to its end is completed, or deadlocked, or stopped by
such a node (`Concluded`); a run of a script may also be refused before it starts, because models
are not offered (`Closed`).
-/
import PromptChain.Proofs.Run.Scripts
import PromptChain.Proofs.Run.Values
import PromptChain.Proofs.Template.Substitution

namespace PromptChain

open PromptChain.Graph Snapshot

/-! ## 1. Why a node fails -/

/-- What may let a node fail when some outputs are stored. -/
inductive Excuse (s : Setup) (o : Store String) (n : Node) : NodeCause → Prop where
  /-- The node asks for the transcript, and the client raised a fault in its place. -/
  | transcript {f : ClientFault} (hflag : historyFlag ∈ n.flags)
      (hraised : (s.meets n).transcript = .error f) : Excuse s o n (.client f)
  /-- The client raised a fault in place of the answer to the node's request. -/
  | answer {source : ModelSource} {r : Request} {f : ClientFault} (hkind : n.kind = .llm source)
      (hrequest : s.requestFor o n source = .ok r) (hraised : (s.meets n).answer r = .error f) :
      Excuse s o n (.client f)
  /-- The output that should name the node's model is blank. -/
  | blank {id value : String} (hkind : n.kind = .llm (.output id))
      (hvalue : o.get? id = some value) (hblank : Text.trim value = "") :
      Excuse s o n (.model (.blank id))
  /-- It names a model that the client does not offer. -/
  | notOffered {id value : String} {models : List Model} (hkind : n.kind = .llm (.output id))
      (hvalue : o.get? id = some value) (hmodels : (s.meets n).models = .ok models)
      (hnone : ∀ m ∈ models, m.answersTo (Text.trim value) = false) :
      Excuse s o n (.model (.notOffered (Text.trim value) id))

section Node

variable {s : Setup} {o p : Store String} {n : Node} {cause : NodeCause} {source : ModelSource}

/-- An excuse depends on what the node reads. -/
theorem Excuse.congr (hvar : n.modelVariable? ≠ some "")
    (h : ∀ d ∈ n.dependencies, o.get? d = p.get? d) (he : Excuse s o n cause) :
    Excuse s p n cause := by
  cases he with
  | transcript hflag hraised => exact .transcript hflag hraised
  | answer hkind hrequest hraised =>
    rw [Setup.requestFor_congr (Setup.Alike.refl s) hvar h hkind] at hrequest
    exact .answer hkind hrequest hraised
  | blank hkind hvalue hblank =>
    rw [h _ (Node.mem_dependencies_of_output hkind hvar)] at hvalue
    exact .blank hkind hvalue hblank
  | notOffered hkind hvalue hmodels hnone =>
    rw [h _ (Node.mem_dependencies_of_output hkind hvar)] at hvalue
    exact .notOffered hkind hvalue hmodels hnone

/-- A model that cannot be found was to be named by an output. -/
theorem Excuse.of_modelOf (hmodels : ∃ models, (s.meets n).models = .ok models)
    (hvar : n.modelVariable? ≠ some "")
    (hstored : ∀ d ∈ n.dependencies, ∃ text, o.get? d = some text) (hkind : n.kind = .llm source)
    (h : Context.modelOf ⟨o, s.input⟩ (s.meets n) source = .error cause) :
    Excuse s o n cause := by
  cases source with
  | nickname name => cases h
  | output id =>
    obtain ⟨value, hvalue⟩ := hstored id (Node.mem_dependencies_of_output hkind hvar)
    obtain ⟨models, hmodels⟩ := hmodels
    simp only [Context.modelOf, hvalue, hmodels] at h
    split at h
    · rename_i hempty
      cases h
      exact .blank hkind hvalue (String.isEmpty_iff.1 hempty)
    · split at h
      · cases h
      · rename_i hnone
        cases h
        exact .notOffered hkind hvalue hmodels (by simpa using hnone)

/-- When the messages cannot be had, the client raised a fault in place of the transcript. -/
theorem Encounter.transcript_of_messages {e : Encounter} {flags : List String} {prompt : String}
    {f : ClientFault} (h : e.messages flags prompt = .error f) :
    historyFlag ∈ flags ∧ e.transcript = .error f := by
  simp only [messages] at h
  split at h
  · rename_i hflag
    cases htranscript : e.transcript with
    | error f' =>
      rw [htranscript] at h
      cases h
      exact ⟨hflag, rfl⟩
    | ok earlier =>
      rw [htranscript] at h
      cases h
  · cases h

/-- The outputs that are stored, as values. -/
theorem get?_eq_getD_of_stored {ids : List String}
    (h : ∀ d ∈ ids, ∃ text, o.get? d = some text) :
    ∀ d ∈ ids, o.get? d = some ((o.get? d).getD "") :=
  fun d hd => Store.get?_eq_some_getD (Store.mem_ids_iff.2 (h d hd)) ""

/-- A node without a request has no model, or no messages; its prompt is there. -/
theorem Excuse.of_requestFor (hmodels : ∃ models, (s.meets n).models = .ok models)
    (hvar : n.modelVariable? ≠ some "")
    (hstored : ∀ d ∈ n.dependencies, ∃ text, o.get? d = some text) (hkind : n.kind = .llm source)
    (h : s.requestFor o n source = .error cause) : Excuse s o n cause := by
  simp only [Setup.requestFor] at h
  cases hmodel : Context.modelOf ⟨o, s.input⟩ (s.meets n) source with
  | error cause' =>
    rw [hmodel] at h
    cases h
    exact .of_modelOf hmodels hvar hstored hkind hmodel
  | ok model =>
    obtain ⟨prompt, hprompt⟩ :=
      Context.exists_prompt (c := ⟨o, s.input⟩) (get?_eq_getD_of_stored hstored)
    cases hmessages : (s.meets n).messages n.flags prompt with
    | ok messages =>
      simp [hmodel, hprompt, hmessages, bind, Except.bind, Except.mapError, pure,
        Except.pure] at h
    | error f =>
      simp only [hmodel, hprompt, hmessages, bind, Except.bind, Except.mapError,
        Except.error.injEq] at h
      subst h
      obtain ⟨hflag, hraised⟩ := Encounter.transcript_of_messages hmessages
      exact .transcript hflag hraised

/-- **A node whose dependencies have outputs fails with an excuse**, and is a model node. -/
theorem Setup.excuse_of_error (hmodels : ∃ models, (s.meets n).models = .ok models)
    (hvar : n.modelVariable? ≠ some "")
    (hstored : ∀ d ∈ n.dependencies, ∃ text, o.get? d = some text)
    (h : s.resultFor o n = .error cause) : n.isLlm = true ∧ Excuse s o n cause := by
  cases hkind : n.kind with
  | static =>
    simp only [resultFor, hkind, Context.staticText_eq_substituted (c := ⟨o, s.input⟩)
      (get?_eq_getD_of_stored hstored)] at h
    cases h
  | llm source =>
    refine ⟨by simp [Node.isLlm, Node.isStatic, hkind], ?_⟩
    simp only [resultFor, hkind] at h
    cases hrequest : s.requestFor o n source with
    | error cause' =>
      rw [hrequest] at h
      cases h
      exact .of_requestFor hmodels hvar hstored hkind hrequest
    | ok r =>
      rw [hrequest] at h
      cases hanswer : (s.meets n).answer r with
      | ok text => simp [hanswer, bind, Except.bind, Except.mapError] at h
      | error f =>
        simp only [hanswer, bind, Except.bind, Except.mapError, Except.error.injEq] at h
        subst h
        exact .answer hkind hrequest hanswer

end Node

/-! ## 2. Along a course -/

/-- What may stop a run when some outputs are stored. -/
inductive Foreseen (s : Setup) (o : Store String) : RunFault → Prop where
  | deadlock (d : Deadlock) : Foreseen s o (.deadlock d)
  | node {n : Node} {cause : NodeCause} (hn : n ∈ s.nodes) (hllm : n.isLlm = true)
      (h : Excuse s o n cause) : Foreseen s o (.node { node := n.id, cause := some cause })

section Course

variable {s : Setup} {m m' : Snapshot} {past : List Snapshot}

/-- What let a node of a run fail is still there later on. -/
theorem Excuse.kept (hs : Distinct s.nodes) (hvar : ∀ n ∈ s.nodes, n.modelVariable? ≠ some "")
    (h : Sound s m) (hl : Leads s m past m') {n : Node} (hn : n ∈ s.nodes)
    (hleft : m.execution.phase? n.id ≠ some .pending) {cause : NodeCause}
    (he : Excuse s m.execution.outputs n cause) : Excuse s m'.execution.outputs n cause := by
  refine he.congr (hvar n hn) fun d hd => ?_
  obtain ⟨output, hget, hget'⟩ := h.reads_kept hs hl hn hleft d hd
  rw [hget, hget']

/-- A node that was met by a fault has failed. -/
theorem Sound.failed_of_mem_faults (h : Sound s m) {f : NodeFailure}
    (hf : .node f ∈ m.stage.faults) : m.execution.phase? f.node = some .failed := by
  have hround : ∀ {x : Execution} {k : Nat} {left : Multiset Node} {faults : List RunFault},
      Underway s x.board k left faults → .node f ∈ faults →
      x.phase? f.node = some .failed := by
    intro x k left faults hu hmem
    obtain ⟨n, -, cause, heq, hshow⟩ := hu.failed _ hmem
    cases heq
    exact Execution.phase?_of_shows hshow
  cases h with
  | between hrun h hidle => cases hf
  | round hrun hk h hkind hu => exact hround hu hf
  | completed hrun h hall => cases hf
  | deadlocked hrun h hnil hleft => simp [Stage.faults] at hf
  | failed hrun hk h hu =>
    obtain rfl := List.mem_singleton.1 hf
    exact hround hu List.mem_cons_self

/-- A node whose turn it is reads outputs that are stored. -/
theorem Sound.stored_of_todo (hs : Distinct s.nodes) {x : Execution} {statics : List Node}
    {tasks : Multiset Task} {faults : List RunFault}
    (h : Sound s ⟨x, .round statics tasks faults⟩) {q : Node × Option Step}
    (hq : q ∈ todo statics tasks) : ∀ d ∈ q.1.dependencies, ∃ text, x.outputs.get? d = some text := by
  intro d hd
  obtain ⟨hn, hrun, -⟩ := h.running_of_todo hq
  have hleft : x.phase? q.1.id ≠ some .pending := by
    rw [Execution.phase?_of_shows hrun]
    simp [Standing.phase]
  obtain ⟨text, hget, -⟩ := h.reads_kept hs .refl hn hleft d hd
  exact ⟨text, hget⟩

/-- **Every fault that a run meets is foreseen.** -/
theorem foreseen_of_leads (hs : Distinct s.nodes)
    (hvar : ∀ n ∈ s.nodes, n.modelVariable? ≠ some "")
    (hmodels : ∀ n, ∃ models, (s.meets n).models = .ok models)
    (hl : Leads s (Snapshot.initial s) past m) :
    ∀ f ∈ m.stage.faults, Foreseen s m.execution.outputs f := by
  induction hl with
  | refl => exact fun f hf => absurd hf List.not_mem_nil
  | pass moment _ ih => exact ih
  | @next past m m' hl hn ih =>
    have hsound := hl.sound hs
    -- a fault that was met before stays foreseen
    have hold : ∀ f ∈ m.stage.faults, Foreseen s m'.execution.outputs f := by
      intro f hf
      cases ih f hf with
      | deadlock d => exact .deadlock d
      | node hnode hllm he =>
        have hleft := hsound.failed_of_mem_faults hf
        exact .node hnode hllm (he.kept hs hvar hsound (.single hn) hnode (by simp [hleft]))
    have hfaithful := hl.faithful hs hvar
    cases hsound.moves hs hn with
    | finishes hall => exact fun f hf => absurd hf List.not_mem_nil
    | opens hwave hboard hbusy hkind hfirst => exact fun f hf => absurd hf List.not_mem_nil
    | stalls hnil hleft hidle => exact fun f hf => absurd hf List.not_mem_nil
    | settles => exact fun f hf => absurd hf List.not_mem_nil
    | deadlocks hnil hleft hidle =>
      intro f hf
      obtain rfl := List.mem_singleton.1 hf
      exact .deadlock _
    | sleeps htodo htodo' hboard hleft hcarries => exact hold
    | completes htodo hboard hresult => exact hold
    | @fails x y statics statics' tasks tasks' faults n step? cause htodo hboard hresult =>
      have hmem : (n, step?) ∈ todo statics tasks := htodo ▸ Multiset.mem_cons_self _ _
      obtain ⟨hnode, hrun, -⟩ := hsound.running_of_todo hmem
      obtain ⟨hllm, he⟩ := Setup.excuse_of_error (hmodels n) (hvar n hnode)
        (hsound.stored_of_todo hs hmem) (hresult (hfaithful.sure _ hmem))
      have hleft : x.phase? n.id = some .running := Execution.phase?_of_shows hrun
      intro f hf
      rcases List.mem_append.1 hf with hf | hf
      · exact hold f hf
      · obtain rfl := List.mem_singleton.1 hf
        exact .node hnode hllm (he.kept hs hvar hsound (.single hn) hnode (by simp [hleft]))
    | stops =>
      intro f hf
      obtain rfl := List.mem_singleton.1 hf
      exact hold _ List.mem_cons_self

/-- **No static node ever fails.** -/
theorem static_not_failed (hs : Distinct s.nodes)
    (hvar : ∀ n ∈ s.nodes, n.modelVariable? ≠ some "")
    (hmodels : ∀ n, ∃ models, (s.meets n).models = .ok models)
    (hl : Leads s (Snapshot.initial s) past m) {n : Node} (hn : n ∈ s.nodes)
    (hstatic : n.isStatic = true) : m.execution.phase? n.id ≠ some .failed := by
  intro hfailed
  obtain ⟨k, hlayered, -⟩ := (hl.sound hs).layered
  obtain ⟨-, st, hshow, hphase⟩ := Execution.exists_shows_of_phase? hlayered.tidy hfailed
  cases st with
  | failed reason =>
    obtain ⟨cause, o, hreads, hresult⟩ := (hl.faithful hs hvar).fails n hn reason hshow
    have hstored : ∀ d ∈ n.dependencies, ∃ text, o.get? d = some text := by
      intro d hd
      obtain ⟨text, hget, -⟩ := hreads d hd
      exact ⟨text, hget⟩
    have hllm := (Setup.excuse_of_error (hmodels n) (hvar n hn) hstored hresult).1
    simp [Node.isLlm, hstatic] at hllm
  | pending => cases hphase
  | running => cases hphase
  | completed output => cases hphase

end Course

/-! ## 3. At the end -/

/-- How a run of some nodes may end, and with what fault. -/
inductive Concluded (s : Setup) (x : Execution) : Option RunFault → Prop where
  /-- All nodes are completed, and their outputs are stored. -/
  | completed (hrun : x.workflow.phase = .completed)
      (hall : ∀ n ∈ s.nodes, x.phase? n.id = some .completed ∧
        ∃ output, x.outputs.get? n.id = some output) : Concluded s x none
  /-- Nodes are left that can never run, and none has failed. -/
  | deadlock {d : Deadlock} (hrun : x.workflow.phase = .failed)
      (hnone : ∀ n ∈ s.nodes, x.phase? n.id ≠ some .failed) : Concluded s x (some (.deadlock d))
  /-- A model node has failed with an excuse. -/
  | node {n : Node} {cause : NodeCause} (hrun : x.workflow.phase = .failed) (hn : n ∈ s.nodes)
      (hllm : n.isLlm = true) (hfailed : x.phase? n.id = some .failed)
      (h : Excuse s x.outputs n cause) :
      Concluded s x (some (.node { node := n.id, cause := some cause }))

/-- **A run that is over is concluded.** -/
theorem concluded_of_leads {s : Setup} (hs : Distinct s.nodes)
    (hvar : ∀ n ∈ s.nodes, n.modelVariable? ≠ some "")
    (hmodels : ∀ n, ∃ models, (s.meets n).models = .ok models) {past : List Snapshot}
    {x : Execution} {fault : Option RunFault}
    (hl : Leads s (Snapshot.initial s) past ⟨x, .ended fault⟩) : Concluded s x fault := by
  have hforeseen := foreseen_of_leads hs hvar hmodels hl
  have hfailed := fun {f : NodeFailure} => (hl.sound hs).failed_of_mem_faults (f := f)
  cases hl.sound hs with
  | completed hrun h hall =>
    refine .completed hrun fun n hn => ?_
    obtain ⟨output, hshow⟩ := h.completed n.id (hall n hn)
    exact ⟨Execution.phase?_of_shows hshow, output, hshow.2⟩
  | deadlocked hrun h hnil hleft => exact .deadlock hrun fun n hn => not_failed_of_layered h hn
  | @failed x k left f faults hrun hk h hu =>
    cases hforeseen f (List.mem_singleton_self f) with
    | deadlock d =>
      obtain ⟨n, -, cause, heq, -⟩ := hu.failed _ List.mem_cons_self
      cases heq
    | node hnode hllm he =>
      exact .node hrun hnode hllm (hfailed (List.mem_singleton_self _)) he

/-! ## 4. Before the start -/

section Models

variable {nodes : List Node} {client : Client}

/-- The node that should name a model is there. -/
theorem exists_neededBy (h : Script.Loaded nodes) {n : Node} (hn : n ∈ nodes) :
    ∃ needed, (Graph.mk nodes).neededBy n = .ok needed := by
  unfold neededBy
  split
  · exact ⟨_, rfl⟩
  · exact ⟨_, rfl⟩
  · rename_i id hkind
    have hvar : n.modelVariable? = some id := by simp [Node.modelVariable?, hkind]
    obtain ⟨target, htarget, rfl⟩ := List.mem_map.1 (h.modelVariable n hn id hvar)
    have hfind : (Graph.mk nodes).find? target.id = some target :=
      find?_of_distinct (g := ⟨nodes⟩) h.distinct htarget
    exact ⟨nicknameIn target.template, by rw [hfind]⟩

theorem exists_neededByAll (h : Script.Loaded nodes) {part : List Node} (hpart : part ⊆ nodes) :
    ∃ needed, (Graph.mk nodes).neededByAll part = .ok needed := by
  induction part with
  | nil => exact ⟨[], rfl⟩
  | cons n rest ih =>
    obtain ⟨needed, hneeded⟩ := exists_neededBy h (hpart List.mem_cons_self)
    obtain ⟨more, hmore⟩ := ih fun k hk => hpart (List.mem_cons_of_mem n hk)
    exact ⟨needed.toList ++ more, by simp only [neededByAll, hneeded, hmore]⟩

/-- **All that can be wrong with the models of a script is that some are not offered.** -/
theorem checkModels_eq_error (h : Script.Loaded nodes) {f : RunFault}
    (hcheck : (Graph.mk nodes).checkModels client = .error f) :
    ∃ m : MissingModels, f = .models m ∧ m.nicknames ≠ [] ∧
      ∀ nickname ∈ m.nicknames, client.offers nickname = false := by
  obtain ⟨needed, hneeded⟩ := exists_neededByAll h (List.Subset.refl nodes)
  simp only [checkModels, hneeded] at hcheck
  split at hcheck
  · cases hcheck
  · rename_i hmissing
    cases hcheck
    refine ⟨_, rfl, fun hnil => hmissing ?_, fun nickname hmem => ?_⟩
    · refine List.isEmpty_iff.2 (List.eq_nil_iff_forall_not_mem.2 fun nickname hmem => ?_)
      have hordered := Text.mem_ordered.2 hmem
      rw [show Text.ordered _ = [] from hnil] at hordered
      exact List.not_mem_nil hordered
    · simpa using (List.mem_filter.1 (Text.mem_ordered.1 hmem)).2

end Models

/-- **A run that is started is cancelled or concluded.** -/
theorem Run.ofScript_concluded {source : String} {nodes : List Node} {client : Client}
    (hload : Script.load source = .ok nodes)
    (hcheck : (Graph.mk nodes).checkModels client = .ok ()) (hne : nodes ≠ []) (config : RunConfig)
    (input : String) (listener : Option Listener) (limit : Option Float) :
    ∃ x, (limit.isSome = true ∧
        Run.ofScript source client config input listener limit = ⟨.cancelled, some x⟩) ∨
      ∃ fault, Concluded { nodes, client, config, input, listener } x fault ∧
        Run.ofScript source client config input listener limit =
          Run.ended { nodes, client, config, input, listener } x fault := by
  have hloaded := Script.loaded_of_load hload
  obtain ⟨past, x, stage, hl, hcancelled | ⟨fault, rfl, hrun⟩⟩ :=
    Run.ofScript_reaches hload hcheck hne config input listener limit
  · exact ⟨x, .inl hcancelled⟩
  · exact ⟨x, .inr ⟨fault, concluded_of_leads hloaded.distinct
      (fun n hn => hloaded.modelVariable?_ne hn) (fun n => ⟨client.models, rfl⟩) hl, hrun⟩⟩

/-- How a run of some nodes may come out, when it is cancelled at a limit if there is one. -/
inductive Closed (s : Setup) (limit : Option Float) : Run → Prop where
  /-- Models are not offered, and nothing was started. -/
  | refused {m : MissingModels} (hsome : m.nicknames ≠ [])
      (hnone : ∀ nickname ∈ m.nicknames, s.client.offers nickname = false) :
      Closed s limit (Run.refused (.models m))
  /-- There are no nodes. -/
  | empty (h : s.nodes = []) : Closed s limit ⟨.completed {}, none⟩
  | ended {x : Execution} {fault : Option RunFault} (h : Concluded s x fault) :
      Closed s limit (Run.ended s x fault)
  | cancelled {x : Execution} (h : limit.isSome = true) : Closed s limit ⟨.cancelled, some x⟩

/-- **A run of a script comes out in one of these ways.** -/
theorem closed_ofScript {source : String} {nodes : List Node}
    (hload : Script.load source = .ok nodes) (client : Client) (config : RunConfig)
    (input : String) (listener : Option Listener) (limit : Option Float) :
    Closed { nodes, client, config, input, listener } limit
      (Run.ofScript source client config input listener limit) := by
  by_cases hne : nodes = []
  · subst hne
    rw [Run.ofScript_of_nil hload]
    exact .empty rfl
  cases hcheck : (Graph.mk nodes).checkModels client with
  | error f =>
    obtain ⟨m, rfl, hsome, hnone⟩ := checkModels_eq_error (Script.loaded_of_load hload) hcheck
    rw [Run.ofScript_of_error hload hcheck hne]
    exact .refused hsome hnone
  | ok =>
    obtain ⟨x, ⟨hlimit, hrun⟩ | ⟨fault, hconcluded, hrun⟩⟩ :=
      Run.ofScript_concluded hload hcheck hne config input listener limit
    · rw [hrun]
      exact .cancelled hlimit
    · rw [hrun]
      exact .ended hconcluded

end PromptChain
