/-
# Models before and during a run

The model of a node is looked up twice, by different rules.  Before the run it is the nickname that
is written in the node, or the text of the static node that names it, unless that is blank or has
placeholders; during the run it is the nickname, or what that node has put out.  A plain text is
its node's output, so where the first look-up gives a nickname the second gives the same one
(`modelOf_of_named`), and where it gives none the second looks among the models offered.

Hence every call is made of a model that is offered (`Agreed.offered`), and a canned client with
just these models finds it (`Agreed.served`).
-/
import PromptChain.Client.Canned
import PromptChain.Proofs.Run.Calls
import PromptChain.Proofs.Run.Failures
import PromptChain.Proofs.Script.Linking
import PromptChain.Proofs.Template.Plain

namespace PromptChain

open PromptChain.Graph PromptChain.Template PromptChain.Text Snapshot

/-! ## 1. Before the run -/

/-- Whether the nickname of a node's model can be told from the nodes: it is written in the node, or
it is the text of the static node that names it, which is plain and not blank. -/
inductive NamesModel (nodes : List Node) (n : Node) : String → Prop where
  | literal {nickname : String} (hkind : n.kind = .llm (.nickname nickname)) :
      NamesModel nodes n nickname
  | output {t : Node} (hkind : n.kind = .llm (.output t.id)) (ht : t ∈ nodes)
      (hstatic : t.isStatic = true) (hblank : trim t.template ≠ "") (hplain : Plain t.template) :
      NamesModel nodes n (trim t.template)

/-- Whether it cannot be told from them: the text of the static node that names it is blank or has
a placeholder. -/
structure NamesLater (nodes : List Node) (n t : Node) : Prop where
  kind : n.kind = .llm (.output t.id)
  mem : t ∈ nodes
  isStatic : t.isStatic = true
  unclear : trim t.template = "" ∨ ¬ Plain t.template

section Before

variable {nodes part : List Node} {client : Client} {n t : Node} {template nickname : String}
  {g : Graph} {needed : List String}

theorem nicknameIn_eq_some_iff : nicknameIn template = some nickname ↔
    trim template = nickname ∧ nickname ≠ "" ∧ Plain template := by
  rw [← plain_trim_iff, ← hasPlaceholder_eq_false_iff]
  simp only [nicknameIn]
  split
  · rename_i h
    refine iff_of_false (by simp) ?_
    rintro ⟨rfl, hne, hplain⟩
    rw [hplain, Bool.or_false, String.isEmpty_iff] at h
    exact hne h
  · rename_i h
    rw [Bool.not_eq_true, Bool.or_eq_false_iff, String.isEmpty_eq_false_iff] at h
    constructor
    · rintro ⟨rfl⟩
      exact ⟨rfl, h⟩
    · rintro ⟨rfl, -⟩
      rfl

theorem nicknameIn_eq_none_iff : nicknameIn template = none ↔
    trim template = "" ∨ ¬ Plain template := by
  rw [Option.eq_none_iff_forall_ne_some]
  constructor
  · intro h
    by_contra hnot
    obtain ⟨hne, hplain⟩ := not_or.1 hnot
    exact h _ (nicknameIn_eq_some_iff.2 ⟨rfl, hne, not_not.1 hplain⟩)
  · rintro hunclear nickname h
    obtain ⟨rfl, hne, hplain⟩ := nicknameIn_eq_some_iff.1 h
    exact hunclear.elim hne fun hnot => hnot hplain

/-- The model of a node that a static one names is looked up in its text. -/
theorem neededBy_of_output (hs : Distinct nodes) (hkind : n.kind = .llm (.output t.id))
    (ht : t ∈ nodes) : (Graph.mk nodes).neededBy n = .ok (nicknameIn t.template) := by
  have hfind : (Graph.mk nodes).find? t.id = some t := find?_of_distinct (g := ⟨nodes⟩) hs ht
  simp only [neededBy, hkind, hfind]

/-- **What can be told from the nodes is looked up before the run.** -/
theorem NamesModel.neededBy (hs : Distinct nodes) (h : NamesModel nodes n nickname) :
    (Graph.mk nodes).neededBy n = .ok (some nickname) := by
  cases h with
  | literal hkind => simp only [Graph.neededBy, hkind]
  | output hkind ht hstatic hblank hplain =>
    rw [neededBy_of_output hs hkind ht, nicknameIn_eq_some_iff.2 ⟨rfl, hblank, hplain⟩]

/-- **What cannot be told is not looked up** before the run. -/
theorem NamesLater.neededBy (hs : Distinct nodes) (h : NamesLater nodes n t) :
    (Graph.mk nodes).neededBy n = .ok none := by
  rw [neededBy_of_output hs h.kind h.mem, nicknameIn_eq_none_iff.2 h.unclear]

theorem NamesModel.exists_source (h : NamesModel nodes n nickname) :
    ∃ source, n.kind = .llm source := by
  cases h with
  | literal hkind => exact ⟨_, hkind⟩
  | output hkind => exact ⟨_, hkind⟩

/-- The nickname of a model node can be told, or it cannot. -/
theorem named_or_later (h : Script.Closed nodes) (hn : n ∈ nodes) (hllm : n.isLlm = true) :
    (∃ nickname, NamesModel nodes n nickname) ∨ ∃ t, NamesLater nodes n t := by
  obtain ⟨source, hkind⟩ := Node.exists_source hllm
  cases source with
  | nickname name => exact .inl ⟨name, .literal hkind⟩
  | output id =>
    obtain ⟨t, ht, hstatic, rfl⟩ := h.output n hn id (Node.modelVariable?_eq_some_iff.2 hkind)
    by_cases hunclear : trim t.template = "" ∨ ¬ Plain t.template
    · exact .inr ⟨t, hkind, ht, hstatic, hunclear⟩
    · obtain ⟨hblank, hplain⟩ := not_or.1 hunclear
      exact .inl ⟨_, .output hkind ht hstatic hblank (not_not.1 hplain)⟩

/-- What some nodes need is what one of them does. -/
theorem mem_neededByAll_iff (hall : g.neededByAll part = .ok needed) :
    nickname ∈ needed ↔ ∃ n ∈ part, g.neededBy n = .ok (some nickname) := by
  induction part generalizing needed with
  | nil =>
    cases hall
    simp
  | cons k rest ih =>
    simp only [neededByAll] at hall
    split at hall
    · cases hall
    · rename_i first hfirst
      split at hall
      · cases hall
      · rename_i more hmore
        cases hall
        rw [List.mem_append, ih hmore, List.exists_mem_cons_iff, hfirst, Option.mem_toList,
          Except.ok.injEq]

/-- **A model that is looked up before the run is offered**, when the check passes. -/
theorem offers_of_checkModels (hcheck : g.checkModels client = .ok ()) (hn : n ∈ g.nodes)
    (hneeded : g.neededBy n = .ok (some nickname)) : client.offers nickname = true := by
  simp only [checkModels] at hcheck
  split at hcheck
  · cases hcheck
  · rename_i needed hall
    split at hcheck
    · rename_i hmissing
      have hnone := List.filter_eq_nil_iff.1 (List.isEmpty_iff.1 hmissing) nickname
        ((mem_neededByAll_iff hall).2 ⟨n, hn, hneeded⟩)
      simpa using hnone
    · cases hcheck

end Before

/-! ## 2. During the run -/

/-- Whether the models of a run are checked before it: its nodes form a closed whole that passes the
check, and they meet the models that it was made with. -/
structure ModelsChecked (s : Setup) (client : Client) : Prop where
  closed : Script.Closed s.nodes
  nonempty : ∀ n ∈ s.nodes, n.modelVariable? ≠ some ""
  passes : s.graph.checkModels client = .ok ()
  models : ∀ n, (s.meets n).models = .ok client.models

section During

variable {s : Setup} {m : Snapshot} {past : List Snapshot} {client : Client} {n t : Node}
  {nickname : String} {c : Call}

/-- **The output of a plain static node is its text.** -/
theorem output_of_plain (hs : Distinct s.nodes)
    (hvar : ∀ n ∈ s.nodes, n.modelVariable? ≠ some "") (hl : Leads s (Snapshot.initial s) past m)
    (ht : t ∈ s.nodes) (hstatic : t.isStatic = true) (hplain : Plain t.template)
    (hdone : m.execution.phase? t.id = some .completed) :
    m.execution.outputs.get? t.id = some t.template := by
  obtain ⟨k, hlayered, -⟩ := (hl.sound hs).layered
  obtain ⟨output, hshow⟩ := (Execution.phase?_eq_completed_iff hlayered.tidy).1 hdone
  obtain ⟨t', ht', hid, o, -, hresult⟩ :=
    ((hl.faithful hs hvar).yields _ _ hshow).exists_node
  obtain rfl := hs.eq_of_id_eq ht' ht hid
  cases hkind : t'.kind with
  | llm source => simp [Node.isStatic, hkind] at hstatic
  | static =>
    simp only [Setup.resultFor, hkind, Context.staticText, Context.resolve_of_plain hplain]
      at hresult
    cases hresult
    exact hshow.2

/-- A nickname that can be told is offered. -/
theorem ModelsChecked.offers (hk : ModelsChecked s client) (hn : n ∈ s.nodes)
    (h : NamesModel s.nodes n nickname) : client.offers nickname = true :=
  offers_of_checkModels hk.passes hn (h.neededBy hk.closed.distinct)

/-- **What is looked up during the run is what was looked up before it**, from the moment when the
node begins. -/
theorem modelOf_of_named (hk : ModelsChecked s client) (hl : Leads s (Snapshot.initial s) past m)
    (hn : n ∈ s.nodes) (h : NamesModel s.nodes n nickname)
    (hleft : m.execution.phase? n.id ≠ some .pending) {source : ModelSource}
    (hkind : n.kind = .llm source) :
    Context.modelOf ⟨m.execution.outputs, s.input⟩ (s.meets n) source = .ok nickname := by
  have hs := hk.closed.distinct
  have hoffers := hk.offers hn h
  cases h with
  | literal hliteral =>
    obtain rfl := Node.source_eq hkind hliteral
    rfl
  | @output t houtput ht hstatic hblank hplain =>
    obtain rfl := Node.source_eq hkind houtput
    have hdone := (hl.sound hs).dependencies_completed hs hn hleft
      (Node.mem_dependencies_of_output hkind (hk.nonempty n hn))
    have hget := output_of_plain hs hk.nonempty hl ht hstatic hplain hdone
    have hany : (client.models.any fun model => model.answersTo (trim t.template)) = true := hoffers
    simp only [Context.modelOf, hget, String.isEmpty_iff, hblank, if_false, hk.models n, hany,
      if_true]

/-- A nickname that is read from an output is that of a model that is offered then. -/
theorem modelOf_output_eq_ok {o : Store String} {id : String} {models : List Model}
    (hmodels : (s.meets n).models = .ok models)
    (h : Context.modelOf ⟨o, s.input⟩ (s.meets n) (.output id) = .ok nickname) :
    ∃ value, o.get? id = some value ∧ trim value = nickname ∧ nickname ≠ "" ∧
      (models.any fun model => model.answersTo nickname) = true := by
  simp only [Context.modelOf, hmodels] at h
  split at h
  · cases h
  · rename_i value hvalue
    split at h
    · cases h
    · rename_i hempty
      split at h
      · rename_i hany
        cases h
        exact ⟨value, hvalue, rfl, fun hblank => hempty (String.isEmpty_iff.2 hblank), hany⟩
      · cases h

/-- A node with an excuse that is about its model has no nickname for it. -/
theorem Excuse.modelOf_ne_ok {o : Store String} {e : ModelFault} (h : Excuse s o n (.model e))
    {source : ModelSource} (hkind : n.kind = .llm source) :
    Context.modelOf ⟨o, s.input⟩ (s.meets n) source ≠ .ok nickname := by
  intro hok
  cases h with
  | blank houtput hvalue hblank =>
    obtain rfl := Node.source_eq hkind houtput
    simp [Context.modelOf, hvalue, hblank] at hok
  | notOffered houtput hvalue hmodels hnone =>
    obtain rfl := Node.source_eq hkind houtput
    obtain ⟨value, hvalue', rfl, -, hany⟩ := modelOf_output_eq_ok hmodels hok
    obtain rfl := Option.some.inj (hvalue'.symm.trans hvalue)
    obtain ⟨model, hmodel, hanswers⟩ := List.any_eq_true.1 hany
    rw [hnone model hmodel] at hanswers
    cases hanswers

/-! ## 3. The calls of a run -/

/-- A node that stops a run is one with an excuse. -/
theorem Foreseen.exists_excuse {s : Setup} {o : Store String} {failure : NodeFailure}
    {cause : NodeCause} (h : Foreseen s o (.node failure)) (hcause : failure.cause = some cause) :
    ∃ n ∈ s.nodes, n.id = failure.node ∧ Excuse s o n cause := by
  cases h with
  | node hn hllm he =>
    cases hcause
    exact ⟨_, hn, rfl, he⟩

/-- A node with a nickname that can be told does not fail for its model. -/
theorem not_modelFault_of_named (hk : ModelsChecked s client)
    (hl : Leads s (Snapshot.initial s) past m) (hn : n ∈ s.nodes)
    (h : NamesModel s.nodes n nickname) (e : ModelFault) (remark : String) :
    RunFault.node ⟨n.id, some (.model e), remark⟩ ∉ m.stage.faults := by
  intro hmem
  have hs := hk.closed.distinct
  obtain ⟨n', hn', hid, he⟩ :=
    (foreseen_of_leads hs hk.nonempty (fun n => ⟨_, hk.models n⟩) hl _ hmem).exists_excuse rfl
  obtain rfl := hs.eq_of_id_eq hn' hn hid
  have hfailed : m.execution.phase? n'.id = some .failed := (hl.sound hs).failed_of_mem_faults hmem
  obtain ⟨source, hkind⟩ := h.exists_source
  exact he.modelOf_ne_ok hkind (modelOf_of_named hk hl hn h (by simp [hfailed]) hkind)

/-- **A node is called with the nickname that it finds**, once it has begun. -/
theorem modelOf_of_mem_calls (hk : ModelsChecked s client)
    (hl : Leads s (Snapshot.initial s) past m) (hn : n ∈ s.nodes)
    (hc : (n.id, c) ∈ m.execution.calls) :
    m.execution.phase? n.id ≠ some .pending ∧ ∃ source, n.kind = .llm source ∧
      Context.modelOf ⟨m.execution.outputs, s.input⟩ (s.meets n) source =
        .ok c.request.nickname := by
  have hs := hk.closed.distinct
  have hbooked := hl.booked hs hk.nonempty
  obtain ⟨source, hkind, hrequest⟩ := hbooked.right n hn c hc
  exact ⟨hbooked.left (hl.sound hs) hc, source, hkind, (Setup.requestFor_eq_ok_iff.1 hrequest).1⟩

theorem called_with_named (hk : ModelsChecked s client) (hl : Leads s (Snapshot.initial s) past m)
    (hn : n ∈ s.nodes) (h : NamesModel s.nodes n nickname)
    (hc : (n.id, c) ∈ m.execution.calls) : c.request.nickname = nickname := by
  obtain ⟨hleft, source, hkind, hok⟩ := modelOf_of_mem_calls hk hl hn hc
  exact Except.ok.inj (hok.symm.trans (modelOf_of_named hk hl hn h hleft hkind))

theorem called_with_later (hk : ModelsChecked s client) (hl : Leads s (Snapshot.initial s) past m)
    (hn : n ∈ s.nodes) (h : NamesLater s.nodes n t) (hc : (n.id, c) ∈ m.execution.calls) :
    ∃ value, m.execution.outputs.get? t.id = some value ∧ c.request.nickname = trim value ∧
      trim value ≠ "" ∧ client.offers (trim value) = true := by
  obtain ⟨-, source, hkind, hok⟩ := modelOf_of_mem_calls hk hl hn hc
  obtain rfl := Node.source_eq hkind h.kind
  obtain ⟨value, hvalue, heq, hne, hany⟩ := modelOf_output_eq_ok (hk.models n) hok
  exact ⟨value, hvalue, heq.symm, heq ▸ hne, heq ▸ hany⟩

/-- Every call is that of a node whose nickname can be told, or of one whose nickname cannot. -/
theorem exists_caller (hk : ModelsChecked s client) (hl : Leads s (Snapshot.initial s) past m)
    {call : String × Call} (hcall : call ∈ m.execution.calls) :
    ∃ n ∈ s.nodes, n.id = call.1 ∧
      ((∃ nickname, NamesModel s.nodes n nickname) ∨ ∃ t, NamesLater s.nodes n t) := by
  obtain ⟨id, c⟩ := call
  obtain ⟨-, n, hn, rfl⟩ := (hl.booked hk.closed.distinct hk.nonempty).owner id c hcall
  obtain ⟨-, source, hkind, -⟩ := modelOf_of_mem_calls hk hl hn hcall
  have hllm : n.isLlm = true := by simp [Node.isLlm, Node.isStatic, hkind]
  exact ⟨n, hn, rfl, named_or_later hk.closed hn hllm⟩

/-- **Every call is of a model that is offered.** -/
theorem offers_of_mem_calls (hk : ModelsChecked s client)
    (hl : Leads s (Snapshot.initial s) past m) {call : String × Call}
    (hcall : call ∈ m.execution.calls) : client.offers call.2.request.nickname = true := by
  obtain ⟨n, hn, hid, hsort⟩ := exists_caller hk hl hcall
  have hc : (n.id, call.2) ∈ m.execution.calls := hid ▸ hcall
  rcases hsort with ⟨nickname, h⟩ | ⟨t, h⟩
  · rw [called_with_named hk hl hn h hc]
    exact hk.offers hn h
  · obtain ⟨value, -, heq, -, hoffered⟩ := called_with_later hk hl hn h hc
    rwa [heq]

end During

/-! ## 4. Agreement -/

/-- **Whether the models of a run are those that were looked up before it**, as far as they could
be, and are offered. -/
structure Agreed (s : Setup) (client : Client) (x : Execution) (faults : List RunFault) : Prop where
  /-- A nickname that can be told is looked up before the run and offered; from the moment when its
  node begins it is what the node finds, and the node is called with it. -/
  named : ∀ n ∈ s.nodes, ∀ nickname, NamesModel s.nodes n nickname →
    s.graph.neededBy n = .ok (some nickname) ∧ client.offers nickname = true ∧
    (∀ source, n.kind = .llm source → x.phase? n.id ≠ some .pending →
      Context.modelOf ⟨x.outputs, s.input⟩ (s.meets n) source = .ok nickname) ∧
    ∀ c, (n.id, c) ∈ x.calls → c.request.nickname = nickname
  /-- Its node does not fail for its model. -/
  unfailing : ∀ n ∈ s.nodes, (∃ nickname, NamesModel s.nodes n nickname) → ∀ e remark,
    RunFault.node ⟨n.id, some (.model e), remark⟩ ∉ faults
  /-- One that cannot be told is not looked up before the run; its node is called with what is
  stored for it, without blanks around it, if that is offered. -/
  later : ∀ n ∈ s.nodes, ∀ t, NamesLater s.nodes n t → s.graph.neededBy n = .ok none ∧
    ∀ c, (n.id, c) ∈ x.calls → ∃ value, x.outputs.get? t.id = some value ∧
      c.request.nickname = trim value ∧ trim value ≠ "" ∧ client.offers (trim value) = true
  /-- Every call is that of a node of one of these sorts. -/
  owned : ∀ call ∈ x.calls, ∃ n ∈ s.nodes, n.id = call.1 ∧
    ((∃ nickname, NamesModel s.nodes n nickname) ∨ ∃ t, NamesLater s.nodes n t)
  /-- A call's nickname is that of a model that is offered, but for case. -/
  offered : ∀ call ∈ x.calls, ∃ model ∈ client.models,
    lower model.nickname = lower call.2.request.nickname
  /-- A canned client that has the models that are offered finds the model of every call. -/
  served : ∀ canned : CannedClient, canned.models = client.models → ∀ call ∈ x.calls,
    ∃ model, canned.model? call.2.request.nickname = some model ∧ canned.answer call.2.request =
      CannedClient.replyText model.nickname call.2.request (canned.reply? model.nickname)

theorem Client.offers_iff {client : Client} {nickname : String} : client.offers nickname = true ↔
    ∃ model ∈ client.models, lower model.nickname = lower nickname := by
  simp [Client.offers, Model.answersTo, sameLower_iff]

/-- A canned client answers a request for a model that it has. -/
theorem CannedClient.answer_of_offers {canned : CannedClient} {r : Request} {model : Model}
    (hmodel : model ∈ canned.models) (hlower : lower model.nickname = lower r.nickname) :
    ∃ model, canned.model? r.nickname = some model ∧
      canned.answer r = replyText model.nickname r (canned.reply? model.nickname) := by
  have hfound : (canned.model? r.nickname).isSome = true :=
    List.find?_isSome.2 ⟨model, hmodel, sameLower_iff.2 hlower⟩
  obtain ⟨found, hfound⟩ := Option.isSome_iff_exists.1 hfound
  exact ⟨found, hfound, by simp only [answer, hfound]⟩

/-- **At every point of every course the models are those that were looked up.** -/
theorem agreed_of_leads {s : Setup} {m : Snapshot} {past : List Snapshot} {client : Client}
    (hk : ModelsChecked s client) (hl : Leads s (Snapshot.initial s) past m) :
    Agreed s client m.execution m.stage.faults where
  named n hn nickname h :=
    ⟨h.neededBy hk.closed.distinct, hk.offers hn h,
      fun source hkind hleft => modelOf_of_named hk hl hn h hleft hkind,
      fun c hc => called_with_named hk hl hn h hc⟩
  unfailing n hn := by
    rintro ⟨nickname, h⟩ e remark
    exact not_modelFault_of_named hk hl hn h e remark
  later n hn t h :=
    ⟨h.neededBy hk.closed.distinct, fun c hc => called_with_later hk hl hn h hc⟩
  owned call hcall := exists_caller hk hl hcall
  offered call hcall := Client.offers_iff.1 (offers_of_mem_calls hk hl hcall)
  served canned hcanned call hcall := by
    obtain ⟨model, hmodel, hlower⟩ := Client.offers_iff.1 (offers_of_mem_calls hk hl hcall)
    exact CannedClient.answer_of_offers (hcanned ▸ hmodel) hlower

/-- **The models of a script are looked up alike before its run and during it.**  When the check
before the run passes, a node whose model can be told from the nodes finds just the model that was
checked, and does not fail for it; any other is called with an offered model only.  So every call is
of a model that is offered, and a canned client that has these models has it.  This holds at every
point of every course of the nodes, whatever else the nodes meet at the client, and of what a run of
the script holds when it is over or cancelled. -/
theorem models_looked_up_alike {source : String} {nodes : List Node} {client : Client}
    (hload : Script.load source = .ok nodes)
    (hcheck : (Graph.mk nodes).checkModels client = .ok ()) :
    (∀ s : Setup, s.nodes = nodes → (∀ n, (s.meets n).models = .ok client.models) →
      ∀ {past : List Snapshot} {m : Snapshot}, Leads s (Snapshot.initial s) past m →
        Agreed s client m.execution m.stage.faults) ∧
    ∀ config input listener limit,
      let run := Run.ofScript source client config input listener limit
      nodes = [] ∨ ∃ x, run.execution = some x ∧
        Agreed { nodes, client, config, input, listener } client x run.outcome.fault?.toList := by
  have hloaded := Script.loaded_of_load hload
  have hclosed := Script.closed_of_load hload
  have hcourse : ∀ s : Setup, s.nodes = nodes → (∀ n, (s.meets n).models = .ok client.models) →
      ∀ {past : List Snapshot} {m : Snapshot}, Leads s (Snapshot.initial s) past m →
        Agreed s client m.execution m.stage.faults := by
    rintro s rfl hmodels past m hl
    exact agreed_of_leads ⟨hclosed, fun n hn => hloaded.modelVariable?_ne hn, hcheck, hmodels⟩ hl
  refine ⟨hcourse, fun config input listener limit => ?_⟩
  intro run
  by_cases hne : nodes = []
  · exact .inl hne
  obtain ⟨past, x, stage, hl, hrun⟩ :=
    Run.ofScript_reaches hload hcheck hne config input listener limit
  have hagreed := hcourse _ rfl (fun _ => rfl) hl
  rcases hrun with ⟨-, hrun⟩ | ⟨fault, rfl, hrun⟩
  · have hnone : run.outcome.fault? = none := by
      simp only [run, hrun]
      rfl
    refine .inr ⟨x, by simp only [run, hrun], ?_⟩
    rw [hnone]
    exact { hagreed with unfailing := fun n hn h e remark hmem => absurd hmem List.not_mem_nil }
  · have hfault : run.execution = some x ∧ run.outcome.fault? = fault := by
      cases fault <;> simp [run, hrun, Run.ended, Outcome.fault?]
    refine .inr ⟨x, hfault.1, ?_⟩
    rw [hfault.2]
    exact hagreed

/-- A script with a model that is told in another case, one that is the input, and one that is
written in the node. -/
def spellingScript : String :=
  "#fast = Flash\n" ++
  "#pick = \x7b\x7bINPUT\x7d\x7d\n" ++
  "#one fast: first\n" ++
  "#two pick: second\n" ++
  "PRO: third"

/-- The nodes of that script. -/
def spellingNodes : List Node := [
  { id := "fast", kind := .static, template := "Flash" },
  { id := "pick", kind := .static, template := "\x7b\x7bINPUT\x7d\x7d", line := 2 },
  { id := "one", kind := .llm (.output "fast"), template := "first", line := 3 },
  { id := "two", kind := .llm (.output "pick"), template := "second", line := 4 },
  { id := "node_5", kind := .llm (.nickname "PRO"), template := "third", line := 5 }]

/-- A run of them with a canned client that has two models. -/
def spelling : Setup where
  nodes := spellingNodes
  client := CannedClient.toClient { models := [{ nickname := "flash" }, { nickname := "Pro" }] }
  config := {}
  input := " pro "
  listener := none

/-- Each is called with the model that is meant. -/
theorem models_looked_up_alike_spelling :
    ∃ x, (Run.ofScript spellingScript spelling.client {} " pro " none).execution = some x ∧
      x.calls.map (fun call => (call.1, call.2.request.nickname)) =
        [("node_5", "PRO"), ("one", "Flash"), ("two", "pro")] ∧
      Agreed spelling spelling.client x [] := by
  have hload : Script.load spellingScript = .ok spellingNodes :=
    Script.eq_ok_of_toOption (by decide +kernel)
  have hcheck : (Graph.mk spellingNodes).checkModels spelling.client = .ok () :=
    Script.eq_ok_of_toOption (by decide +kernel)
  have hcalls : (Run.ofScript spellingScript spelling.client {} " pro " none).execution.map
      (fun x => x.calls.map fun call => (call.1, call.2.request.nickname)) =
      some [("node_5", "PRO"), ("one", "Flash"), ("two", "pro")] := by decide +kernel
  have hfault : (Run.ofScript spellingScript spelling.client {} " pro " none).outcome.fault? =
      none := by decide +kernel
  obtain hnil | ⟨x, hx, hagreed⟩ :=
    (models_looked_up_alike hload hcheck).2 {} " pro " none none
  · cases hnil
  · rw [hx] at hcalls
    rw [hfault] at hagreed
    exact ⟨x, hx, Option.some.inj hcalls, hagreed⟩

end PromptChain
