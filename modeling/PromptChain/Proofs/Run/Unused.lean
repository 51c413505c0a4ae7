/-
# Outputs that go nowhere

An output is of use when the result or another node depends on it.  What comes of a node depends on
the outputs that its text refers to and on the one that names its model; the outputs of the nodes
nested beneath it count when it calls a model, while a static node only waits for these
(`consumes_iff`).  The result depends on the outputs of the model nodes without indent
(`reachesResult_iff`).

The graph warns of a node when no node waits for it and it is not part of the result.  A node that
is waited for need not be of use, though: it may be nested beneath a static node, or refer to
itself.  So the graph warns of the nodes whose outputs go nowhere, but for these two sorts.
-/
import PromptChain.Proofs.Graph.Soundness
import PromptChain.Proofs.Run.Values
import PromptChain.Proofs.Template.Composing
import PromptChain.Run.Basic

namespace PromptChain

open PromptChain.Graph PromptChain.Script PromptChain.Template PromptChain.Text

/-! ## 1. Outputs that are of use -/

/-- Whether what comes of a node depends on the output of an id, for some client and input, when
outputs are stored for all nodes. -/
def Consumes (nodes : List Node) (n : Node) (id : String) : Prop :=
  ∃ s : Setup, s.nodes = nodes ∧ ∃ o : Store String, (∀ d ∈ idsOf nodes, d ∈ o.ids) ∧
    ∃ output, s.resultFor (o.put id output) n ≠ s.resultFor o n

/-- Whether the result depends on the output of an id, when outputs are stored for all nodes. -/
def ReachesResult (nodes : List Node) (id : String) : Prop :=
  ∃ x : Execution, (∀ d ∈ idsOf nodes, d ∈ x.outputs.ids) ∧
    ∃ output, { x with outputs := x.outputs.put id output }.result nodes ≠ x.result nodes

/-- The same output for all nodes. -/
def sameOutputs (nodes : List Node) (output : String) : Store String :=
  ⟨(idsOf nodes).map fun id => (id, output)⟩

/-- A run with a client that offers one model and repeats the prompts it is given. -/
def echo (nodes : List Node) : Setup where
  nodes := nodes
  client :=
    { models := [{ nickname := "m" }], transcript := .ok none, answer := fun r => .ok r.prompt,
      latency := fun _ => 0.0 }
  config := {}
  input := ""
  listener := none

section Outputs

variable {nodes : List Node} {id output : String}

theorem get?_sameOutputs (hid : id ∈ idsOf nodes) :
    (sameOutputs nodes output).get? id = some output := Store.get?_map hid

theorem mem_ids_sameOutputs (hid : id ∈ idsOf nodes) : id ∈ (sameOutputs nodes output).ids :=
  Store.mem_ids_iff.2 ⟨output, get?_sameOutputs hid⟩

/-- A text that is longer than another. -/
theorem exists_longer (s : String) : ∃ t : String, ¬ t.toList <:+: s.toList := by
  refine ⟨String.ofList (s.toList ++ ['x']), fun h => ?_⟩
  have hle := h.length_le
  rw [String.toList_ofList, List.length_append] at hle
  exact Nat.not_succ_le_self _ hle

end Outputs

/-! ## 2. What a node consumes -/

section Consumes

variable {source : String} {nodes : List Node} {n : Node} {id : String} {o : Store String}

theorem resultFor_echo_static {text : String} (hkind : n.kind = .static)
    (htext : Context.staticText ⟨o, ""⟩ n = .ok text) :
    (echo nodes).resultFor o n = .ok text := by
  simp only [Setup.resultFor, hkind, show (echo nodes).input = "" from rfl, htext, Except.mapError]

/-- A model node puts out its prompt. -/
theorem resultFor_echo_llm {naming : ModelSource} {model prompt : String}
    (hkind : n.kind = .llm naming)
    (hmodel : Context.modelOf ⟨o, ""⟩ ((echo nodes).meets n) naming = .ok model)
    (hprompt : Context.prompt ⟨o, ""⟩ n = .ok prompt) :
    (echo nodes).resultFor o n = .ok prompt := by
  have hmessages : ((echo nodes).meets n).messages n.flags prompt = .ok [⟨userSender, prompt⟩] := by
    simp only [Encounter.messages]
    split <;> rfl
  simp only [Setup.resultFor, hkind, Setup.requestFor, show (echo nodes).input = "" from rfl,
    hmodel, hprompt, hmessages, Except.mapError, bind, Except.bind, pure, Except.pure]
  rfl

theorem modelOf_echo {d : String} (h : o.get? d = some "m") :
    Context.modelOf ⟨o, ""⟩ ((echo nodes).meets n) (.output d) = .ok "m" := by
  have htrim : trim "m" = "m" := by decide +kernel
  have hmodels : ((echo nodes).meets n).models = .ok [{ nickname := "m" }] := rfl
  have hany : ([{ nickname := "m" }].any fun model : Model => model.answersTo "m") = true := by
    decide +kernel
  simp only [Context.modelOf, h, htrim, hmodels, hany, if_true]
  rfl

/-- **What a client that repeats prompts makes of a node** holds the outputs that come into the
node's text or prompt. -/
theorem exists_resultFor_echo (hload : load source = .ok nodes) (hn : n ∈ nodes)
    (hstored : ∀ d ∈ idsOf nodes, d ∈ o.ids)
    (hmodel : ∀ d, n.modelVariable? = some d → o.get? d = some "m") :
    ∃ text, (echo nodes).resultFor o n = .ok text ∧
      ∀ d, d ∈ n.references ∨ (n.isLlm = true ∧ d ∈ n.children) →
        ∃ output, o.get? d = some output ∧ output.toList <:+: text.toList := by
  obtain ⟨value, hget⟩ : ∃ value : String → String,
      ∀ d ∈ n.dependencies, o.get? d = some (value d) :=
    ⟨fun d => (o.get? d).getD "", fun d hd =>
      Store.get?_eq_some_getD (hstored d ((loaded_of_load hload).dependencies hn hd)) ""⟩
  have hreferences := fun d hd => hget d (Node.mem_dependencies_of_mem_references hd)
  have hchildren := fun d hd => hget d (Node.mem_dependencies_of_mem_children hd)
  cases hkind : n.kind with
  | static =>
    have htext := Context.staticText_eq_substituted (c := ⟨o, ""⟩) hget
    refine ⟨_, resultFor_echo_static hkind htext, ?_⟩
    rintro d (hd | ⟨hllm, -⟩)
    · obtain ⟨hknown, hstands⟩ := (mem_references_iff hload hn).1 hd
      exact ⟨value d, hreferences d hd,
        Context.infix_substituted (isName_of_load hload hknown) hd hstands _ _⟩
    · simp [Node.isLlm, Node.isStatic, hkind] at hllm
  | llm naming =>
    obtain ⟨model, hfound⟩ : ∃ model,
        Context.modelOf ⟨o, ""⟩ ((echo nodes).meets n) naming = .ok model := by
      cases naming with
      | nickname name => exact ⟨name, rfl⟩
      | output d => exact ⟨"m", modelOf_echo (hmodel d (Node.modelVariable?_eq_some_iff.2 hkind))⟩
    have hprompt := Context.prompt_of_stored (c := ⟨o, ""⟩) hchildren hreferences
    refine ⟨_, resultFor_echo_llm hkind hfound hprompt, fun d hd => ?_⟩
    have hin : d ∈ n.children ∨ d ∈ n.references := hd.symm.imp_left And.right
    exact ⟨value d, hin.elim (hchildren d) (hreferences d), infix_prompt hload hn hin _ _⟩

/-- A node consumes the output that names its model. -/
theorem Consumes.of_modelVariable (hload : load source = .ok nodes) (hn : n ∈ nodes)
    (hid : n.modelVariable? = some id) : Consumes nodes n id := by
  refine ⟨echo nodes, rfl, sameOutputs nodes "m", fun d hd => mem_ids_sameOutputs hd, "", ?_⟩
  obtain ⟨text, hresult, -⟩ := exists_resultFor_echo (o := sameOutputs nodes "m") hload hn
    (fun d hd => mem_ids_sameOutputs hd)
    fun d hd => get?_sameOutputs ((loaded_of_load hload).modelVariable n hn d hd)
  -- without a model there is no prompt to repeat
  have hkind := Node.modelVariable?_eq_some_iff.1 hid
  have hblank : (echo nodes).resultFor ((sameOutputs nodes "m").put id "") n =
      .error (.model (.blank id)) := by
    have htrim : (trim "").isEmpty = true := by decide +kernel
    simp only [Setup.resultFor, hkind, Setup.requestFor, Context.modelOf, Store.get?_put_self,
      htrim, if_true]
    rfl
  rw [hresult, hblank]
  intro hsame
  cases hsame

/-- A node consumes the outputs that come into its text or prompt. -/
theorem Consumes.of_text (hload : load source = .ok nodes) (hn : n ∈ nodes)
    (hvar : n.modelVariable? ≠ some id)
    (hin : id ∈ n.references ∨ (n.isLlm = true ∧ id ∈ n.children)) : Consumes nodes n id := by
  have hmodel : ∀ d, n.modelVariable? = some d → (sameOutputs nodes "m").get? d = some "m" :=
    fun d hd => get?_sameOutputs ((loaded_of_load hload).modelVariable n hn d hd)
  obtain ⟨text, hresult, -⟩ := exists_resultFor_echo (o := sameOutputs nodes "m") hload hn
    (fun d hd => mem_ids_sameOutputs hd) hmodel
  -- an output that is longer than the text makes another text
  obtain ⟨long, hlong⟩ := exists_longer text
  refine ⟨echo nodes, rfl, sameOutputs nodes "m", fun d hd => mem_ids_sameOutputs hd, long, ?_⟩
  have hmodel' : ∀ d, n.modelVariable? = some d →
      ((sameOutputs nodes "m").put id long).get? d = some "m" := fun d hd =>
    (Store.get?_put_ne _ _ fun heq : d = id => hvar (heq ▸ hd)).trans (hmodel d hd)
  obtain ⟨text', hresult', hholds⟩ :=
    exists_resultFor_echo (o := (sameOutputs nodes "m").put id long) hload hn
      (fun d hd => Store.mem_ids_put (mem_ids_sameOutputs hd) id long) hmodel'
  obtain ⟨output, hget, hinfix⟩ := hholds id hin
  obtain rfl : long = output := by simpa using hget
  rw [hresult, hresult']
  intro hsame
  exact hlong (Except.ok.inj hsame ▸ hinfix)

/-- **A node consumes what its text refers to, what names its model, and, when it calls one, what is
nested beneath it.** -/
theorem consumes_iff (hload : load source = .ok nodes) (hn : n ∈ nodes) : Consumes nodes n id ↔
    id ∈ n.references ∨ n.modelVariable? = some id ∨ (n.isLlm = true ∧ id ∈ n.children) := by
  constructor
  · rintro ⟨s, -, o, -, output, hdiffers⟩
    by_contra hnone
    simp only [not_or, not_and] at hnone
    obtain ⟨href, hvar, hchild⟩ := hnone
    refine hdiffers ?_
    cases hkind : n.kind with
    | static =>
      have htext : Context.staticText ⟨o.put id output, s.input⟩ n =
          Context.staticText ⟨o, s.input⟩ n :=
        Context.resolve_storing (c := ⟨o, s.input⟩) href output n.template
      simp only [Setup.resultFor, hkind, htext]
    | llm naming =>
      have hllm : n.isLlm = true := by simp [Node.isLlm, Node.isStatic, hkind]
      refine Setup.resultFor_congr (Setup.Alike.refl s)
        ((loaded_of_load hload).modelVariable?_ne hn) fun d hd => Store.get?_put_ne _ _ ?_
      rintro rfl
      rcases Node.mem_dependencies.1 hd with hd | hd | ⟨hd, -⟩
      · exact hchild hllm hd
      · exact href hd
      · exact hvar hd
  · intro hin
    by_cases hvar : n.modelVariable? = some id
    · exact .of_modelVariable hload hn hvar
    · refine .of_text hload hn hvar ?_
      rcases hin with href | hid | hchild
      · exact .inl href
      · exact absurd hid hvar
      · exact .inr hchild

end Consumes

/-! ## 3. What reaches the result -/

/-- **The output of a node reaches the result exactly when the node calls a model and has no
indent.** -/
theorem reachesResult_iff {nodes : List Node} {n : Node} (hs : Distinct nodes) (hn : n ∈ nodes) :
    ReachesResult nodes n.id ↔ inResult n = true := by
  constructor
  · rintro ⟨x, -, output, hdiffers⟩
    by_contra hnot
    refine hdiffers (congrArg (joined "\n\n") (List.filterMap_congr fun m hm => ?_))
    obtain ⟨hmem, hin⟩ := List.mem_filter.1 hm
    refine Store.get?_put_ne _ _ fun heq => hnot ?_
    rwa [← hs.eq_of_id_eq hmem hn heq]
  · intro hin
    let x : Execution := { Execution.initial nodes with outputs := sameOutputs nodes "" }
    obtain ⟨long, hlong⟩ := exists_longer (x.result nodes)
    refine ⟨x, fun d hd => mem_ids_sameOutputs hd, long, fun hsame => hlong (hsame ▸ ?_)⟩
    refine infix_joined (List.mem_filterMap.2 ⟨n, List.mem_filter.2 ⟨hn, hin⟩, ?_⟩)
    exact Store.get?_put_self _ _ _

/-! ## 4. Warnings -/

/-- **Whether the output of a node goes nowhere**: it is no part of the result, no other node refers
to it or takes its model from it, and no model node has the node nested beneath it. -/
structure GoesNowhere (nodes : List Node) (n : Node) : Prop where
  result : ¬ (n.isLlm = true ∧ n.indent = 0)
  references : ∀ m ∈ nodes, m.id ≠ n.id → n.id ∉ m.references
  models : ∀ m ∈ nodes, m.id ≠ n.id → m.modelVariable? ≠ some n.id
  children : ∀ m ∈ nodes, m.isLlm = true → n.id ∉ m.children

section Warnings

variable {source : String} {nodes : List Node} {n : Node}

theorem inResult_iff : inResult n = true ↔ n.isLlm = true ∧ n.indent = 0 := by
  simp [inResult]

/-- **An output goes nowhere exactly when neither the result nor another node depends on it.** -/
theorem goesNowhere_iff (hload : load source = .ok nodes) (hn : n ∈ nodes) :
    GoesNowhere nodes n ↔
      ¬ ReachesResult nodes n.id ∧ ∀ m ∈ nodes, m.id ≠ n.id → ¬ Consumes nodes m n.id := by
  have hs := (closed_of_load hload).distinct
  rw [reachesResult_iff hs hn, inResult_iff]
  constructor
  · refine fun h => ⟨h.result, fun m hm hne hconsumes => ?_⟩
    rcases (consumes_iff hload hm).1 hconsumes with href | hvar | ⟨hllm, hchild⟩
    · exact h.references m hm hne href
    · exact h.models m hm hne hvar
    · exact h.children m hm hllm hchild
  · rintro ⟨hresult, hnone⟩
    refine ⟨hresult, fun m hm hne href => hnone m hm hne ((consumes_iff hload hm).2 (.inl href)),
      fun m hm hne hvar => hnone m hm hne ((consumes_iff hload hm).2 (.inr (.inl hvar))),
      fun m hm hllm hchild => ?_⟩
    refine hnone m hm (fun heq => ?_) ((consumes_iff hload hm).2 (.inr (.inr ⟨hllm, hchild⟩)))
    exact not_mem_own_children hload hm (heq ▸ hchild)

/-- The graph warns of the nodes that are no part of the result and that no node waits for. -/
theorem Graph.mem_warnings_unusedOutput_iff (hs : Distinct nodes) (hn : n ∈ nodes) :
    .unusedOutput n.id ∈ (Graph.mk nodes).report.warnings ↔
      ¬ (n.isLlm = true ∧ n.indent = 0) ∧ ∀ m ∈ nodes, n.id ∉ m.dependencies := by
  have hunknown : .unusedOutput n.id ∉ (Graph.mk nodes).unknownReferences := by
    intro hmem
    obtain ⟨m, -, hmem⟩ := List.mem_flatMap.1 hmem
    obtain ⟨id, -, heq⟩ := List.mem_map.1 hmem
    cases heq
  have hdependents : (Graph.mk nodes).dependents n.id = [] ↔
      ∀ m ∈ nodes, n.id ∉ m.dependencies := by
    rw [List.eq_nil_iff_forall_not_mem]
    constructor
    · exact fun h m hm hd => h m.id (mem_dependents.2 ⟨m, hm, rfl, hd, knows_iff.2 ⟨n, hn, rfl⟩⟩)
    · rintro h a ha
      obtain ⟨m, hm, -, hd, -⟩ := mem_dependents.1 ha
      exact h m hm hd
  rw [report, List.mem_append, or_iff_right hunknown, unusedOutputs, List.mem_map, ← inResult_iff,
    ← hdependents]
  constructor
  · rintro ⟨m, hm, heq⟩
    obtain ⟨hmem, hm⟩ := List.mem_filter.1 hm
    rw [hs.eq_of_id_eq hmem hn (Issue.unusedOutput.inj heq)] at hm
    simpa [and_comm] using hm
  · intro h
    exact ⟨n, List.mem_filter.2 ⟨hn, by simpa [and_comm] using h⟩, rfl⟩

/-- What no node waits for goes nowhere, is not nested beneath a static node and does not refer to
itself, unless it is part of the result. -/
theorem not_waited_for_iff (hload : load source = .ok nodes) (hn : n ∈ nodes) :
    (¬ (n.isLlm = true ∧ n.indent = 0) ∧ ∀ m ∈ nodes, n.id ∉ m.dependencies) ↔
      GoesNowhere nodes n ∧ n.id ∉ n.references ∧
        ∀ m ∈ nodes, m.isStatic = true → n.id ∉ m.children := by
  have hclosed := closed_of_load hload
  constructor
  · rintro ⟨hresult, hnone⟩
    have hwaits := fun m hm hd => hnone m hm (Node.mem_dependencies.2 hd)
    exact ⟨⟨hresult, fun m hm _ href => hwaits m hm (.inr (.inl href)),
      fun m hm _ hvar => hwaits m hm (.inr (.inr ⟨hvar, (loaded_of_load hload).nonempty n hn⟩)),
      fun m hm _ hchild => hwaits m hm (.inl hchild)⟩, fun href => hwaits n hn (.inr (.inl href)),
      fun m hm _ hchild => hwaits m hm (.inl hchild)⟩
  · rintro ⟨h, hself, hstatic⟩
    refine ⟨h.result, fun m hm hd => ?_⟩
    rcases Node.mem_dependencies.1 hd with hchild | href | ⟨hvar, -⟩
    · cases hkind : m.isStatic with
      | true => exact hstatic m hm hkind hchild
      | false => exact h.children m hm (by simp [Node.isLlm, hkind]) hchild
    · by_cases heq : m.id = n.id
      · rw [hclosed.distinct.eq_of_id_eq hm hn heq] at href
        exact hself href
      · exact h.references m hm heq href
    · refine h.models m hm (fun heq => ?_) hvar
      -- what names a model is static, and so names none itself
      obtain ⟨t, ht, htstatic, hid⟩ := hclosed.output m hm _ hvar
      rw [hclosed.distinct.eq_of_id_eq ht hm (hid.trans heq.symm)] at htstatic
      rw [(hclosed.unnamed m hm htstatic).2] at hvar
      cases hvar

end Warnings

/-- **The graph warns of outputs that go nowhere, except where something waits all the same.**  A
script's nodes have a report.  The output of a node goes nowhere exactly when neither the result nor
what comes of another node depends on it.  The report warns of the node exactly when this is so and,
besides, the node does not refer to itself and is not nested beneath a static node. -/
theorem unused_outputs_warned {source : String} {nodes : List Node}
    (hload : load source = .ok nodes) :
    ∃ r, (Graph.mk nodes).analyse = .ok r ∧ ∀ n ∈ nodes,
      (GoesNowhere nodes n ↔
        ¬ ReachesResult nodes n.id ∧ ∀ m ∈ nodes, m.id ≠ n.id → ¬ Consumes nodes m n.id) ∧
      (.unusedOutput n.id ∈ r.warnings ↔
        GoesNowhere nodes n ∧ n.id ∉ n.references ∧
          ∀ m ∈ nodes, m.isStatic = true → n.id ∉ m.children) := by
  have hs := (closed_of_load hload).distinct
  exact ⟨_, analyse_of_distinct hs, fun n hn => ⟨goesNowhere_iff hload hn,
    (mem_warnings_unusedOutput_iff hs hn).trans (not_waited_for_iff hload hn)⟩⟩

/-- A script with outputs of all sorts of use. -/
def usesScript : String :=
  "#pick = flash\n" ++
  "#ask pick: \x7b\x7b#ref\x7d\x7d\n" ++
  "  #kid = heard\n" ++
  "#ref = told\n" ++
  "#orphan = lost\n" ++
  "#top = silent\n" ++
  "  #deaf flash: unheard\n" ++
  "#loop = \x7b\x7b#loop\x7d\x7d"

/-- The nodes of that script. -/
def usesNodes : List Node := [
  { id := "pick", kind := .static, template := "flash" },
  { id := "ask", kind := .llm (.output "pick"), line := 2, children := ["kid"],
    template := "\x7b\x7b#ref\x7d\x7d", references := ["ref"] },
  { id := "kid", kind := .static, template := "heard", indent := 1, line := 3 },
  { id := "ref", kind := .static, template := "told", line := 4 },
  { id := "orphan", kind := .static, template := "lost", line := 5 },
  { id := "top", kind := .static, template := "silent", line := 6, children := ["deaf"] },
  { id := "deaf", kind := .llm (.nickname "flash"), template := "unheard", indent := 1, line := 7 },
  { id := "loop", kind := .static, template := "\x7b\x7b#loop\x7d\x7d", line := 8,
    references := ["loop"] }]

/-- Four outputs go nowhere, and of two of them there is a warning. -/
theorem unused_outputs_warned_uses :
    load usesScript = .ok usesNodes ∧ ∃ r, (Graph.mk usesNodes).analyse = .ok r ∧
      r.warnings = [.unusedOutput "orphan", .unusedOutput "top"] ∧
      (GoesNowhere usesNodes usesNodes[4] ∧ ¬ ReachesResult usesNodes "orphan" ∧
        ∀ m ∈ usesNodes, m.id ≠ "orphan" → ¬ Consumes usesNodes m "orphan") ∧
      (GoesNowhere usesNodes usesNodes[6] ∧ ¬ ReachesResult usesNodes "deaf") := by
  have hload : load usesScript = .ok usesNodes := eq_ok_of_toOption (by decide +kernel)
  obtain ⟨r, hr, hall⟩ := unused_outputs_warned hload
  cases hr.symm.trans (analyse_of_distinct (closed_of_load hload).distinct)
  obtain ⟨hnowhere, hwarned⟩ := hall usesNodes[4] (List.getElem_mem _)
  have horphan := (hwarned.1 (by decide +kernel)).1
  have hdeaf : GoesNowhere usesNodes usesNodes[6] := ⟨by decide, by decide, by decide, by decide⟩
  exact ⟨hload, _, hr, by decide +kernel, ⟨horphan, hnowhere.1 horphan⟩, hdeaf,
    ((hall usesNodes[6] (List.getElem_mem _)).1.1 hdeaf).1⟩

/-- A script whose only model node is nested beneath a static one. -/
def silentScript : String := "#a = hello\n  flash: x"

/-- The nodes of that script. -/
def silentNodes : List Node := [
  { id := "a", kind := .static, template := "hello", children := ["node_2"] },
  { id := "node_2", kind := .llm (.nickname "flash"), template := "x", indent := 1, line := 2 }]

/-- Its output goes nowhere, and there is no warning. -/
theorem unused_output_unwarned :
    load silentScript = .ok silentNodes ∧ GoesNowhere silentNodes silentNodes[1] ∧
      ∃ r, (Graph.mk silentNodes).analyse = .ok r ∧
        .unusedOutput silentNodes[1].id ∉ r.warnings := by
  have hload : load silentScript = .ok silentNodes := eq_ok_of_toOption (by decide +kernel)
  exact ⟨hload, ⟨by decide, by decide, by decide, by decide⟩, _,
    analyse_of_distinct (closed_of_load hload).distinct, by decide +kernel⟩

end PromptChain
