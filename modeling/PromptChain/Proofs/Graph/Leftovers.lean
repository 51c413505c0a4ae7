/-
# References that stay in the text

The graph warns of a reference when no node has its id; linking leaves it out of what its node
refers to for the same reason; and substitution passes over what its node does not refer to.  So a
warning tells of a reference that stays in the text as it is written, whatever the outputs and the
input are (`stays_iff`), and of every such reference there is a warning.

The ids of a text come each once and in the order of their first references, and so do the
warnings of a node (`nodup_unknownReferences`).
-/
import PromptChain.Proofs.Graph.Soundness
import PromptChain.Proofs.Template.References

namespace PromptChain

open PromptChain.Graph PromptChain.Script PromptChain.Template PromptChain.Text

/-! ## 1. What stays -/

/-- Whether all references to an id stay in the text of a node as they are written, whatever the
input is and whatever outputs are stored for the nodes. -/
def Stays (nodes : List Node) (n : Node) (id : String) : Prop :=
  ∀ c : Context, (∀ d ∈ idsOf nodes, d ∈ c.outputs.ids) →
    ∀ before after, n.template = before ++ String.ofList (reference id) ++ after →
      c.TurnsInto n.references before id after (String.ofList (reference id))

section Stays

variable {source : String} {nodes : List Node} {n : Node} {id : String}

/-- **A reference that stands in a text stays there exactly when no node has its id.** -/
theorem stays_iff (hload : load source = .ok nodes) (hn : n ∈ nodes)
    (hname : isName id.toList = true) (hstands : reference id <:+: n.template.toList) :
    Stays nodes n id ↔ id ∉ idsOf nodes := by
  have hknown : ∀ d ∈ n.references, d ∈ idsOf nodes := fun d hd =>
    ((mem_references_iff hload hn).1 hd).1
  constructor
  · intro h hid
    -- with blank outputs the reference would turn into nothing as well
    obtain ⟨before, after, htext⟩ := hstands
    let blank : Context := ⟨⟨(idsOf nodes).map fun d => (d, "")⟩, ""⟩
    have hget : ∀ d ∈ idsOf nodes, blank.outputs.get? d = some "" := fun d hd => Store.get?_map hd
    have htemplate : n.template =
        String.ofList before ++ String.ofList (reference id) ++ String.ofList after := by
      rw [← String.toList_inj]
      simp [← htext]
    have hstays := h blank (fun d hd => Store.mem_ids_iff.2 ⟨_, hget d hd⟩) _ _ htemplate
    have hturns := Context.turnsInto_of_stored hname (fun d hd => hget d (hknown d hd))
      (String.ofList before) (String.ofList after)
    rw [if_pos ((mem_references_iff hload hn).2 ⟨hid, before, after, htext⟩)] at hturns
    have hsame := congrArg String.toList (hturns.unique hstays)
    simp [reference, opening] at hsame
  · intro hid c hstored before after htext
    have hget : ∀ d ∈ n.references, c.outputs.get? d = some ((c.outputs.get? d).getD "") :=
      fun d hd => Store.get?_eq_some_getD (hstored d (hknown d hd)) ""
    have hturns := Context.turnsInto_of_stored hname hget before after
    rwa [if_neg fun hin => hid (hknown id hin)] at hturns

end Stays

/-! ## 2. What is warned of -/

section Warnings

variable {nodes : List Node} {n : Node} {id : String}

theorem Graph.knows_eq_false_iff : (Graph.mk nodes).knows id = false ↔ id ∉ idsOf nodes := by
  rw [← Bool.not_eq_true, knows_iff, idsOf, List.mem_map]

/-- The ids without nodes that a text refers to, in the order of their first references. -/
def unknownIds (nodes : List Node) (n : Node) : List String :=
  (referenceIds n.template).filter fun id => decide (id ∉ idsOf nodes)

theorem Graph.unknownReferences_eq (nodes : List Node) : (Graph.mk nodes).unknownReferences =
    nodes.flatMap fun n => (unknownIds nodes n).map (.unknownReference n.id) := by
  have hfilter : ∀ id, (!(Graph.mk nodes).knows id) = decide (id ∉ idsOf nodes) := by
    intro id
    rw [Bool.eq_iff_iff, Bool.not_eq_true', knows_eq_false_iff, decide_eq_true_iff]
  simp only [unknownReferences, unknownIds, hfilter]

theorem Graph.filter_warnings_unknownReference (nodes : List Node) :
    ((Graph.mk nodes).report.warnings.filter fun w => w.code == "UNKNOWN_REFERENCE") =
      (Graph.mk nodes).unknownReferences := by
  have hunknown : ∀ w ∈ (Graph.mk nodes).unknownReferences, w.code = "UNKNOWN_REFERENCE" := by
    intro w hw
    obtain ⟨n, -, hw⟩ := List.mem_flatMap.1 hw
    obtain ⟨id, -, rfl⟩ := List.mem_map.1 hw
    rfl
  have hunused : ∀ w ∈ (Graph.mk nodes).unusedOutputs, w.code ≠ "UNKNOWN_REFERENCE" := by
    intro w hw
    obtain ⟨n, -, rfl⟩ := List.mem_map.1 hw
    simp [Issue.code]
  rw [report, List.filter_append, List.filter_eq_self.2 (by simpa using hunknown),
    List.filter_eq_nil_iff.2 (by simpa using hunused), List.append_nil]

/-- **A node's warnings are about the names in its text that no node has.** -/
theorem Graph.mem_unknownReferences_iff (hdistinct : Distinct nodes) (hn : n ∈ nodes) :
    .unknownReference n.id id ∈ (Graph.mk nodes).unknownReferences ↔ id ∈ unknownIds nodes n := by
  rw [unknownReferences_eq, List.mem_flatMap]
  constructor
  · rintro ⟨m, hm, hid⟩
    obtain ⟨_, hid, heq⟩ := List.mem_map.1 hid
    rw [Issue.unknownReference.injEq] at heq
    obtain ⟨hsame, rfl⟩ := heq
    rwa [← hdistinct.eq_of_id_eq hm hn hsame]
  · exact fun hid => ⟨n, hn, List.mem_map_of_mem hid⟩

theorem firstSeen_unknownIds (nodes : List Node) (n : Node) :
    FirstSeen n.template (· ∉ idsOf nodes) (unknownIds nodes n) :=
  firstSeen_referenceIds n.template (· ∉ idsOf nodes)

/-- **No warning about a reference comes twice.** -/
theorem Graph.nodup_unknownReferences (hdistinct : Distinct nodes) :
    (Graph.mk nodes).unknownReferences.Nodup := by
  rw [unknownReferences_eq, List.nodup_flatMap]
  constructor
  · intro n _
    exact (firstSeen_unknownIds nodes n).nodup.map fun _ _ heq =>
      (Issue.unknownReference.inj heq).2
  · -- warnings of different nodes are about different ids
    refine (List.pairwise_map.1 hdistinct).imp fun {m n} hne w hm hn => ?_
    obtain ⟨_, -, rfl⟩ := List.mem_map.1 hm
    obtain ⟨_, -, heq⟩ := List.mem_map.1 hn
    exact hne (Issue.unknownReference.inj heq).1.symm

end Warnings

/-- **Of every reference that stays in a text, and of no other, there is a warning.**  A script's
nodes have a report.  It warns of a name in a node's text exactly when the reference to the name
stands there and stays as it is written, whatever the input is and whatever outputs are stored for
the nodes.  No such warning comes twice; they come in the order of the nodes, and those of one node
in the order of the first references in its text. -/
theorem leftovers_are_warned {source : String} {nodes : List Node}
    (hload : load source = .ok nodes) :
    ∃ r, (Graph.mk nodes).analyse = .ok r ∧
      (∀ n ∈ nodes, ∀ id, .unknownReference n.id id ∈ r.warnings ↔
        isName id.toList = true ∧ reference id <:+: n.template.toList ∧ Stays nodes n id) ∧
      (r.warnings.filter fun w => w.code == "UNKNOWN_REFERENCE").Nodup ∧
      ∃ unknown : Node → List String,
        (∀ n, FirstSeen n.template (· ∉ idsOf nodes) (unknown n)) ∧
        (r.warnings.filter fun w => w.code == "UNKNOWN_REFERENCE") =
          nodes.flatMap fun n => (unknown n).map (.unknownReference n.id) := by
  have hdistinct := (closed_of_load hload).distinct
  refine ⟨_, analyse_of_distinct hdistinct, fun n hn id => ?_, ?_, unknownIds nodes,
    firstSeen_unknownIds nodes, ?_⟩
  · have hunknown : .unknownReference n.id id ∈ (Graph.mk nodes).report.warnings ↔
        .unknownReference n.id id ∈ (Graph.mk nodes).unknownReferences := by
      rw [← filter_warnings_unknownReference, List.mem_filter]
      exact (and_iff_left rfl).symm
    rw [hunknown, mem_unknownReferences_iff hdistinct hn, (firstSeen_unknownIds nodes n).mem id,
      exists_reference_iff, and_comm, and_assoc]
    exact and_congr_right fun hname => and_congr_right fun hstands =>
      (stays_iff hload hn hname hstands).symm
  · rw [filter_warnings_unknownReference]
    exact nodup_unknownReferences hdistinct
  · rw [filter_warnings_unknownReference, unknownReferences_eq]

/-- A script with references to names that no node has, one of which differs from an id in case. -/
def strayScript : String :=
  "#note = \x7b\x7b#none\x7d\x7d, \x7b\x7b#none\x7d\x7d, \x7b\x7b#other\x7d\x7d\n" ++
  "#draft flash: \x7b\x7b#note\x7d\x7d, \x7b\x7b#Note\x7d\x7d, \x7b\x7b#no one\x7d\x7d, " ++
    "\x7b\x7b#none\x7d\x7d"

/-- The nodes of that script. -/
def strayNodes : List Node := [
  { id := "note", kind := .static,
    template := "\x7b\x7b#none\x7d\x7d, \x7b\x7b#none\x7d\x7d, \x7b\x7b#other\x7d\x7d" },
  { id := "draft", kind := .llm (.nickname "flash"), line := 2, references := ["note"],
    template := "\x7b\x7b#note\x7d\x7d, \x7b\x7b#Note\x7d\x7d, \x7b\x7b#no one\x7d\x7d, " ++
      "\x7b\x7b#none\x7d\x7d" }]

/-- What is warned of stays, and the reference to the node does not. -/
theorem leftovers_are_warned_stray :
    load strayScript = .ok strayNodes ∧ ∃ r, (Graph.mk strayNodes).analyse = .ok r ∧
      (r.warnings.filter fun w => w.code == "UNKNOWN_REFERENCE") =
        [.unknownReference "note" "none", .unknownReference "note" "other",
          .unknownReference "draft" "Note", .unknownReference "draft" "none"] ∧
      Stays strayNodes strayNodes[1] "Note" ∧ ¬ Stays strayNodes strayNodes[1] "note" := by
  have hload : load strayScript = .ok strayNodes := eq_ok_of_toOption (by decide +kernel)
  obtain ⟨r, hr, hwarned, -⟩ := leftovers_are_warned hload
  cases hr.symm.trans (analyse_of_distinct (closed_of_load hload).distinct)
  have hdraft : strayNodes[1] ∈ strayNodes := List.getElem_mem _
  have hcapital := (hwarned _ hdraft "Note").1 (by decide +kernel)
  refine ⟨hload, _, hr, by decide +kernel, hcapital.2.2, fun hstays => ?_⟩
  have hnot :
      .unknownReference strayNodes[1].id "note" ∉ (Graph.mk strayNodes).report.warnings := by
    decide +kernel
  exact hnot ((hwarned _ hdraft "note").2 ⟨by decide, by decide +kernel, hstays⟩)

end PromptChain
