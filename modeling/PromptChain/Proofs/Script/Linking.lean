/-
# The links of a script

The lines of a script say what its nodes are, and what they say is then linked: references to nodes
of the script become dependencies, and a model that spells the id of a static node is replaced by
that node's output.  Linking is done after ids and kinds are fixed and looks at nothing but them,
so a linked node is described by what was written and by the ids there are (`Links`).

The nodes that come out form a closed whole (`Closed`): whatever a node names or waits for is one
of them, and it says so once.
-/
import PromptChain.Proofs.Script.Forest
import PromptChain.Proofs.Template.Occurrences
import Mathlib.Data.List.Forall2

namespace PromptChain

open PromptChain.Text PromptChain.Template PromptChain.Graph

/-! ## 1. Nodes -/

namespace Node

section Nodes

variable {n : Node} {ids more : List String} {id : String}

theorem nodup_addNew (h : ids.Nodup) : (addNew ids id).Nodup := by
  rw [addNew]
  split
  · exact h
  · rename_i hnew
    rw [← List.concat_eq_append]
    exact h.concat hnew

theorem nodup_foldl_addNew (h : ids.Nodup) : (more.foldl addNew ids).Nodup := by
  induction more generalizing ids with
  | nil => exact h
  | cons id more ih => exact ih (nodup_addNew h)

/-- **A node waits for no id twice**, if none is its child twice. -/
theorem nodup_dependencies (h : n.children.Nodup) : n.dependencies.Nodup := by
  have hmentioned : (n.references.foldl addNew n.children).Nodup := nodup_foldl_addNew h
  simp only [dependencies]
  split
  · split
    · exact hmentioned
    · exact nodup_addNew hmentioned
  · exact hmentioned

theorem model?_eq_some_iff : n.model? = some id ↔ n.kind = .llm (.nickname id) := by
  rw [model?]
  split
  · rename_i name hkind
    simp [hkind]
  · rename_i hkind
    refine iff_of_false ?_ (hkind id)
    intro h
    cases h

theorem modelVariable?_eq_some_iff : n.modelVariable? = some id ↔ n.kind = .llm (.output id) := by
  rw [modelVariable?]
  split
  · rename_i name hkind
    simp [hkind]
  · rename_i hkind
    refine iff_of_false ?_ (hkind id)
    intro h
    cases h

/-- A static node names no model, and a model node names one in one of two ways. -/
theorem naming (n : Node) :
    (n.isStatic = true ∧ n.model? = none ∧ n.modelVariable? = none) ∨
    n.isStatic = false ∧
      ((∃ name, n.model? = some name ∧ n.modelVariable? = none) ∨
        ∃ id, n.model? = none ∧ n.modelVariable? = some id) := by
  rw [isStatic, model?, modelVariable?]
  cases n.kind with
  | static => exact .inl ⟨rfl, rfl, rfl⟩
  | llm source =>
    cases source with
    | nickname name => exact .inr ⟨rfl, .inl ⟨name, rfl, rfl⟩⟩
    | output id => exact .inr ⟨rfl, .inr ⟨id, rfl, rfl⟩⟩

/-- An id that a node may have is a name. -/
theorem isName_of_idProblem? (h : idProblem? id = none) : isName id.toList = true := by
  rw [idProblem?] at h
  split at h
  · cases h
  · split at h
    · cases h
    · split at h
      · cases h
      · rename_i hname
        simpa using hname

end Nodes

end Node

namespace Script

/-! ## 2. Models that spell ids -/

/-- Whether a model spells an id, bare or as a reference. -/
def Spells (model id : String) : Prop := model = id ∨ model.toList = reference id

section Models

variable {model id : String}

theorem reference_inj {id' : String} (h : reference id = reference id') : id = id' := by
  simp only [reference, opening, List.cons_append, List.nil_append, List.cons.injEq, true_and,
    List.append_left_inj] at h
  exact String.toList_inj.1 h

/-- **A text is a sole reference exactly when it is one written out.** -/
theorem soleReference?_eq_some_iff :
    soleReference? model = some id ↔ isName id.toList = true ∧ model.toList = reference id := by
  rw [soleReference?]
  constructor
  · intro h
    split at h
    · rename_i id' hat
      split at h
      · rename_i hwhole
        cases h
        exact ⟨(referenceAt?_eq_some_iff.1 hat).1, hwhole⟩
      · cases h
    · cases h
  · rintro ⟨hname, hwhole⟩
    have hat : referenceAt? model.toList = some id :=
      referenceAt?_eq_some_iff.2 ⟨hname, hwhole ▸ List.prefix_refl _⟩
    rw [hat]
    exact if_pos hwhole

/-- A name is not itself a reference. -/
theorem ne_reference {id' : String} (h : isName id.toList = true) :
    id.toList ≠ reference id' := by
  intro heq
  rw [heq, isName, Bool.and_eq_true, List.all_eq_true] at h
  exact absurd (h.2 '\x7b' List.mem_cons_self) (by simp [not_isNameChar_of_mark])

/-- **The id that a model is looked up under is the one that it spells.** -/
theorem modelId_eq_iff (hname : isName id.toList = true) :
    modelId model = id ↔ Spells model id := by
  rw [modelId, Spells]
  cases hsole : soleReference? model with
  | none =>
    have hnot : model.toList ≠ reference id := fun hwhole => by
      rw [soleReference?_eq_some_iff.2 ⟨hname, hwhole⟩] at hsole
      cases hsole
    simp [hnot]
  | some id' =>
    have hwhole := (soleReference?_eq_some_iff.1 hsole).2
    rw [Option.getD_some]
    constructor
    · rintro rfl
      exact .inr hwhole
    · rintro (rfl | hwhole')
      · exact absurd hwhole (ne_reference hname)
      · exact reference_inj (hwhole.symm.trans hwhole')

end Models

/-! ## 3. Linked nodes -/

/-- Whether a node is a written one with its links to some nodes: its references are to them, and a
model of it that spells the id of a static one has become that node's output. -/
structure Links (nodes : List Node) (written n : Node) : Prop where
  kept : n = { written with kind := n.kind, references := n.references }
  references : FirstSeen written.template (· ∈ idsOf nodes) n.references
  isStatic : n.isStatic = written.isStatic
  unlinked : written.modelVariable? = none
  literal : ∀ model, written.model? = some model → (n.model? = some model ↔
    ∀ m ∈ nodes, m.isStatic = true → ¬ Spells model m.id)
  output : ∀ model, written.model? = some model → ∀ id, n.modelVariable? = some id ↔
    ∃ m ∈ nodes, m.isStatic = true ∧ m.id = id ∧ Spells model id

section Linked

variable {nodes : List Node} {w : Node} {ids staticIds : List String} {id : String}

theorem isStatic_linkedNode : (linkedNode ids staticIds w).isStatic = w.isStatic := by
  rw [linkedNode, Node.isStatic, Node.isStatic]
  cases w.kind with
  | static => rfl
  | llm source =>
    cases source with
    | nickname model =>
      rw [linkedKind]
      by_cases hmem : modelId model ∈ staticIds
      · rw [if_pos hmem]
      · rw [if_neg hmem]
    | output id => rfl

theorem mem_staticIdsOf : id ∈ staticIdsOf nodes ↔ ∃ m ∈ nodes, m.isStatic = true ∧ m.id = id := by
  simp [staticIdsOf, idsOf, and_assoc]

/-- Linking leaves it as it is which ids are those of static nodes. -/
theorem staticIdsOf_linked : staticIdsOf (linked nodes) = staticIdsOf nodes := by
  rw [staticIdsOf, linked, List.filter_map, idsOf, List.map_map, staticIdsOf, idsOf]
  simp only [Function.comp_def, linkedNode_id, isStatic_linkedNode]
  rfl

/-- The static nodes that a model spells are those that it is looked up under. -/
theorem exists_static_spelt_iff (hnames : ∀ id ∈ idsOf nodes, isName id.toList = true)
    {model : String} :
    (∃ m ∈ linked nodes, m.isStatic = true ∧ m.id = id ∧ Spells model id) ↔
      id ∈ staticIdsOf nodes ∧ modelId model = id := by
  rw [← staticIdsOf_linked, mem_staticIdsOf]
  constructor
  · rintro ⟨m, hm, hkind, rfl, hspells⟩
    refine ⟨⟨m, hm, hkind, rfl⟩, (modelId_eq_iff (hnames _ ?_)).2 hspells⟩
    rw [← idsOf_linked]
    exact List.mem_map_of_mem hm
  · rintro ⟨⟨m, hm, hkind, rfl⟩, hmodel⟩
    refine ⟨m, hm, hkind, rfl, (modelId_eq_iff (hnames _ ?_)).1 hmodel⟩
    rw [← idsOf_linked]
    exact List.mem_map_of_mem hm

theorem kind_linkedNode {model : String} (hmodel : w.model? = some model) :
    (linkedNode ids staticIds w).kind =
      if modelId model ∈ staticIds then .llm (.output (modelId model))
      else .llm (.nickname model) := by
  rw [linkedNode, Node.model?_eq_some_iff.1 hmodel, linkedKind]

/-- **A node is linked to the nodes by their ids and kinds**, if all ids are names. -/
theorem links_linkedNode (hnames : ∀ id ∈ idsOf nodes, isName id.toList = true)
    (hw : w.modelVariable? = none) :
    Links (linked nodes) w (linkedNode (idsOf nodes) (staticIdsOf nodes) w) := by
  refine {
    kept := rfl
    references := ?_
    isStatic := isStatic_linkedNode
    unlinked := hw
    literal := fun model hmodel => ?_
    output := fun model hmodel id => ?_ }
  · rw [idsOf_linked]
    exact firstSeen_referenceIds w.template (· ∈ idsOf nodes)
  · rw [Node.model?_eq_some_iff, kind_linkedNode hmodel]
    split
    · rename_i hmem
      obtain ⟨m, hm, hkind, hid, hspells⟩ := (exists_static_spelt_iff hnames).2 ⟨hmem, rfl⟩
      refine iff_of_false ?_ fun hnone => hnone m hm hkind (hid ▸ hspells)
      intro h
      cases h
    · rename_i hmem
      refine iff_of_true rfl fun m hm hkind hspells => hmem ?_
      obtain ⟨hid, heq⟩ := (exists_static_spelt_iff hnames).1 ⟨m, hm, hkind, rfl, hspells⟩
      exact heq ▸ hid
  · rw [Node.modelVariable?_eq_some_iff, kind_linkedNode hmodel, exists_static_spelt_iff hnames]
    split
    · rename_i hmem
      simp only [NodeKind.llm.injEq, ModelSource.output.injEq]
      exact ⟨fun heq => ⟨heq ▸ hmem, heq⟩, fun h => h.2⟩
    · rename_i hmem
      refine iff_of_false ?_ ?_
      · intro h
        cases h
      · rintro ⟨hid, rfl⟩
        exact hmem hid

end Linked

/-! ## 4. Closed nodes -/

/-- **Whether some nodes form a closed whole.**  No id is given twice; a node waits for nodes of the
whole, and for none of them twice; it refers to those that its text refers to, in their order; a
model node names its model in one of two ways and a static node in none; and what is named in the
second way is a static node. -/
structure Closed (nodes : List Node) : Prop where
  distinct : Distinct nodes
  nodup : ∀ n ∈ nodes, n.dependencies.Nodup
  known : ∀ n ∈ nodes, ∀ d ∈ n.dependencies, d ∈ idsOf nodes
  references : ∀ n ∈ nodes, FirstSeen n.template (· ∈ idsOf nodes) n.references
  named : ∀ n ∈ nodes, n.isLlm = true →
    (∃ name, n.model? = some name ∧ n.modelVariable? = none) ∨
      ∃ id, n.model? = none ∧ n.modelVariable? = some id
  unnamed : ∀ n ∈ nodes, n.isStatic = true → n.model? = none ∧ n.modelVariable? = none
  output : ∀ n ∈ nodes, ∀ id, n.modelVariable? = some id →
    ∃ m ∈ nodes, m.isStatic = true ∧ m.id = id

/-- What the nodes of a script are before they are linked. -/
structure Written (nodes : List Node) : Prop where
  names : ∀ id ∈ idsOf nodes, isName id.toList = true
  children : ∀ n ∈ nodes, n.children.Nodup
  unlinked : ∀ n ∈ nodes, n.modelVariable? = none

theorem written_of_parse {source : String} {nodes : List Node} (h : parse source = .ok nodes) :
    Written nodes := by
  obtain ⟨ps, hps, rfl⟩ := exists_passages h
  have hfresh := hps.fresh
  have hs := hps.distinct
  generalize ps.map Passage.entry = es at hfresh hs ⊢
  refine ⟨fun id hid => ?_, fun n hn => ?_, fun n hn => ?_⟩
  · rw [idsOf_nodesOf] at hid
    obtain ⟨e, he, rfl⟩ := List.mem_map.1 hid
    exact Node.isName_of_idProblem? (hfresh.good e he)
  · obtain ⟨i, hi, rfl⟩ := List.getElem_of_mem hn
    have hchildren : (nodesOf es)[i].children = nestedBeneath (nodesOf es) ⟨i, hi⟩ :=
      children_eq hs ⟨i, hi⟩
    rw [hchildren]
    exact nodup_nestedBeneath hs
  · obtain ⟨e, -, rfl⟩ := List.mem_map.1 hn
    rw [Node.modelVariable?, Entry.toNode, Entry.kind]
    cases e.model <;> rfl

/-- The nodes of a script are the written ones with their links. -/
theorem links_of_load {source : String} {nodes : List Node} (h : load source = .ok nodes) :
    ∃ written, parse source = .ok written ∧ linked written = nodes ∧
      ∀ w ∈ written, Links nodes w (linkedNode (idsOf written) (staticIdsOf written) w) := by
  obtain ⟨written, hparse, rfl⟩ := load_eq_ok_iff.1 h
  have hwritten := written_of_parse hparse
  exact ⟨written, hparse, rfl, fun w hw =>
    links_linkedNode hwritten.names (hwritten.unlinked w hw)⟩

/-- A node with links that takes its model from an output was written with one. -/
theorem Links.exists_model {nodes : List Node} {w n : Node} (h : Links nodes w n) {id : String}
    (hid : n.modelVariable? = some id) : ∃ model, w.model? = some model := by
  rcases w.naming with ⟨hstatic, -⟩ | ⟨-, ⟨model, hmodel, -⟩ | ⟨id', -, hvar⟩⟩
  · rw [← h.isStatic, Node.isStatic, Node.modelVariable?_eq_some_iff.1 hid] at hstatic
    cases hstatic
  · exact ⟨model, hmodel⟩
  · rw [h.unlinked] at hvar
    cases hvar

/-- **Nodes that a script is read into form a closed whole.** -/
theorem closed_of_load {source : String} {nodes : List Node} (h : load source = .ok nodes) :
    Closed nodes := by
  have hloaded := loaded_of_load h
  obtain ⟨written, hparse, rfl, hlinks⟩ := links_of_load h
  refine {
    distinct := hloaded.distinct
    nodup := ?_
    known := fun n hn d hd => hloaded.dependencies hn hd
    references := ?_
    named := ?_
    unnamed := ?_
    output := ?_ }
  · intro n hn
    obtain ⟨w, hw, rfl⟩ := mem_linked.1 hn
    exact Node.nodup_dependencies ((written_of_parse hparse).children w hw)
  · intro n hn
    obtain ⟨w, hw, rfl⟩ := mem_linked.1 hn
    exact (hlinks w hw).references
  · intro n _ hllm
    rcases n.naming with ⟨hstatic, -⟩ | ⟨-, hnaming⟩
    · simp [Node.isLlm, hstatic] at hllm
    · exact hnaming
  · intro n _ hstatic
    rcases n.naming with ⟨-, hnaming⟩ | ⟨hllm, -⟩
    · exact hnaming
    · rw [hstatic] at hllm
      cases hllm
  · intro n hn id hid
    obtain ⟨w, hw, rfl⟩ := mem_linked.1 hn
    obtain ⟨model, hmodel⟩ := (hlinks w hw).exists_model hid
    obtain ⟨m, hm, hstatic, hmid, -⟩ := ((hlinks w hw).output model hmodel id).1 hid
    exact ⟨m, hm, hstatic, hmid⟩

/-- **A script is read into a closed whole.**  Its nodes are what its lines say, one by one and in
their order, with their links: so a model stays as it is written exactly when it spells the id of no
static node, and otherwise becomes the output of the one that it spells. -/
theorem load_closed {source : String} {nodes : List Node} (h : load source = .ok nodes) :
    Closed nodes ∧ ∃ written, parse source = .ok written ∧
      List.Forall₂ (Links nodes) written nodes := by
  refine ⟨closed_of_load h, ?_⟩
  obtain ⟨written, hparse, rfl, hlinks⟩ := links_of_load h
  exact ⟨written, hparse, List.forall₂_map_right_iff.2 (List.forall₂_same.2 hlinks)⟩

/-- A script whose models are an id of a static node, bare and as a reference, a reference to a node
that is not static, and a nickname; one text refers twice to a node that is its child too. -/
def spelledScript : String :=
  "#fast = flash\n" ++
  "#draft fast: \x7b\x7b#note\x7d\x7d by \x7b\x7b#fast\x7d\x7d, " ++
    "\x7b\x7b#none\x7d\x7d, \x7b\x7b#note\x7d\x7d\n" ++
  "  #note = short\n" ++
  "#check \x7b\x7b#fast\x7d\x7d: \x7b\x7b#draft\x7d\x7d\n" ++
  "#more \x7b\x7b#draft\x7d\x7d: \x7b\x7bINPUT\x7d\x7d\n" ++
  "sonnet: \x7b\x7b#check\x7d\x7d"

/-- The nodes of that script. -/
def spelledNodes : List Node := [
  { id := "fast", kind := .static, template := "flash" },
  { id := "draft", kind := .llm (.output "fast"), line := 2, children := ["note"],
    template := "\x7b\x7b#note\x7d\x7d by \x7b\x7b#fast\x7d\x7d, " ++
      "\x7b\x7b#none\x7d\x7d, \x7b\x7b#note\x7d\x7d",
    references := ["note", "fast"] },
  { id := "note", kind := .static, template := "short", indent := 1, line := 3 },
  { id := "check", kind := .llm (.output "fast"), line := 4, template := "\x7b\x7b#draft\x7d\x7d",
    references := ["draft"] },
  { id := "more", kind := .llm (.nickname "\x7b\x7b#draft\x7d\x7d"), line := 5,
    template := "\x7b\x7bINPUT\x7d\x7d" },
  { id := "node_6", kind := .llm (.nickname "sonnet"), line := 6,
    template := "\x7b\x7b#check\x7d\x7d", references := ["check"] }]

/-- Its nodes are linked by what they spell. -/
theorem load_closed_spelled : load spelledScript = .ok spelledNodes ∧
    spelledNodes.map (·.dependencies) =
      [[], ["note", "fast"], [], ["draft", "fast"], [], ["check"]] ∧
    Closed spelledNodes := by
  have hload : load spelledScript = .ok spelledNodes := eq_ok_of_toOption (by decide +kernel)
  exact ⟨hload, by decide +kernel, (load_closed hload).1⟩

end Script
end PromptChain
