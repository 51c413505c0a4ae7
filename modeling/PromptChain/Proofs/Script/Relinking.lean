/-
# Linking again

Nodes may be linked that come from no script: their references may be anything, their models may be
outputs already, and they may name nodes further down or themselves.  Linking goes by the ids, the
kinds, the texts and the nicknames, and of these it only changes nicknames.  So nodes are left as
they are exactly when each is linked to them (`linked_eq_self_iff`), and linking them once is enough
(`linked_once_for_all`).

A link to a model is written into the fields of a node in two places, where a nickname goes and an
id comes, and the rule about sources is not looked at again.  There is no need to: fields that
follow it still do (`Raw.NamesSource.relinked`), and fields that a node can be built from give the
linked node (`Built.ofFields_relinked`).
-/
import PromptChain.Proofs.Node.Fields
import PromptChain.Proofs.Script.Linking
import PromptChain.Proofs.Script.Stopping

namespace PromptChain

open PromptChain.Text PromptChain.Form PromptChain.Template PromptChain.Script

/-! ## 1. Links in fields -/

namespace Node

/-- The id of a static node that the nickname in some fields stands for, if they are a model
node's. -/
def Raw.link? (staticIds : List String) (r : Raw) : Option String :=
  match r.kind, r.model with
  | .llm, some model => if modelId model ∈ staticIds then some (modelId model) else none
  | _, _ => none

/-- Fields with their links written into them. -/
def Raw.relinked (knownIds staticIds : List String) (r : Raw) : Raw :=
  let references := (referenceIds r.template).filter fun id => decide (id ∈ knownIds)
  match r.link? staticIds with
  | some id => { r with references, model := none, modelVariable := some id }
  | none => { r with references }

section Fields

variable {r : Raw} {n : Node} {ids staticIds : List String}

/-- **The rule about sources outlasts linking.** -/
theorem Raw.NamesSource.relinked (h : r.NamesSource) : (r.relinked ids staticIds).NamesSource := by
  rw [Raw.relinked]
  cases hlink : r.link? staticIds with
  | none => exact h
  | some id =>
    -- only the fields of a model node have a link, and theirs is the only source then
    have hkind : r.kind = .llm := by
      rw [Raw.link?] at hlink
      split at hlink
      · assumption
      · cases hlink
    rw [Raw.NamesSource]
    simp [hkind]

theorem Raw.Good.relinked (h : r.Good) : (r.relinked ids staticIds).Good := by
  rw [Raw.relinked]
  cases r.link? staticIds <;> exact ⟨h.id, h.line⟩

/-- **A linked node has the fields of the node with the links in them.** -/
theorem raw_linkedNode : (linkedNode ids staticIds n).raw = n.raw.relinked ids staticIds := by
  obtain ⟨id, kind, template, indent, line, children, references, flags⟩ := n
  cases kind with
  | static => rfl
  | llm source =>
    cases source with
    | output id => rfl
    | nickname model =>
      by_cases hmem : modelId model ∈ staticIds <;>
        simp [linkedNode, linkedKind, hmem, Raw.relinked, Raw.link?, raw, isStatic, model?,
          modelVariable?]

/-- **A node that can be built is linked by its fields**: they pass all checks with the links in
them, and give the linked node. -/
theorem Built.ofFields_relinked (h : n.Built) (ids staticIds : List String) :
    ofFields (n.raw.relinked ids staticIds).fields = .ok (linkedNode ids staticIds n) := by
  rw [ofFields_eq_ok_iff, raw_linkedNode]
  exact rawOfFields_fields (built_iff.1 h).relinked

end Fields

end Node

namespace Script

/-- The nodes that a script says can be built, before they are linked. -/
theorem built_of_mem_parse {source : String} {nodes : List Node} (h : parse source = .ok nodes)
    {n : Node} (hn : n ∈ nodes) : n.Built := by
  obtain ⟨ps, hps, rfl⟩ := exists_passages h
  obtain ⟨e, he, rfl⟩ := List.mem_map.1 hn
  refine Node.built_iff.2 ⟨hps.fresh.good e he, ?_⟩
  obtain ⟨p, hp, rfl⟩ := List.mem_map.1 he
  exact hps.first_le p hp

/-- **The nodes that a script is read into can be built**, links and all. -/
theorem built_of_mem_load {source : String} {nodes : List Node} (h : load source = .ok nodes)
    {n : Node} (hn : n ∈ nodes) : n.Built := by
  obtain ⟨written, hparse, rfl⟩ := load_eq_ok_iff.1 h
  obtain ⟨w, hw, rfl⟩ := mem_linked.1 hn
  exact ⟨_, (built_of_mem_parse hparse hw).ofFields_relinked _ _⟩

/-! ## 2. Nodes that are linked -/

/-- Whether a node is linked to some nodes: its references are those of its text to them, in their
order, and a nickname that it has spells the id of no static one. -/
structure LinkedTo (nodes : List Node) (n : Node) : Prop where
  references : FirstSeen n.template (· ∈ idsOf nodes) n.references
  literal : ∀ model, n.model? = some model → ∀ id ∈ staticIdsOf nodes, ¬ Spells model id

section Linked

variable {nodes : List Node} {n : Node} {ids staticIds : List String}

/-- A kind stays as it is when its nickname, if it has one, is looked up under no static id. -/
theorem linkedKind_eq_self_iff {kind : NodeKind} : linkedKind staticIds kind = kind ↔
    ∀ model, kind = .llm (.nickname model) → modelId model ∉ staticIds := by
  cases kind with
  | static => simp [linkedKind]
  | llm source =>
    cases source with
    | output id => simp [linkedKind]
    | nickname model =>
      by_cases hmem : modelId model ∈ staticIds <;> simp [linkedKind, hmem]

theorem mem_idsOf_of_mem_staticIdsOf {id : String} (h : id ∈ staticIdsOf nodes) :
    id ∈ idsOf nodes := by
  obtain ⟨m, hm, -, rfl⟩ := mem_staticIdsOf.1 h
  exact List.mem_map_of_mem hm

/-- A model is looked up under no static id when it spells none. -/
theorem modelId_notMem_iff (hnames : ∀ id ∈ idsOf nodes, isName id.toList = true)
    {model : String} : modelId model ∉ staticIdsOf nodes ↔
      ∀ id ∈ staticIdsOf nodes, ¬ Spells model id := by
  constructor
  · intro hnot id hid hspells
    have hmodel := (modelId_eq_iff (hnames id (mem_idsOf_of_mem_staticIdsOf hid))).2 hspells
    exact hnot (hmodel ▸ hid)
  · intro h hid
    exact h _ hid ((modelId_eq_iff (hnames _ (mem_idsOf_of_mem_staticIdsOf hid))).1 rfl)

/-- A node stays as it is when its references and its kind do. -/
theorem linkedNode_eq_self_iff : linkedNode ids staticIds n = n ↔
    (referenceIds n.template).filter (fun id => decide (id ∈ ids)) = n.references ∧
      linkedKind staticIds n.kind = n.kind := by
  cases n
  simp [linkedNode, and_comm]

/-- **A node is left as it is exactly when it is linked**, if all ids are names. -/
theorem linkedNode_eq_self_iff_linkedTo (hnames : ∀ id ∈ idsOf nodes, isName id.toList = true) :
    linkedNode (idsOf nodes) (staticIdsOf nodes) n = n ↔ LinkedTo nodes n := by
  rw [linkedNode_eq_self_iff, linkedKind_eq_self_iff]
  have hfirst := firstSeen_referenceIds n.template (· ∈ idsOf nodes)
  constructor
  · rintro ⟨hreferences, hkind⟩
    refine ⟨hreferences ▸ hfirst, fun model hmodel => ?_⟩
    exact (modelId_notMem_iff hnames).1 (hkind model (Node.model?_eq_some_iff.1 hmodel))
  · rintro ⟨hreferences, hliteral⟩
    refine ⟨hfirst.unique hreferences, fun model hmodel => ?_⟩
    exact (modelId_notMem_iff hnames).2 (hliteral model (Node.model?_eq_some_iff.2 hmodel))

/-- **Nodes are left as they are exactly when each is linked to them**, if all ids are names. -/
theorem linked_eq_self_iff (hnames : ∀ id ∈ idsOf nodes, isName id.toList = true) :
    linked nodes = nodes ↔ ∀ n ∈ nodes, LinkedTo nodes n := by
  have hmap := List.map_inj_left (f := linkedNode (idsOf nodes) (staticIdsOf nodes)) (g := id)
    (l := nodes)
  rw [List.map_id] at hmap
  exact hmap.trans (forall₂_congr fun n _ => linkedNode_eq_self_iff_linkedTo hnames)

/-- No nickname that linking leaves is looked up under a static id. -/
theorem modelId_notMem_of_linkedKind {kind : NodeKind} {model : String}
    (h : linkedKind staticIds kind = .llm (.nickname model)) : modelId model ∉ staticIds := by
  cases kind with
  | static => cases h
  | llm source =>
    cases source with
    | output id => cases h
    | nickname other =>
      rw [linkedKind] at h
      split at h
      · cases h
      · cases h
        assumption

/-- **A node is linked to the nodes once its links are there.** -/
theorem linkedTo_linkedNode (hnames : ∀ id ∈ idsOf nodes, isName id.toList = true) (n : Node) :
    LinkedTo nodes (linkedNode (idsOf nodes) (staticIdsOf nodes) n) where
  references := firstSeen_referenceIds n.template (· ∈ idsOf nodes)
  literal _ hmodel := (modelId_notMem_iff hnames).1
    (modelId_notMem_of_linkedKind (Node.model?_eq_some_iff.1 hmodel))

/-- It makes no difference whether the nodes that a node is linked to are linked themselves. -/
theorem linkedTo_linked_iff : LinkedTo (linked nodes) n ↔ LinkedTo nodes n := by
  constructor
  · rintro ⟨hreferences, hliteral⟩
    rw [idsOf_linked] at hreferences
    rw [staticIdsOf_linked] at hliteral
    exact ⟨hreferences, hliteral⟩
  · rintro ⟨hreferences, hliteral⟩
    refine ⟨?_, ?_⟩
    · rwa [idsOf_linked]
    · rwa [staticIdsOf_linked]

/-- **Linking nodes again changes nothing.** -/
theorem linked_linked (hnames : ∀ id ∈ idsOf nodes, isName id.toList = true) :
    linked (linked nodes) = linked nodes := by
  refine (linked_eq_self_iff (by rwa [idsOf_linked])).2 fun n hn => ?_
  obtain ⟨w, -, rfl⟩ := mem_linked.1 hn
  exact linkedTo_linked_iff.2 (linkedTo_linkedNode hnames w)

end Linked

/-- What linking makes of a node.  It changes nothing but the references and the source of the
model, it leaves one source or none by the kind, and the fields of the node with the links in them
pass all checks. -/
structure Relinks (nodes : List Node) (w n : Node) : Prop where
  kept : n = { w with kind := n.kind, references := n.references }
  isStatic : n.isStatic = w.isStatic
  source : n.raw.NamesSource
  fields : Node.ofFields (w.raw.relinked (idsOf nodes) (staticIdsOf nodes)).fields = .ok n
  linkedTo : LinkedTo nodes n

/-- **Linking is done once for all.**  Nodes that can be built, from a script or not, stay as they
are when they have been linked.  Linking keeps their number, their order, and all of each node but
its references and the source of its model; a model node has exactly one source again, and a static
node none. -/
theorem linked_once_for_all {nodes : List Node} (h : ∀ n ∈ nodes, n.Built) :
    linked (linked nodes) = linked nodes ∧
      List.Forall₂ (Relinks nodes) nodes (linked nodes) := by
  have hnames : ∀ id ∈ idsOf nodes, isName id.toList = true := by
    intro id hid
    obtain ⟨n, hn, rfl⟩ := List.mem_map.1 hid
    exact Node.isName_of_idProblem? (Node.built_iff.1 (h n hn)).id
  refine ⟨linked_linked hnames, ?_⟩
  refine List.forall₂_map_right_iff.2 (List.forall₂_same.2 fun w hw => {
    kept := rfl
    isStatic := isStatic_linkedNode
    source := ?_
    fields := (h w hw).ofFields_relinked _ _
    linkedTo := linkedTo_linkedNode hnames w })
  rw [Node.raw_linkedNode]
  exact w.namesSource_raw.relinked

/-- Nodes that come from no script.  The first refers to itself, twice to a node further down, and
to none; there are references that no text has, a model that is an output already, and a nickname
that is the id of a node which is not static. -/
def prefilledNodes : List Node := [
  { id := "ask", kind := .llm (.nickname "\x7b\x7b#pick\x7d\x7d"), children := ["late", "late"],
    template := "\x7b\x7b#late\x7d\x7d, \x7b\x7b#ask\x7d\x7d, " ++
      "\x7b\x7b#gone\x7d\x7d or \x7b\x7b#late\x7d\x7d",
    references := ["gone", "pick"], flags := ["short"] },
  { id := "late", kind := .llm (.output "gone"), line := 7, template := "\x7b\x7b#pick\x7d\x7d" },
  { id := "pick", kind := .static, line := 3, template := "late", references := ["late"] },
  { id := "more", kind := .llm (.nickname "late"), indent := 2, references := ["ask"] }]

/-- These nodes with their links. -/
def relinkedNodes : List Node := [
  { id := "ask", kind := .llm (.output "pick"), children := ["late", "late"],
    template := "\x7b\x7b#late\x7d\x7d, \x7b\x7b#ask\x7d\x7d, " ++
      "\x7b\x7b#gone\x7d\x7d or \x7b\x7b#late\x7d\x7d",
    references := ["late", "ask"], flags := ["short"] },
  { id := "late", kind := .llm (.output "gone"), line := 7, template := "\x7b\x7b#pick\x7d\x7d",
    references := ["pick"] },
  { id := "pick", kind := .static, line := 3, template := "late" },
  { id := "more", kind := .llm (.nickname "late"), indent := 2 }]

/-- These nodes can be built, and their links stay. -/
theorem linked_once_for_all_prefilled : (∀ n ∈ prefilledNodes, n.Built) ∧
    linked prefilledNodes = relinkedNodes ∧ linked relinkedNodes = relinkedNodes ∧
    List.Forall₂ (Relinks prefilledNodes) prefilledNodes relinkedNodes := by
  have hgood : ∀ n ∈ prefilledNodes, Node.idProblem? n.id = none ∧ 1 ≤ n.line := by
    decide +kernel
  have hbuilt : ∀ n ∈ prefilledNodes, n.Built := fun n hn =>
    Node.built_iff.2 ⟨(hgood n hn).1, (hgood n hn).2⟩
  have hlinked : linked prefilledNodes = relinkedNodes := by decide +kernel
  have honce := linked_once_for_all hbuilt
  rw [hlinked] at honce
  exact ⟨hbuilt, hlinked, honce.1, honce.2⟩

end Script
end PromptChain
