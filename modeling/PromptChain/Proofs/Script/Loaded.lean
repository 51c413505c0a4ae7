/-
# What a script that can be read holds

The nodes of a script have distinct ids, none of them empty, and wait for each other only: their
children and the nodes that name their models are nodes of the script, and their references are
the ids of nodes that their texts refer to (`Loaded`, `loaded_of_load`).

The reader of the entries keeps the ids it has seen and refuses one that comes again, so going
through the lines the ids of the rest are new (`Laid.fresh`).
-/
import PromptChain.Proofs.Graph.Stages
import PromptChain.Proofs.Script.Reading
import PromptChain.Script.Basic

namespace PromptChain.Script

open PromptChain.Graph PromptChain.Template PromptChain.Text

/-! ## 1. Entries -/

/-- Entries with good ids that are new and distinct. -/
structure Fresh (seen : List String) (es : List Entry) : Prop where
  nodup : (es.map (·.id)).Nodup
  unseen : ∀ e ∈ es, e.id ∉ seen
  good : ∀ e ∈ es, Node.idProblem? e.id = none

theorem Fresh.cons {seen : List String} {e : Entry} {es : List Entry}
    (h : Fresh (e.id :: seen) es) (hnew : e.id ∉ seen) (hgood : Node.idProblem? e.id = none) :
    Fresh seen (e :: es) := by
  refine ⟨?_, ?_, List.forall_mem_cons.2 ⟨hgood, h.good⟩⟩
  · rw [List.map_cons, List.nodup_cons]
    refine ⟨?_, h.nodup⟩
    intro hmem
    obtain ⟨other, hother, heq⟩ := List.mem_map.1 hmem
    exact h.unseen other hother (heq ▸ List.mem_cons_self)
  · exact List.forall_mem_cons.2 ⟨hnew, fun k hk hseen =>
      h.unseen k hk (List.mem_cons_of_mem e.id hseen)⟩

/-- **The entries of lines that are laid out are fresh.** -/
theorem Laid.fresh {seen : List String} {first : Nat} {ls : List String} {ps : List Passage}
    (h : Laid seen first ls ps) : Fresh seen (ps.map Passage.entry) := by
  induction h with
  | nil => exact ⟨List.nodup_nil, by simp, by simp⟩
  | skipped _ _ ih => exact ih
  | passage hbegins _ _ ih => exact ih.cons hbegins.new hbegins.good

/-! ## 2. Nodes -/

/-- Nodes as a script gives them. -/
structure Loaded (nodes : List Node) : Prop where
  distinct : Distinct nodes
  nonempty : ∀ n ∈ nodes, n.id ≠ ""
  children : ∀ n ∈ nodes, ∀ d ∈ n.children, d ∈ idsOf nodes
  references : ∀ n ∈ nodes,
    n.references = (referenceIds n.template).filter fun id => decide (id ∈ idsOf nodes)
  modelVariable : ∀ n ∈ nodes, ∀ id, n.modelVariable? = some id → id ∈ idsOf nodes

theorem idsOf_nodesOf (es : List Entry) : idsOf (nodesOf es) = es.map (·.id) := by
  simp [idsOf, nodesOf, Entry.toNode, Function.comp_def]

theorem mem_of_mem_childrenOf {es : List Entry} {id d : String}
    (h : d ∈ childrenOf (nestings es) id) : d ∈ es.map (·.id) := by
  obtain ⟨⟨key, parent⟩, hmem, rfl⟩ := List.mem_map.1 h
  exact (List.of_mem_zip (List.mem_filter.1 hmem).1).1

/-- The nodes of a script come from its passages. -/
theorem exists_passages {source : String} {nodes : List Node} (h : parse source = .ok nodes) :
    ∃ ps, Laid [] 1 (lines source) ps ∧ nodesOf (ps.map Passage.entry) = nodes := by
  rw [parse] at h
  cases hes : entries source with
  | error r =>
    rw [hes] at h
    cases h
  | ok es =>
    rw [hes] at h
    cases h
    obtain ⟨ps, hps, rfl⟩ := exists_laid hes
    exact ⟨ps, hps, rfl⟩

/-- The nodes of a script have distinct ids. -/
theorem Laid.distinct {ls : List String} {ps : List Passage} (h : Laid [] 1 ls ps) :
    Distinct (nodesOf (ps.map Passage.entry)) := by
  have hids : (nodesOf (ps.map Passage.entry)).map (·.id) = (ps.map Passage.entry).map (·.id) :=
    idsOf_nodesOf _
  rw [Distinct, hids]
  exact h.fresh.nodup

/-- A node of the linked nodes is a node with its links. -/
theorem mem_linked {nodes : List Node} {n : Node} :
    n ∈ linked nodes ↔ ∃ m ∈ nodes, linkedNode (idsOf nodes) (staticIdsOf nodes) m = n :=
  List.mem_map

/-- A model that is read from an output is read from a static node. -/
theorem mem_of_linkedKind {staticIds : List String} {e : Entry} {id : String}
    (h : linkedKind staticIds e.kind = .llm (.output id)) : id ∈ staticIds := by
  unfold Entry.kind at h
  split at h
  · simp only [linkedKind] at h
    split at h
    · rename_i hmem
      cases h
      exact hmem
    · cases h
  · cases h

/-- A node of the linked nodes of some entries comes from one of these. -/
theorem exists_entry {es : List Entry} {n : Node} (hn : n ∈ linked (nodesOf es)) :
    ∃ e ∈ es, n = linkedNode (es.map (·.id)) (staticIdsOf (nodesOf es))
      (e.toNode (childrenOf (nestings es) e.id)) := by
  obtain ⟨m, hm, rfl⟩ := mem_linked.1 hn
  obtain ⟨e, he, rfl⟩ := List.mem_map.1 hm
  exact ⟨e, he, by rw [idsOf_nodesOf]⟩

theorem idsOf_linked_nodesOf (es : List Entry) :
    idsOf (linked (nodesOf es)) = es.map (·.id) := by
  rw [idsOf_linked, idsOf_nodesOf]

/-- What a node takes its model from is an entry. -/
theorem mem_of_modelVariable? {es : List Entry} {n : Node} (hn : n ∈ linked (nodesOf es))
    {id : String} (hid : n.modelVariable? = some id) : id ∈ es.map (·.id) := by
  obtain ⟨e, he, rfl⟩ := exists_entry hn
  simp only [Node.modelVariable?] at hid
  split at hid
  · rename_i id' hkind
    cases hid
    obtain ⟨m, hm, rfl⟩ := List.mem_map.1 (mem_of_linkedKind (e := e) hkind)
    rw [← idsOf_nodesOf]
    exact List.mem_map_of_mem (List.mem_filter.1 hm).1
  · cases hid

/-- **The linked nodes of fresh entries are as they should be.** -/
theorem Fresh.loaded {es : List Entry} (h : Fresh [] es) : Loaded (linked (nodesOf es)) where
  distinct := by
    rw [Distinct, show (linked (nodesOf es)).map (·.id) = es.map (·.id) from idsOf_linked_nodesOf es]
    exact h.nodup
  nonempty n hn hempty := by
    obtain ⟨e, he, rfl⟩ := exists_entry hn
    have hgood := h.good e he
    rw [show e.id = "" from hempty] at hgood
    simp [Node.idProblem?] at hgood
  children n hn d hd := by
    obtain ⟨e, he, rfl⟩ := exists_entry hn
    rw [idsOf_linked_nodesOf]
    exact mem_of_mem_childrenOf hd
  references n hn := by
    obtain ⟨e, he, rfl⟩ := exists_entry hn
    rw [idsOf_linked_nodesOf]
    rfl
  modelVariable n hn id hid := by
    rw [idsOf_linked_nodesOf]
    exact mem_of_modelVariable? hn hid

theorem load_eq_ok_iff {source : String} {nodes : List Node} :
    load source = .ok nodes ↔ ∃ written, parse source = .ok written ∧ linked written = nodes := by
  rw [load]
  cases parse source <;> simp [Except.map]

/-- **The nodes of a script that can be read are as they should be.** -/
theorem loaded_of_load {source : String} {nodes : List Node} (h : load source = .ok nodes) :
    Loaded nodes := by
  obtain ⟨written, hparse, rfl⟩ := load_eq_ok_iff.1 h
  obtain ⟨ps, hps, rfl⟩ := exists_passages hparse
  exact hps.fresh.loaded

namespace Loaded

variable {nodes : List Node}

/-- A node waits for nodes of the script only. -/
theorem dependencies (h : Loaded nodes) {n : Node} (hn : n ∈ nodes) {d : String}
    (hd : d ∈ n.dependencies) : d ∈ idsOf nodes := by
  rcases Node.mem_dependencies.1 hd with hd | hd | ⟨hd, _⟩
  · exact h.children n hn d hd
  · rw [h.references n hn] at hd
    exact of_decide_eq_true (List.mem_filter.1 hd).2
  · exact h.modelVariable n hn d hd

/-- A model is not read from an id without letters. -/
theorem modelVariable?_ne (h : Loaded nodes) {n : Node} (hn : n ∈ nodes) :
    n.modelVariable? ≠ some "" := by
  intro hvar
  obtain ⟨m, hm, hid⟩ := List.mem_map.1 (h.modelVariable n hn "" hvar)
  exact h.nonempty m hm hid

end Loaded

/-! ## 3. A script that is read -/

theorem eq_ok_of_toOption {ε α : Type} {e : Except ε α} {a : α} (h : e.toOption = some a) :
    e = .ok a := by
  cases e with
  | error r => cases h
  | ok b => exact congrArg Except.ok (Option.some.inj h)

/-- A script whose second node is sent to the model that the first names, after the third. -/
def relayScript : String :=
  "#model = flash\n" ++
  "#draft model +history: About \x7b\x7bINPUT\x7d\x7d, by \x7b\x7b#model\x7d\x7d\n" ++
  "  #note = short"

/-- The nodes of that script. -/
def relayNodes : List Node := [
  { id := "model", kind := .static, template := "flash" },
  { id := "draft", kind := .llm (.output "model"), line := 2, children := ["note"],
    template := "About \x7b\x7bINPUT\x7d\x7d, by \x7b\x7b#model\x7d\x7d",
    references := ["model"], flags := ["history"] },
  { id := "note", kind := .static, template := "short", indent := 1, line := 3 }]

theorem load_relayScript : load relayScript = .ok relayNodes :=
  eq_ok_of_toOption (by decide +kernel)

end PromptChain.Script
