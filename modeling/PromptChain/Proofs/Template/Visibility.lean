/-
# What a node sees

The text and the prompt of a node depend on the outputs of its children and of its references, and
on no others.  A placeholder for any other id stays as it is, whether or not something is stored for
that id, so what is stored for it cannot come through (`prompt_congr`, `staticText_congr`).

Not everything that a node sees has to be there.  A reference is looked up where it stands in the
text, and a child only when it is not a reference; so a node has a prompt exactly when the outputs
of these ids are stored (`exists_prompt_iff`).  Nothing is assumed of the node here: a child may be
listed twice, and a reference need not stand in the text.
-/
import PromptChain.Proofs.Template.Replacement

namespace PromptChain

open PromptChain.Template

/-! ## 1. What is read of the outputs -/

namespace Node

/-- Whether a node sees the output of an id, which is a child of it or one of its references. -/
def Sees (n : Node) (id : String) : Prop := id ∈ n.children ∨ id ∈ n.references

/-- Whether a reference to an id stands in the text of a node. -/
def Mentions (n : Node) (id : String) : Prop :=
  ∃ place, (Occurrence.mk (.output id) place).StandsIn n.template.toList

/-- What a node sees it waits for. -/
theorem Sees.mem_dependencies {n : Node} {id : String} (h : n.Sees id) : id ∈ n.dependencies :=
  h.elim mem_dependencies_of_mem_children mem_dependencies_of_mem_references

end Node

namespace Context

section Congruence

variable {c d : Context} {n : Node}

theorem resolve_congr (hinput : c.input = d.input) {allowed : List String}
    (h : ∀ id ∈ allowed, c.outputs.get? id = d.outputs.get? id) (template : String) :
    c.resolve template allowed = d.resolve template allowed := by
  rw [resolve, resolve, fill_congr hinput h]

theorem outputsOf_congr {ids : List String}
    (h : ∀ id ∈ ids, c.outputs.get? id = d.outputs.get? id) :
    c.outputsOf ids = d.outputsOf ids := by
  induction ids with
  | nil => rfl
  | cons id rest ih =>
    have hrest := ih fun other hmem => h other (List.mem_cons_of_mem id hmem)
    simp only [outputsOf, h id List.mem_cons_self, hrest]

/-- **The text of a node depends on the outputs that the node sees**, and so does the error when it
has none. -/
theorem staticText_congr (hinput : c.input = d.input)
    (h : ∀ id, n.Sees id → c.outputs.get? id = d.outputs.get? id) :
    c.staticText n = d.staticText n :=
  resolve_congr hinput (fun id hid => h id (.inr hid)) n.template

/-- **The prompt of a node depends on the outputs that the node sees**, and so does the error when
it has none. -/
theorem prompt_congr (hinput : c.input = d.input)
    (h : ∀ id, n.Sees id → c.outputs.get? id = d.outputs.get? id) : c.prompt n = d.prompt n := by
  have htext : c.resolve n.template n.references = d.resolve n.template n.references :=
    resolve_congr hinput (fun id hid => h id (.inr hid)) n.template
  have hfront : c.outputsOf (n.children.filter fun id => decide (id ∉ n.references)) =
      d.outputsOf (n.children.filter fun id => decide (id ∉ n.references)) :=
    outputsOf_congr fun id hid => h id (.inl (List.mem_filter.1 hid).1)
  rw [prompt, prompt, compose, compose, htext, hfront]

end Congruence

/-! ## 2. What has to be stored -/

section Success

variable {c : Context} {n : Node}

/-- Some nodes have outputs when each of them has. -/
theorem exists_outputsOf_iff {ids : List String} :
    (∃ texts, c.outputsOf ids = .ok texts) ↔ ∀ id ∈ ids, id ∈ c.outputs.ids := by
  induction ids with
  | nil => simp [outputsOf]
  | cons id rest ih =>
    rw [List.forall_mem_cons, ← ih, Store.mem_ids_iff, outputsOf]
    cases c.outputs.get? id with
    | none => simp
    | some text => cases c.outputsOf rest <;> simp

/-- A text can be resolved when nothing is lacking where a reference stands in it. -/
theorem exists_resolve_iff {template : String} {allowed : List String} :
    (∃ text, c.resolve template allowed = .ok text) ↔ ∀ id ∈ allowed,
      (∃ place, (Occurrence.mk (.output id) place).StandsIn template.toList) →
        id ∈ c.outputs.ids := by
  constructor
  · rintro ⟨text, htext⟩ id hid ⟨place, hstands⟩
    by_contra hnot
    have hlacks : c.Lacks allowed (.output id) := ⟨id, hid, rfl, Store.get?_eq_none_iff.2 hnot⟩
    exact (resolve_eq_ok_iff.1 htext).not_lacks hstands hlacks
  · intro h
    cases htext : c.resolve template allowed with
    | ok text => exact ⟨text, rfl⟩
    | error e =>
      obtain ⟨id, place, -, hfirst⟩ := resolve_eq_error_iff.1 htext
      obtain ⟨id, hid, ⟨⟩, hnone⟩ := hfirst.lacks
      exact absurd (h id hid ⟨place, hfirst.stands⟩) (Store.get?_eq_none_iff.1 hnone)

/-- A prompt is made of two sides, and there is one when there are both. -/
theorem exists_compose_iff {template : String} {references children : List String} :
    (∃ prompt, c.compose template references children = .ok prompt) ↔
      (∃ text, c.resolve template references = .ok text) ∧
        ∃ texts, c.outputsOf (children.filter fun id => decide (id ∉ references)) = .ok texts := by
  rw [compose]
  cases c.resolve template references with
  | error e => simp
  | ok text =>
    cases c.outputsOf (children.filter fun id => decide (id ∉ references)) <;> simp

/-- **A node has a prompt exactly when nothing is lacking**: neither a child that is not a
reference, nor a reference that stands in the text. -/
theorem exists_prompt_iff : (∃ prompt, c.prompt n = .ok prompt) ↔
    (∀ id ∈ n.children, id ∉ n.references → id ∈ c.outputs.ids) ∧
      ∀ id ∈ n.references, n.Mentions id → id ∈ c.outputs.ids := by
  rw [prompt, exists_compose_iff, exists_resolve_iff, exists_outputsOf_iff, and_comm]
  refine and_congr_left fun _ => ?_
  simp only [List.mem_filter, decide_eq_true_eq, and_imp]

end Success

/-- **A node sees its children and references only.** On stores that agree on these, it has the same
text and the same prompt, or the same error instead.  It has a prompt exactly when the children that
are not references are stored, and the references that stand in its text. -/
theorem node_sees_dependencies (n : Node) (input : String) :
    (∀ o o' : Store String,
      (∀ id, id ∈ n.children ∨ id ∈ n.references → o.get? id = o'.get? id) →
      Context.prompt ⟨o, input⟩ n = Context.prompt ⟨o', input⟩ n ∧
      Context.staticText ⟨o, input⟩ n = Context.staticText ⟨o', input⟩ n) ∧
    ∀ o : Store String, (∃ prompt, Context.prompt ⟨o, input⟩ n = .ok prompt) ↔
      (∀ id ∈ n.children, id ∉ n.references → id ∈ o.ids) ∧
        ∀ id ∈ n.references, n.Mentions id → id ∈ o.ids := by
  refine ⟨fun o o' hagree => ?_, fun o => exists_prompt_iff⟩
  exact ⟨prompt_congr rfl hagree, staticText_congr rfl hagree⟩

/-- A node whose child `b` is listed twice and is a reference as well, that refers to a `d` which
does not stand in its text, and whose text has a placeholder for a `c` it does not wait for. -/
def sightedNode : Node :=
  { id := "ask", kind := .llm (.nickname "flash"), children := ["a", "b", "b"],
    template := "\x7b\x7b#b\x7d\x7d or \x7b\x7b#c\x7d\x7d", references := ["b", "d"] }

/-- Stores that differ on `c` give that node one prompt, and without `b` or `a` one error. -/
theorem node_sees_dependencies_sighted :
    (∀ id, id ∈ sightedNode.children ∨ id ∈ sightedNode.references →
      Store.get? ⟨[("a", "rain"), ("b", "ice")]⟩ id =
        Store.get? ⟨[("c", "snow"), ("b", "ice"), ("a", "rain")]⟩ id) ∧
    (∀ id, id ∈ sightedNode.children ∨ id ∈ sightedNode.references →
      Store.get? ⟨[("b", "ice")]⟩ id = Store.get? ⟨[("c", "snow"), ("b", "ice")]⟩ id) ∧
    Context.prompt ⟨⟨[("a", "rain"), ("b", "ice")]⟩, ""⟩ sightedNode =
      .ok "rain\n\nice or \x7b\x7b#c\x7d\x7d" ∧
    Context.prompt ⟨⟨[("c", "snow"), ("b", "ice"), ("a", "rain")]⟩, ""⟩ sightedNode =
      .ok "rain\n\nice or \x7b\x7b#c\x7d\x7d" ∧
    Context.prompt ⟨⟨[("c", "snow"), ("b", "ice")]⟩, ""⟩ sightedNode =
      .error (.noNestedOutput "a" sightedNode.template) := by
  have hseen : ∀ o o' : Store String, (∀ id ∈ ["a", "b", "d"], o.get? id = o'.get? id) →
      ∀ id, id ∈ sightedNode.children ∨ id ∈ sightedNode.references → o.get? id = o'.get? id := by
    intro o o' h id hid
    refine h id ?_
    simp only [sightedNode, List.mem_cons, List.not_mem_nil, or_false] at hid ⊢
    tauto
  have hagree := hseen ⟨[("a", "rain"), ("b", "ice")]⟩
    ⟨[("c", "snow"), ("b", "ice"), ("a", "rain")]⟩ (by decide)
  have hlacking := hseen ⟨[("b", "ice")]⟩ ⟨[("c", "snow"), ("b", "ice")]⟩ (by decide)
  have hsees := (node_sees_dependencies sightedNode "").1
  have hprompt : Context.prompt ⟨⟨[("a", "rain"), ("b", "ice")]⟩, ""⟩ sightedNode =
      .ok "rain\n\nice or \x7b\x7b#c\x7d\x7d" := by decide +kernel
  have herror : Context.prompt ⟨⟨[("b", "ice")]⟩, ""⟩ sightedNode =
      .error (.noNestedOutput "a" sightedNode.template) := by decide +kernel
  refine ⟨hagree, hlacking, hprompt, ?_, ?_⟩
  · rw [← (hsees _ _ hagree).1, hprompt]
  · rw [← (hsees _ _ hlacking).1, herror]

end Context
end PromptChain
