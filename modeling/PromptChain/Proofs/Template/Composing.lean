/-
# What a prompt holds

A prompt is put together from two sides.  A reference in a node's text gives way to an output, and
the outputs of the children that the text does not refer to are set before it, in the order of the
children and with blank lines between.  A child is always on one side or the other, and the node
refers to nothing that is not in its text; so the output of whatever the node waits for, its model
apart, is somewhere in the prompt (`Complete`).
-/
import PromptChain.Proofs.Template.References
import Mathlib.Data.List.Infix

namespace PromptChain

open PromptChain.Text PromptChain.Template

/-! ## 1. Texts put together -/

namespace Text

/-- Each of some texts is in what they are joined to. -/
theorem infix_joined {separator s : String} {texts : List String} (h : s ∈ texts) :
    s.toList <:+: (joined separator texts).toList := by
  induction texts with
  | nil => exact absurd h List.not_mem_nil
  | cons first rest ih =>
    cases rest with
    | nil => rw [List.mem_singleton.1 h, joined_singleton]
    | cons second more =>
      rw [joined_cons_cons, String.toList_append, String.toList_append]
      rcases List.mem_cons.1 h with rfl | h
      · exact ⟨[], separator.toList ++ (joined separator (second :: more)).toList, by simp⟩
      · exact (ih h).trans (List.suffix_append _ _).isInfix

end Text

namespace Context

/-- What is between two texts that are set apart: a blank line, if neither is empty. -/
def gap (first second : String) : String := if first = "" ∨ second = "" then "" else "\n\n"

theorem apart_eq (first second : String) :
    apart first second = first ++ gap first second ++ second := by
  simp only [apart, gap, String.isEmpty_iff]
  by_cases hfirst : first = ""
  · simp [hfirst]
  · by_cases hsecond : second = "" <;> simp [hfirst, hsecond]

theorem infix_apart (first second : String) :
    first.toList <:+: (apart first second).toList ∧
      second.toList <:+: (apart first second).toList := by
  rw [apart_eq, String.toList_append, String.toList_append]
  exact ⟨(List.prefix_append _ _).isInfix.trans (List.prefix_append _ _).isInfix,
    (List.suffix_append _ _).isInfix⟩

end Context

/-! ## 2. Complete prompts -/

/-- The children of a node whose references do not stand in its text, in their order. -/
def Node.unmentioned (n : Node) : List String :=
  n.children.filter fun id => decide (¬ reference id <:+: n.template.toList)

/-- **Whether a prompt holds all that a node's text and children bring into it.**  The output of each
child and each reference is somewhere in it.  It begins with the outputs of the children that are not
mentioned in the text, each once, in their order and with blank lines between; it ends with the
resolved text; and between these two is a gap and nothing else. -/
structure Context.Complete (c : Context) (n : Node) (prompt : String) : Prop where
  held : ∀ id, id ∈ n.children ∨ id ∈ n.references →
    ∃ output, c.outputs.get? id = some output ∧ output.toList <:+: prompt.toList
  once : n.unmentioned.Nodup
  parts : ∃ outputs text,
    List.Forall₂ (fun id output => c.outputs.get? id = some output) n.unmentioned outputs ∧
    c.resolve n.template n.references = .ok text ∧
    prompt = joined "\n\n" outputs ++ gap (joined "\n\n" outputs) text ++ text

namespace Script

variable {source : String} {nodes : List Node} {n : Node}

/-- No node of a script is a child twice. -/
theorem nodup_children_of_load (h : load source = .ok nodes) (hn : n ∈ nodes) :
    n.children.Nodup := by
  obtain ⟨written, hparse, rfl⟩ := load_eq_ok_iff.1 h
  obtain ⟨w, hw, rfl⟩ := mem_linked.1 hn
  exact (written_of_parse hparse).children w hw

/-- The children that a node of a script does not refer to are those whose references do not stand
in its text. -/
theorem filter_children_of_load (h : load source = .ok nodes) (hn : n ∈ nodes) :
    (n.children.filter fun id => decide (id ∉ n.references)) = n.unmentioned := by
  refine List.filter_congr fun id hid => ?_
  have hknown : id ∈ idsOf nodes := (loaded_of_load h).children n hn id hid
  simp [mem_references_iff h hn, hknown]

/-- **The value of every child and every reference is in the prompt**: a child that is not mentioned
is at the front, and all else is referred to in the text. -/
theorem infix_prompt (h : load source = .ok nodes) (hn : n ∈ nodes) {id : String}
    (hid : id ∈ n.children ∨ id ∈ n.references) (input : String) (value : String → String) :
    (value id).toList <:+: (Context.apart
      (joined "\n\n" ((n.children.filter fun d => decide (d ∉ n.references)).map value))
      (substituted input n.references value n.template)).toList := by
  obtain ⟨hfront, htext⟩ := Context.infix_apart
    (joined "\n\n" ((n.children.filter fun d => decide (d ∉ n.references)).map value))
    (substituted input n.references value n.template)
  by_cases hmentioned : id ∈ n.references
  · obtain ⟨hknown, hstands⟩ := (mem_references_iff h hn).1 hmentioned
    exact (Context.infix_substituted (isName_of_load h hknown) hmentioned hstands input value).trans
      htext
  · have hin : id ∈ n.children.filter fun d => decide (d ∉ n.references) :=
      List.mem_filter.2 ⟨hid.resolve_right hmentioned, decide_eq_true hmentioned⟩
    exact (infix_joined (List.mem_map_of_mem hin)).trans hfront

/-- **No output is lost in a prompt.**  When the outputs of its children and references are stored,
a node of a script has a prompt, and that is complete. -/
theorem prompt_complete (hload : load source = .ok nodes) (hn : n ∈ nodes) {c : Context}
    (hstored : ∀ id, id ∈ n.children ∨ id ∈ n.references → id ∈ c.outputs.ids) :
    ∃ prompt, c.prompt n = .ok prompt ∧ c.Complete n prompt := by
  obtain ⟨value, hget⟩ : ∃ value : String → String, ∀ id, id ∈ n.children ∨ id ∈ n.references →
      c.outputs.get? id = some (value id) :=
    ⟨fun id => (c.outputs.get? id).getD "", fun id hid =>
      Store.get?_eq_some_getD (hstored id hid) ""⟩
  have hreferences := fun id hid => hget id (.inr hid)
  have hunmentioned : ∀ id ∈ n.unmentioned, c.outputs.get? id = some (value id) :=
    fun id hid => hget id (.inl (List.mem_filter.1 hid).1)
  refine ⟨_, Context.prompt_of_stored (fun id hid => hget id (.inl hid)) hreferences,
    fun id hid => ⟨_, hget id hid, infix_prompt hload hn hid c.input value⟩,
    (nodup_children_of_load hload hn).filter _, _, _,
    List.forall₂_map_right_iff.2 (List.forall₂_same.2 hunmentioned),
    Context.resolve_eq_substituted hreferences n.template, ?_⟩
  rw [filter_children_of_load hload hn, Context.apart_eq]

/-- A script whose first node has three children and refers to the second of them. -/
def nestedScript : String :=
  "#ask flash: On \x7b\x7bINPUT\x7d\x7d use \x7b\x7b#b\x7d\x7d.\n" ++
  "  #a = one\n" ++
  "  #b = two\n" ++
  "  #c = three"

/-- The nodes of that script. -/
def nestedNodes : List Node := [
  { id := "ask", kind := .llm (.nickname "flash"), children := ["a", "b", "c"],
    template := "On \x7b\x7bINPUT\x7d\x7d use \x7b\x7b#b\x7d\x7d.", references := ["b"] },
  { id := "a", kind := .static, template := "one", indent := 1, line := 2 },
  { id := "b", kind := .static, template := "two", indent := 1, line := 3 },
  { id := "c", kind := .static, template := "three", indent := 1, line := 4 }]

/-- Two children have the same output, and that contains the output of the third. -/
theorem prompt_complete_nested :
    let c : Context := ⟨⟨[("a", "an ice"), ("b", "ice"), ("c", "an ice")]⟩, "rain"⟩
    load nestedScript = .ok nestedNodes ∧ ∃ n ∈ nestedNodes, n.id = "ask" ∧
      (∀ id, id ∈ n.children ∨ id ∈ n.references → id ∈ c.outputs.ids) ∧
      n.unmentioned = ["a", "c"] ∧
      c.prompt n = .ok "an ice\n\nan ice\n\nOn rain use ice." ∧
      c.Complete n "an ice\n\nan ice\n\nOn rain use ice." := by
  intro c
  have hload : load nestedScript = .ok nestedNodes := eq_ok_of_toOption (by decide +kernel)
  have hask : nestedNodes[0] ∈ nestedNodes := List.getElem_mem _
  have hall : ∀ id ∈ nestedNodes[0].children ++ nestedNodes[0].references, id ∈ c.outputs.ids := by
    decide
  have hstored : ∀ id, id ∈ nestedNodes[0].children ∨ id ∈ nestedNodes[0].references →
      id ∈ c.outputs.ids := fun id hid => hall id (List.mem_append.2 hid)
  have hprompt : c.prompt nestedNodes[0] = .ok "an ice\n\nan ice\n\nOn rain use ice." := by
    decide +kernel
  obtain ⟨prompt, heq, hcomplete⟩ := prompt_complete hload hask hstored
  cases hprompt.symm.trans heq
  exact ⟨hload, _, hask, rfl, hstored, by decide +kernel, hprompt, hcomplete⟩

end Script
end PromptChain
