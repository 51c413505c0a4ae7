/-
# What a text becomes

Substitution goes over the pieces of a text and stops where an output is missing.  When no output
is missing it does not matter that it could stop: the text becomes its pieces written out again,
every placeholder at once, with a value in place of each (`resolve_eq_substituted`).  So a node
all of whose dependencies have outputs has its text (`staticText_eq_substituted`, `exists_prompt`).

A text is scanned twice, for its placeholders and for its references alone.  Both scans find the
same references (`outputs_pieces`), because no reference begins inside the placeholder of the
input.
-/
import PromptChain.Template.Context

namespace PromptChain

open PromptChain.Text PromptChain.Template

/-! ## 1. Two scans -/

namespace Template

/-- The id that a placeholder refers to. -/
def Placeholder.outputId? : Placeholder → Option String
  | .input => none
  | .output id => some id

theorem marks_cons_plain {α : Type} (c : Char) (ps : List (Piece α)) :
    marks (.plain c :: ps) = marks ps := rfl

theorem marks_cons_mark {α : Type} (what : α) (ps : List (Piece α)) :
    marks (.mark what :: ps) = what :: marks ps := rfl

/-- No reference begins inside the placeholder of the input. -/
theorem marks_references_input (tail : List Char) :
    marks (scan referenceAt? (fun id => (reference id).length)
      (Placeholder.input.written ++ tail)) =
      marks (scan referenceAt? (fun id => (reference id).length) tail) := by
  have hwritten : Placeholder.input.written ++ tail =
      '\x7b' :: '\x7b' :: 'I' :: 'N' :: 'P' :: 'U' :: 'T' :: '\x7d' :: '\x7d' :: tail := rfl
  have hplain : ∀ c rest, referenceAt? (c :: rest) = none →
      marks (scan referenceAt? (fun id => (reference id).length) (c :: rest)) =
        marks (scan referenceAt? (fun id => (reference id).length) rest) := by
    intro c rest hnone
    rw [scan_cons_none hnone, marks_cons_plain]
  rw [hwritten]
  iterate 9 rw [hplain _ _ (by simp [referenceAt?, strip?, opening])]

/-- **Both scans find the same references.** -/
theorem outputs_pieces (template : String) :
    (marks (pieces template)).filterMap Placeholder.outputId? = references template := by
  have hall : ∀ (k : Nat) (cs : List Char), cs.length = k →
      (marks (scan Placeholder.at? Placeholder.width cs)).filterMap Placeholder.outputId? =
        marks (scan referenceAt? (fun id => (reference id).length) cs) := by
    intro k
    induction k using Nat.strongRecOn with
    | _ k ih =>
      intro cs hk
      cases cs with
      | nil => rfl
      | cons c rest =>
        have hshorter : ∀ n, (rest.drop n).length < k := by
          intro n
          rw [List.length_drop, ← hk, List.length_cons]
          omega
        cases hinput : strip? Placeholder.input.written (c :: rest) with
        | some tail =>
          have hat : Placeholder.at? (c :: rest) = some .input := by
            simp only [Placeholder.at?, hinput]
          have hcs := strip?_eq_some_iff.1 hinput
          have hdrop : rest.drop (Placeholder.input.width - 1) = tail :=
            (List.drop_succ_cons ..).symm.trans (hcs ▸ List.drop_left)
          rw [scan_cons_some hat, marks_cons_mark, hdrop, hcs, marks_references_input]
          exact ih _ (hdrop ▸ hshorter _) tail rfl
        | none =>
          cases href : referenceAt? (c :: rest) with
          | none =>
            have hat : Placeholder.at? (c :: rest) = none := by
              simp only [Placeholder.at?, hinput, href, Option.map_none]
            rw [scan_cons_none hat, scan_cons_none href, marks_cons_plain, marks_cons_plain]
            exact ih _ (hshorter 0) rest rfl
          | some id =>
            have hat : Placeholder.at? (c :: rest) = some (.output id) := by
              simp only [Placeholder.at?, hinput, href, Option.map_some]
            rw [scan_cons_some hat, scan_cons_some href, marks_cons_mark, marks_cons_mark]
            exact congrArg (id :: ·) (ih _ (hshorter _) _ rfl)
  exact hall _ _ rfl

/-- A placeholder of a text that stands for an output is one of the text's references. -/
theorem mem_referenceIds_of_mark {template id : String}
    (h : Piece.mark (.output id) ∈ pieces template) : id ∈ referenceIds template := by
  rw [mem_referenceIds, ← outputs_pieces, List.mem_filterMap]
  exact ⟨.output id, List.mem_filterMap.2 ⟨_, h, rfl⟩, rfl⟩

/-! ## 2. All at once -/

/-- A text with all its placeholders replaced at once: that of the input by the input, and every
reference to a known id by the value of the id. -/
def substituted (input : String) (known : List String) (value : String → String)
    (template : String) : String :=
  String.ofList <| written
    (fun
      | .input => input.toList
      | .output id => if id ∈ known then (value id).toList else reference id)
    (pieces template)

/-- A text becomes the same when the same of its references are known and have the same values. -/
theorem substituted_congr {input template : String} {known known' : List String}
    {value value' : String → String}
    (hknown : ∀ id ∈ referenceIds template, id ∈ known ↔ id ∈ known')
    (hvalue : ∀ id ∈ referenceIds template, id ∈ known → value id = value' id) :
    substituted input known value template = substituted input known' value' template := by
  refine congrArg String.ofList ?_
  simp only [written, List.flatMap_def]
  refine congrArg List.flatten (List.map_congr_left fun p hp => ?_)
  cases p with
  | plain c => rfl
  | mark p =>
    cases p with
    | input => rfl
    | output id =>
      have hid := mem_referenceIds_of_mark hp
      by_cases hmem : id ∈ known
      · simp only [hmem, (hknown id hid).1 hmem, if_true, hvalue id hid hmem]
      · have hnot : id ∉ known' := fun h => hmem ((hknown id hid).2 h)
        simp only [hmem, hnot, if_false]

end Template

namespace Context

variable {c : Context} {value : String → String}

/-- Replacing the placeholders of some pieces when no output is missing. -/
theorem fill_eq_written {allowed : List String}
    (h : ∀ id ∈ allowed, c.outputs.get? id = some (value id)) (start : Nat)
    (ps : List (Piece Placeholder)) :
    c.fill allowed start ps = .ok (written
      (fun
        | .input => c.input.toList
        | .output id => if id ∈ allowed then (value id).toList else reference id) ps) := by
  induction ps generalizing start with
  | nil => rfl
  | cons p rest ih =>
    cases p with
    | plain ch => simp only [fill, ih]; rfl
    | mark p =>
      cases p with
      | input => simp only [fill, Context.value, ih]; rfl
      | output id =>
        by_cases hid : id ∈ allowed
        · simp [fill, Context.value, hid, h id hid, ih, written]
        · simp [fill, Context.value, hid, ih, written]

/-- **When no output is missing, every placeholder is replaced at once.** -/
theorem resolve_eq_substituted {allowed : List String}
    (h : ∀ id ∈ allowed, c.outputs.get? id = some (value id)) (template : String) :
    c.resolve template allowed = .ok (substituted c.input allowed value template) := by
  simp only [resolve, fill_eq_written h]
  rfl

theorem outputsOf_eq_map {ids : List String}
    (h : ∀ id ∈ ids, c.outputs.get? id = some (value id)) : c.outputsOf ids = .ok (ids.map value) := by
  induction ids with
  | nil => rfl
  | cons id rest ih =>
    have hrest := ih fun other hmem => h other (List.mem_cons_of_mem id hmem)
    simp only [outputsOf, h id List.mem_cons_self, hrest, List.map_cons]

/-! ## 3. The texts of a node -/

/-- A static node has a text when the outputs of its dependencies are stored. -/
theorem staticText_eq_substituted {n : Node}
    (h : ∀ d ∈ n.dependencies, c.outputs.get? d = some (value d)) :
    c.staticText n = .ok (substituted c.input n.references value n.template) :=
  resolve_eq_substituted (fun d hd => h d (Node.mem_dependencies_of_mem_references hd)) n.template

/-- **A model node's prompt is its text after the outputs of the children it does not refer to**,
when the outputs of its children and references are stored. -/
theorem prompt_of_stored {n : Node} (hchildren : ∀ d ∈ n.children, c.outputs.get? d = some (value d))
    (hreferences : ∀ d ∈ n.references, c.outputs.get? d = some (value d)) :
    c.prompt n = .ok (apart
      (joined "\n\n" ((n.children.filter fun d => decide (d ∉ n.references)).map value))
      (substituted c.input n.references value n.template)) := by
  have hunmentioned : ∀ d ∈ n.children.filter fun d => decide (d ∉ n.references),
      c.outputs.get? d = some (value d) := fun d hd => hchildren d (List.mem_filter.1 hd).1
  simp only [prompt, compose, resolve_eq_substituted hreferences, outputsOf_eq_map hunmentioned]

/-- A model node has a prompt when the outputs of its dependencies are stored. -/
theorem exists_prompt {n : Node} (h : ∀ d ∈ n.dependencies, c.outputs.get? d = some (value d)) :
    ∃ prompt, c.prompt n = .ok prompt :=
  ⟨_, prompt_of_stored (fun d hd => h d (Node.mem_dependencies_of_mem_children hd))
    fun d hd => h d (Node.mem_dependencies_of_mem_references hd)⟩

end Context
end PromptChain
