/-
# Substitution

A context holds what placeholders stand for: the outputs stored so far and the input of the run.
Resolving a text replaces all its placeholders at once, so text that comes out of the input or of
an output is never searched again, and an id that begins like another cannot disturb it.

* `INPUT` becomes the input.
* A reference to an id that is not among the allowed dependencies stays as it is.
* A reference to an allowed id becomes the stored output; when nothing is stored the whole text
  fails, at the place of the first such reference.

The prompt of a model node is its resolved text with the outputs of its children in front, each
set off by a blank line.  Children that the node also refers to are not repeated; when the joined
outputs or the resolved text are empty, the other side stands alone.
-/
import PromptChain.Store
import PromptChain.Template.Placeholder

namespace PromptChain

/-- Why a text cannot be resolved. -/
inductive TemplateError where
  /-- A reference to an allowed dependency that has no output. -/
  | noOutput (id template : String) (place : Nat)
  /-- A child without output. -/
  | noNestedOutput (id template : String)
  deriving DecidableEq, Repr

namespace TemplateError

/-- The sentence for an error. -/
def message : TemplateError → String
  | noOutput id _ _ => "No output available for dependency '" ++ id ++ "'"
  | noNestedOutput id _ => "No output available for nested node '" ++ id ++ "'"

/-- The text that could not be resolved. -/
def template : TemplateError → String
  | noOutput _ template _ => template
  | noNestedOutput _ template => template

/-- The place of the reference that failed. -/
def place? : TemplateError → Option Nat
  | noOutput _ _ place => some place
  | noNestedOutput _ _ => none

end TemplateError

/-- What placeholders stand for. -/
structure Context where
  outputs : Store String
  input : String

namespace Context

open PromptChain.Text PromptChain.Template

/-! ## 1. Resolving a text -/

/-- What a placeholder becomes, or the id whose output is missing. -/
def value (c : Context) (allowed : List String) : Placeholder → Except String (List Char)
  | .input => .ok c.input.toList
  | .output id =>
    if id ∈ allowed then
      match c.outputs.get? id with
      | some text => .ok text.toList
      | none => .error id
    else .ok (reference id)

/-- Replaces the placeholders of some pieces, the first of which begins at a given place. -/
def fill (c : Context) (allowed : List String) :
    Nat → List (Piece Placeholder) → Except (String × Nat) (List Char)
  | _, [] => .ok []
  | start, .plain ch :: rest =>
    match c.fill allowed (start + 1) rest with
    | .ok text => .ok (ch :: text)
    | .error fault => .error fault
  | start, .mark p :: rest =>
    match c.value allowed p with
    | .error id => .error (id, start)
    | .ok text => match c.fill allowed (start + p.width) rest with
      | .ok more => .ok (text ++ more)
      | .error fault => .error fault

/-- A text with its placeholders replaced; only references to allowed ids are. -/
def resolve (c : Context) (template : String) (allowed : List String) :
    Except TemplateError String :=
  match c.fill allowed 0 (pieces template) with
  | .ok text => .ok (String.ofList text)
  | .error (id, place) => .error (.noOutput id template place)

/-! ## 2. Composing a prompt -/

/-- The stored outputs of some nodes, or the first id without one. -/
def outputsOf (c : Context) : List String → Except String (List String)
  | [] => .ok []
  | id :: rest =>
    match c.outputs.get? id with
    | none => .error id
    | some text => match c.outputsOf rest with
      | .ok texts => .ok (text :: texts)
      | .error missing => .error missing

/-- Two texts with a blank line between them, if neither is empty. -/
def apart (first second : String) : String :=
  if first.isEmpty then second
  else if second.isEmpty then first
  else first ++ "\n\n" ++ second

/-- A resolved text with the outputs of the children it does not refer to in front. -/
def compose (c : Context) (template : String) (references children : List String) :
    Except TemplateError String :=
  match c.resolve template references with
  | .error e => .error e
  | .ok prompt =>
    match c.outputsOf (children.filter fun id => decide (id ∉ references)) with
    | .error id => .error (.noNestedOutput id template)
    | .ok texts => .ok (apart (joined "\n\n" texts) prompt)

/-! ## 3. The text of a node -/

/-- The output of a static node. -/
def staticText (c : Context) (n : Node) : Except TemplateError String :=
  c.resolve n.template n.references

/-- The prompt of a model node. -/
def prompt (c : Context) (n : Node) : Except TemplateError String :=
  c.compose n.template n.references n.children

/-- **Only allowed ids matter**: contexts that agree on them resolve a text alike. -/
theorem fill_congr {c d : Context} (hinput : c.input = d.input) {allowed : List String}
    (h : ∀ id ∈ allowed, c.outputs.get? id = d.outputs.get? id) (start : Nat)
    (ps : List (Piece Placeholder)) : c.fill allowed start ps = d.fill allowed start ps := by
  have hvalue : ∀ p, c.value allowed p = d.value allowed p := by
    intro p
    cases p with
    | input => simp [value, hinput]
    | output id =>
      by_cases hid : id ∈ allowed
      · simp [value, hid, h id hid]
      · simp [value, hid]
  induction ps generalizing start with
  | nil => rfl
  | cons p rest ih => cases p <;> simp [fill, hvalue, ih]

end Context
end PromptChain
