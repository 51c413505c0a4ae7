/-
# Nodes from forms

`Node.ofFields` builds a node from named raw values.  Every field has its own check; only when
all of them pass is the last rule looked at, that a model node names exactly one source of its
model and a static node none.
-/
import PromptChain.Node.Basic
import PromptChain.Form.Field
import PromptChain.Text.WordChar

namespace PromptChain.Node

open PromptChain.Form

/-- The most characters an id may have. -/
def idLimit : Nat := 255

/-- What is wrong with an id: it must not be empty or too long, and it must be a name. -/
def idProblem? (id : String) : Option Problem :=
  if id.isEmpty then some (.tooShort 1)
  else if idLimit < id.length then some (.tooLong idLimit)
  else if !Text.isName id.toList then
    some (.rule "Node ID must consist of word characters and hyphens")
  else none

/-- The two words for the kind of a node. -/
inductive KindWord where
  | static
  | llm
  deriving DecidableEq, Repr

/-- Reads the kind of a node. -/
def kindWord : Reader KindWord
  | .str "static" => .ok .static
  | .str "llm" => .ok .llm
  | _ => .fail (.notOneOf "static" "llm")

/-- The kind of a node from its word and the sources of its model, if they go together. -/
def kindOf (word : KindWord) (model variableId : Option String) : Checked NodeKind :=
  match word, model, variableId with
  | .static, none, none => .ok .static
  | .static, _, _ => .fail (.rule "Static node cannot name a model")
  | .llm, some name, none => .ok (.llm (.nickname name))
  | .llm, none, some id => .ok (.llm (.output id))
  | .llm, _, _ => .fail (.rule "LLM node requires exactly one of model or model_variable")

/-- The fields of a node, each good on its own. -/
structure Raw where
  id : String
  kind : KindWord
  template : String
  indent : Nat
  line : Nat
  children : List String
  references : List String
  flags : List String
  model : Option String
  modelVariable : Option String

/-- Reads the fields of a node one by one. -/
def rawOfFields (fields : Fields) : Checked Raw :=
  let ok : Checked _ := .ok Raw.mk
  let ok := Checked.ap ok (field fields "id" none (checking text idProblem?))
  let ok := Checked.ap ok (field fields "kind" none kindWord)
  let ok := Checked.ap ok (field fields "prompt_template" (some "") text)
  let ok := Checked.ap ok (field fields "indent_level" (some 0) (natFrom 0))
  let ok := Checked.ap ok (field fields "line_number" (some 1) (natFrom 1))
  let ok := Checked.ap ok (field fields "children" (some []) (list text))
  let ok := Checked.ap ok (field fields "explicit_dependencies" (some []) (list text))
  let ok := Checked.ap ok (field fields "flags" (some []) (list text))
  let ok := Checked.ap ok (field fields "model" (some none) (nullable text))
  Checked.ap ok (field fields "model_variable" (some none) (nullable text))

/-- Builds a node from named raw values. -/
def ofFields (fields : Fields) : Checked Node :=
  match rawOfFields fields with
  | .error faults => .error faults
  | .ok r => match kindOf r.kind r.model r.modelVariable with
    | .error faults => .error faults
    | .ok kind => .ok {
        id := r.id, kind, template := r.template, indent := r.indent, line := r.line,
        children := r.children, references := r.references, flags := r.flags }

end PromptChain.Node
