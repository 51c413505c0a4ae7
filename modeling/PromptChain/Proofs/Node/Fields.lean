/-
# Nodes and their fields

Fields can say more than a node can be.  They name the two sources of a model side by side, so both
may be there or none, and only the last rule of all looks at them together (`Raw.NamesSource`).  A
node has one source or has none by its kind, and fields that pass the rule are those of a node
(`kindOf_eq_ok_iff`).

So a node is built from fields exactly when these are read as the fields that it has
(`ofFields_eq_ok_iff`).  Of the checks on single fields two say something that a node does not say
by itself, that on its id and that on its line (`Raw.Good`); a node for which they hold can be
built, and no other (`built_iff`).
-/
import PromptChain.Node.Form

namespace PromptChain

open PromptChain.Form

/-! ## 1. Fields that are read -/

namespace Form

section Readers

variable {α : Type} {fields : Fields} {name : String} {default? : Option α} {read : Reader α}
  {problem? : α → Option Problem} {j : Json} {a : α} {bound n : Nat}

/-- A field is read as the value under its name is. -/
theorem field_eq_ok (h : fields.lookup name = some j) (hread : read j = .ok a)
    (default? : Option α) : field fields name default? read = .ok a := by
  rw [field_eq_of_lookup h, hread]
  rfl

/-- What a field gives is what a value is read as, or the default of the field. -/
theorem of_field_eq_ok (h : field fields name default? read = .ok a) :
    (∃ j, read j = .ok a) ∨ default? = some a := by
  cases hlookup : fields.lookup name with
  | some j =>
    rw [field_eq_of_lookup hlookup] at h
    cases hread : read j with
    | error faults =>
      rw [hread] at h
      cases h
    | ok b =>
      rw [hread] at h
      cases h
      exact .inl ⟨j, hread⟩
  | none =>
    simp only [field, hlookup] at h
    cases default? with
    | some b =>
      cases h
      exact .inr rfl
    | none => cases h

/-- A reader with a test gives what passes the test. -/
theorem checking_eq_ok_iff :
    checking read problem? j = .ok a ↔ read j = .ok a ∧ problem? a = none := by
  rw [checking]
  cases read j with
  | error faults => simp
  | ok b =>
    rw [Except.ok.injEq]
    constructor
    · intro h
      cases hproblem : problem? b with
      | some problem =>
        simp only [hproblem] at h
        cases h
      | none =>
        simp only [hproblem] at h
        cases h
        exact ⟨rfl, hproblem⟩
    · rintro ⟨rfl, h⟩
      simp only [h]

theorem text_str (s : String) : text (.str s) = .ok s := rfl

theorem elementsFrom_texts (texts : List String) (i : Nat) :
    elementsFrom text i (texts.map .str) = .ok texts := by
  induction texts generalizing i with
  | nil => rfl
  | cons s rest ih => simp [elementsFrom, ih, text, Except.map, Checked.under]

/-- Texts are read as they are. -/
theorem list_texts (texts : List String) : list text (.arr (texts.map .str)) = .ok texts :=
  elementsFrom_texts texts 0

/-- A text that may be missing is read as it is. -/
theorem nullable_text (s? : Option String) :
    nullable text ((s?.map .str).getD .null) = .ok s? := by
  cases s? <;> rfl

/-- A number from a bound on is read as it is. -/
theorem natFrom_int (h : bound ≤ n) : natFrom bound (.int n) = .ok n := by
  simp [natFrom, checking, integer, Nat.not_lt.2 h, Except.map]

/-- A number that is read is not below the bound. -/
theorem le_of_natFrom (h : natFrom bound j = .ok n) : bound ≤ n := by
  rw [natFrom] at h
  cases hread : checking integer
      (fun i => if i < bound then some (.belowBound bound) else none) j with
  | error faults =>
    rw [hread] at h
    cases h
  | ok i =>
    rw [hread] at h
    cases h
    have hi := (checking_eq_ok_iff.1 hread).2
    split at hi
    · cases hi
    · omega

end Readers

end Form

namespace Node

/-! ## 2. The fields of a node -/

/-- The word for a kind. -/
def KindWord.name : KindWord → String
  | static => "static"
  | llm => "llm"

theorem kindWord_name (word : KindWord) : kindWord (.str word.name) = .ok word := by
  cases word <;> rfl

/-- Fields under their names. -/
def Raw.fields (r : Raw) : Fields := [
  ("id", .str r.id), ("kind", .str r.kind.name), ("prompt_template", .str r.template),
  ("indent_level", .int r.indent), ("line_number", .int r.line),
  ("children", .arr (r.children.map .str)),
  ("explicit_dependencies", .arr (r.references.map .str)), ("flags", .arr (r.flags.map .str)),
  ("model", (r.model.map .str).getD .null),
  ("model_variable", (r.modelVariable.map .str).getD .null)]

/-- The fields of a node. -/
def raw (n : Node) : Raw where
  id := n.id
  kind := if n.isStatic then .static else .llm
  template := n.template
  indent := n.indent
  line := n.line
  children := n.children
  references := n.references
  flags := n.flags
  model := n.model?
  modelVariable := n.modelVariable?

/-- Whether fields have a good id, and a line that there is.  Every other field is good by what it
is. -/
structure Raw.Good (r : Raw) : Prop where
  id : idProblem? r.id = none
  line : 1 ≤ r.line

/-- Whether fields name the source of a model as their kind asks: those of a model node name exactly
one, those of a static node name none. -/
def Raw.NamesSource (r : Raw) : Prop :=
  match r.kind with
  | .static => r.model = none ∧ r.modelVariable = none
  | .llm => r.model.isSome ≠ r.modelVariable.isSome

section Fields

variable {r : Raw} {n : Node} {fields : Fields}

/-- **Good fields are read as they are.** -/
theorem rawOfFields_fields (h : r.Good) : rawOfFields r.fields = .ok r := by
  have hid : field r.fields "id" none (checking text idProblem?) = .ok r.id :=
    field_eq_ok rfl (checking_eq_ok_iff.2 ⟨text_str r.id, h.id⟩) none
  have hkind : field r.fields "kind" none kindWord = .ok r.kind :=
    field_eq_ok rfl (kindWord_name r.kind) none
  have htemplate : field r.fields "prompt_template" (some "") text = .ok r.template :=
    field_eq_ok rfl (text_str r.template) _
  have hindent : field r.fields "indent_level" (some 0) (natFrom 0) = .ok r.indent :=
    field_eq_ok rfl (natFrom_int (Nat.zero_le _)) _
  have hline : field r.fields "line_number" (some 1) (natFrom 1) = .ok r.line :=
    field_eq_ok rfl (natFrom_int h.line) _
  have hchildren : field r.fields "children" (some []) (list text) = .ok r.children :=
    field_eq_ok rfl (list_texts r.children) _
  have hreferences : field r.fields "explicit_dependencies" (some []) (list text) =
      .ok r.references := field_eq_ok rfl (list_texts r.references) _
  have hflags : field r.fields "flags" (some []) (list text) = .ok r.flags :=
    field_eq_ok rfl (list_texts r.flags) _
  have hmodel : field r.fields "model" (some none) (nullable text) = .ok r.model :=
    field_eq_ok rfl (nullable_text r.model) _
  have hvariable : field r.fields "model_variable" (some none) (nullable text) =
      .ok r.modelVariable := field_eq_ok rfl (nullable_text r.modelVariable) _
  rw [rawOfFields, hid, hkind, htemplate, hindent, hline, hchildren, hreferences, hflags, hmodel,
    hvariable]
  rfl

/-- **Fields that are read are good.** -/
theorem good_of_rawOfFields (h : rawOfFields fields = .ok r) : r.Good := by
  simp only [rawOfFields, Checked.ap_eq_ok_iff] at h
  obtain ⟨_, variableId, ⟨_, model, ⟨_, flags, ⟨_, references, ⟨_, children, ⟨_, line, ⟨_, indent,
    ⟨_, template, ⟨_, kind, ⟨_, id, hmk, hid, rfl⟩, -, rfl⟩, -, rfl⟩, -, rfl⟩, hline, rfl⟩, -, rfl⟩,
    -, rfl⟩, -, rfl⟩, -, rfl⟩, -, rfl⟩ := h
  cases hmk
  constructor
  · obtain ⟨j, hj⟩ | hdefault := of_field_eq_ok hid
    · exact (checking_eq_ok_iff.1 hj).2
    · cases hdefault
  · obtain ⟨j, hj⟩ | hdefault := of_field_eq_ok hline
    · exact le_of_natFrom hj
    · cases hdefault
      exact Nat.le_refl 1

/-- The rule about sources is what decides whether there is a kind for a word and two sources. -/
theorem namesSource_iff :
    r.NamesSource ↔ ∃ kind, kindOf r.kind r.model r.modelVariable = .ok kind := by
  rw [Raw.NamesSource]
  cases r.kind <;> cases r.model <;> cases r.modelVariable <;> simp [kindOf, Checked.fail]

/-- **A node has the kind that its fields say**, and no other fields say that kind. -/
theorem kindOf_eq_ok_iff {word : KindWord} {model variableId : Option String} :
    kindOf word model variableId = .ok n.kind ↔
      word = n.raw.kind ∧ model = n.model? ∧ variableId = n.modelVariable? := by
  rw [raw, isStatic, model?, modelVariable?]
  cases n.kind with
  | static => cases word <;> cases model <;> cases variableId <;> simp [kindOf, Checked.fail]
  | llm source =>
    cases source <;> cases word <;> cases model <;> cases variableId <;>
      simp [kindOf, Checked.fail]

/-- The fields of a node name the source of its model as its kind asks. -/
theorem namesSource_raw (n : Node) : n.raw.NamesSource :=
  namesSource_iff.2 ⟨n.kind, kindOf_eq_ok_iff.2 ⟨rfl, rfl, rfl⟩⟩

/-- **A node is built from fields exactly when they are read as its own.** -/
theorem ofFields_eq_ok_iff : ofFields fields = .ok n ↔ rawOfFields fields = .ok n.raw := by
  constructor
  · intro h
    rw [ofFields] at h
    cases hread : rawOfFields fields with
    | error faults =>
      rw [hread] at h
      cases h
    | ok r =>
      rw [hread] at h
      dsimp only at h
      cases hkind : kindOf r.kind r.model r.modelVariable with
      | error faults =>
        rw [hkind] at h
        cases h
      | ok kind =>
        rw [hkind] at h
        cases h
        cases r
        obtain ⟨rfl, rfl, rfl⟩ := kindOf_eq_ok_iff (n := { id := "", kind }).1 hkind
        rfl
  · intro h
    have hkind : kindOf n.raw.kind n.raw.model n.raw.modelVariable = .ok n.kind :=
      kindOf_eq_ok_iff.2 ⟨rfl, rfl, rfl⟩
    rw [ofFields, h]
    dsimp only
    rw [hkind]
    rfl

/-- Whether a node can be built: there are fields that pass all checks and give it. -/
def Built (n : Node) : Prop := ∃ fields, ofFields fields = .ok n

/-- **A node can be built when its fields are good.** -/
theorem built_iff : n.Built ↔ n.raw.Good := by
  constructor
  · rintro ⟨fields, h⟩
    exact good_of_rawOfFields (ofFields_eq_ok_iff.1 h)
  · intro h
    exact ⟨n.raw.fields, ofFields_eq_ok_iff.2 (rawOfFields_fields h)⟩

end Fields

end Node
end PromptChain
