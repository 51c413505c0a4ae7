/-
# Nodes

A node is one step of a chain.  A static node only has a text; a model node sends its text to a
model, and names that model either by its nickname or by the id of a node whose output is the
nickname.  The kinds carry exactly what they need, so a static node with a model, or a model node
with no model or with two, cannot be written down.

A node waits for three sorts of other nodes: those nested beneath it, those its text refers to,
and the one its model's nickname comes from (`dependencies`).
-/
namespace PromptChain

/-- How a model node names its model. -/
inductive ModelSource where
  /-- By its nickname. -/
  | nickname (name : String)
  /-- By the id of a node whose output is the nickname. -/
  | output (id : String)
  deriving DecidableEq, Repr

/-- What a node does when it runs. -/
inductive NodeKind where
  /-- Its text is its output. -/
  | static
  /-- Its output is a model's answer to its text. -/
  | llm (source : ModelSource)
  deriving DecidableEq, Repr

/-- One step of a chain. -/
structure Node where
  id : String
  kind : NodeKind
  template : String := ""
  indent : Nat := 0
  line : Nat := 1
  /-- The nodes nested beneath this one. -/
  children : List String := []
  /-- The nodes whose outputs the text refers to. -/
  references : List String := []
  flags : List String := []
  deriving DecidableEq, Repr

namespace Node

/-! ## 1. Kinds -/

/-- Whether a node only has a text. -/
def isStatic (n : Node) : Bool :=
  match n.kind with
  | .static => true
  | .llm _ => false

/-- Whether a node calls a model. -/
def isLlm (n : Node) : Bool := !n.isStatic

/-- The nickname written in the node. -/
def model? (n : Node) : Option String :=
  match n.kind with
  | .llm (.nickname name) => some name
  | _ => none

/-- The id of the node whose output is the nickname. -/
def modelVariable? (n : Node) : Option String :=
  match n.kind with
  | .llm (.output id) => some id
  | _ => none

/-! ## 2. Dependencies -/

/-- Adds an id to a list that does not hold it. -/
def addNew (ids : List String) (id : String) : List String :=
  if id ∈ ids then ids else ids ++ [id]

/-- The ids a node waits for: its children, then what it refers to, then the node that names its
model; from the second sort on, none that is there already. -/
def dependencies (n : Node) : List String :=
  let mentioned := n.references.foldl addNew n.children
  match n.modelVariable? with
  | some id => if id.isEmpty then mentioned else addNew mentioned id
  | none => mentioned

theorem mem_addNew {ids : List String} {id a : String} : a ∈ addNew ids id ↔ a ∈ ids ∨ a = id := by
  simp only [addNew]
  split
  · rename_i h
    constructor
    · exact Or.inl
    · rintro (ha | rfl)
      · exact ha
      · exact h
  · simp

theorem mem_foldl_addNew {more ids : List String} {a : String} :
    a ∈ more.foldl addNew ids ↔ a ∈ ids ∨ a ∈ more := by
  induction more generalizing ids with
  | nil => simp
  | cons b rest ih => rw [List.foldl_cons, ih, mem_addNew, List.mem_cons, or_assoc]

/-- **A node waits for its children, its references and the node that names its model.** -/
theorem mem_dependencies {n : Node} {a : String} :
    a ∈ n.dependencies ↔
      a ∈ n.children ∨ a ∈ n.references ∨ (n.modelVariable? = some a ∧ a ≠ "") := by
  simp only [dependencies]
  split
  · rename_i id h
    split
    · rename_i hid
      have hid : id = "" := by simpa using hid
      rw [mem_foldl_addNew, h, ← or_assoc]
      constructor
      · exact Or.inl
      · rintro (ha | ⟨heq, hne⟩)
        · exact ha
        · simp only [Option.some.injEq] at heq
          exact absurd (heq.symm.trans hid) hne
    · rename_i hid
      have hid : id ≠ "" := by simpa using hid
      rw [mem_addNew, mem_foldl_addNew, h, or_assoc, Option.some.injEq]
      constructor
      · rintro (ha | ha | rfl)
        · exact Or.inl ha
        · exact Or.inr (Or.inl ha)
        · exact Or.inr (Or.inr ⟨rfl, hid⟩)
      · rintro (ha | ha | ⟨rfl, _⟩)
        · exact Or.inl ha
        · exact Or.inr (Or.inl ha)
        · exact Or.inr (Or.inr rfl)
  · rename_i h
    rw [mem_foldl_addNew, h]
    simp

theorem mem_dependencies_of_mem_children {n : Node} {a : String} (h : a ∈ n.children) :
    a ∈ n.dependencies :=
  mem_dependencies.2 (Or.inl h)

theorem mem_dependencies_of_mem_references {n : Node} {a : String} (h : a ∈ n.references) :
    a ∈ n.dependencies :=
  mem_dependencies.2 (Or.inr (Or.inl h))

/-- A node waits for the node that names its model, unless that has the empty id. -/
theorem mem_dependencies_of_output {n : Node} {a : String} (h : n.kind = .llm (.output a))
    (hne : n.modelVariable? ≠ some "") : a ∈ n.dependencies := by
  have hvar : n.modelVariable? = some a := by simp [modelVariable?, h]
  refine mem_dependencies.2 (Or.inr (Or.inr ⟨hvar, ?_⟩))
  rintro rfl
  exact hne hvar

end Node
end PromptChain
