/-
# Graphs without cycles

A node waits for another when this is among its dependencies.  A chain of waits that comes back to
where it began is a cycle, and an id from which such a chain can be reached, its own or that of
another, is entangled.

As there are finitely many nodes, waits between ids that are not entangled come to an end.  So
whatever passes from the dependencies of a node to the node holds of every node that is not
entangled (`induction_of_not_entangled`).  When the nodes wait for each other only, the nodes that
are settled are exactly those that are not entangled (`settles_iff_not_entangled`); without cycles
that is every node (`acyclic_iff_settles`).
-/
import PromptChain.Proofs.Graph.Stages
import Mathlib.Data.Fintype.Card
import Mathlib.Data.Set.Finite.Basic

namespace PromptChain.Graph

variable {g : Graph}

/-- Whether a node with the first id waits for the second. -/
def Waits (g : Graph) (id d : String) : Prop := ∃ n ∈ g.nodes, n.id = id ∧ d ∈ n.dependencies

/-- Whether no chain of waits leads back to where it began. -/
def Acyclic (g : Graph) : Prop := ∀ id, ¬ Relation.TransGen g.Waits id id

/-- Whether a chain of waits leads from an id into a cycle. -/
def Entangled (g : Graph) (id : String) : Prop :=
  ∃ c, Relation.ReflTransGen g.Waits id c ∧ Relation.TransGen g.Waits c c

/-! ## 1. Entangled ids -/

section Entangled

variable {a d id : String}

theorem Waits.mem_ids (h : g.Waits a d) : a ∈ g.nodes.map (·.id) := by
  obtain ⟨n, hn, rfl, -⟩ := h
  exact List.mem_map_of_mem hn

theorem Entangled.of_waits (h : g.Waits a d) (hd : g.Entangled d) : g.Entangled a := by
  obtain ⟨c, hchain, hcycle⟩ := hd
  exact ⟨c, .head h hchain, hcycle⟩

/-- **What is entangled waits for something that is.** -/
theorem Entangled.exists_waits (h : g.Entangled a) : ∃ d, g.Waits a d ∧ g.Entangled d := by
  obtain ⟨c, hchain, hcycle⟩ := h
  rcases hchain.cases_head with rfl | ⟨d, hwaits, hrest⟩
  · obtain ⟨d, hwaits, hrest⟩ := Relation.TransGen.head'_iff.1 hcycle
    exact ⟨d, hwaits, a, hrest, hcycle⟩
  · exact ⟨d, hwaits, c, hrest, hcycle⟩

theorem Entangled.mem_ids (h : g.Entangled a) : a ∈ g.nodes.map (·.id) := by
  obtain ⟨d, hwaits, -⟩ := h.exists_waits
  exact hwaits.mem_ids

theorem acyclic_iff_not_entangled : g.Acyclic ↔ ∀ id, ¬ g.Entangled id := by
  constructor
  · rintro h id ⟨c, -, hcycle⟩
    exact h c hcycle
  · exact fun h id hcycle => h id ⟨id, .refl, hcycle⟩

/-- Without entangled ids, the waits between finitely many ids come to an end. -/
theorem wellFounded_waits :
    WellFounded fun a b : {id // id ∈ g.nodes.map (·.id) ∧ ¬ g.Entangled id} =>
      Relation.TransGen g.Waits b.1 a.1 := by
  have htrans : IsTrans {id // id ∈ g.nodes.map (·.id) ∧ ¬ g.Entangled id} fun a b =>
      Relation.TransGen g.Waits b.1 a.1 := ⟨fun _ _ _ hab hbc => hbc.trans hab⟩
  have hirrefl : Std.Irrefl fun a b : {id // id ∈ g.nodes.map (·.id) ∧ ¬ g.Entangled id} =>
      Relation.TransGen g.Waits b.1 a.1 := ⟨fun a haa => a.2.2 ⟨a.1, .refl, haa⟩⟩
  have hids : Set.Finite {id | id ∈ g.nodes.map (·.id)} := List.finite_toSet _
  have hfinite : Finite {id // id ∈ g.nodes.map (·.id) ∧ ¬ g.Entangled id} :=
    hids.subset fun _ h => h.1
  exact Finite.wellFounded_of_trans_of_irrefl _

/-- **What passes from dependencies to nodes holds of every node that is not entangled.**  An id
that no node has may be left out of account. -/
theorem induction_of_not_entangled {p : String → Prop}
    (hnode : ∀ n ∈ g.nodes, (∀ d ∈ n.dependencies, d ∈ g.nodes.map (·.id) → p d) → p n.id)
    (hid : id ∈ g.nodes.map (·.id)) (h : ¬ g.Entangled id) : p id := by
  have hall : ∀ a : {id // id ∈ g.nodes.map (·.id) ∧ ¬ g.Entangled id}, p a.1 := by
    intro a
    induction a using wellFounded_waits.induction with
    | _ a ih =>
      obtain ⟨id, hid, hfree⟩ := a
      obtain ⟨n, hn, rfl⟩ := List.mem_map.1 hid
      refine hnode n hn fun d hd hknown => ?_
      have hwaits : g.Waits n.id d := ⟨n, hn, rfl, hd⟩
      exact ih ⟨d, hknown, fun hent => hfree (hent.of_waits hwaits)⟩ (.single hwaits)
  exact hall ⟨id, hid, h⟩

end Entangled

/-! ## 2. What is settled -/

/-- What is settled is not entangled. -/
theorem Settles.not_entangled (hdistinct : Distinct g.nodes) {id : String} (h : g.Settles id) :
    ¬ g.Entangled id := by
  induction h with
  | @node n hn _ ih =>
    intro hent
    obtain ⟨d, ⟨m, hm, hid, hd⟩, hrest⟩ := hent.exists_waits
    obtain rfl := hdistinct.eq_of_id_eq hm hn hid
    exact ih d hd hrest

/-- A node that is not entangled is settled, when the nodes wait for each other only. -/
theorem settles_of_not_entangled
    (hknown : ∀ n ∈ g.nodes, ∀ d ∈ n.dependencies, d ∈ g.nodes.map (·.id)) {id : String}
    (hid : id ∈ g.nodes.map (·.id)) (h : ¬ g.Entangled id) : g.Settles id :=
  induction_of_not_entangled
    (fun n hn hdeps => .node hn fun d hd => hdeps d hd (hknown n hn d hd)) hid h

/-- **The nodes that are settled are those that are not entangled.** -/
theorem settles_iff_not_entangled (hdistinct : Distinct g.nodes)
    (hknown : ∀ n ∈ g.nodes, ∀ d ∈ n.dependencies, d ∈ g.nodes.map (·.id)) {id : String}
    (hid : id ∈ g.nodes.map (·.id)) : g.Settles id ↔ ¬ g.Entangled id :=
  ⟨fun h => h.not_entangled hdistinct, settles_of_not_entangled hknown hid⟩

/-- **Without cycles every node is settled.** -/
theorem settles_of_acyclic (h : g.Acyclic)
    (hknown : ∀ n ∈ g.nodes, ∀ d ∈ n.dependencies, d ∈ g.nodes.map (·.id)) {n : Node}
    (hn : n ∈ g.nodes) : g.Settles n.id :=
  settles_of_not_entangled hknown (List.mem_map_of_mem hn) (acyclic_iff_not_entangled.1 h n.id)

/-- After as many stages as there are nodes, everything that can be settled is. -/
theorem settles_iff_settled_length (hdistinct : Distinct g.nodes) {id : String} :
    g.Settles id ↔ id ∈ g.settled g.nodes.length := by
  -- one of the first waves, one more than there are nodes, settles nothing
  obtain ⟨k, hk, hnil⟩ : ∃ k ≤ g.nodes.length, g.wave k = [] := by
    by_contra hnone
    have hall : ∀ i < g.nodes.length + 1, g.wave i ≠ [] := by
      intro i hi hnil
      exact hnone ⟨i, Nat.le_of_lt_succ hi, hnil⟩
    exact absurd (stages_le_length hdistinct hall) (Nat.not_succ_le_self _)
  constructor
  · intro h
    exact settled_mono hk ((settles_iff_of_wave_eq_nil hnil).1 h)
  · intro h
    exact settles_iff_settled.2 ⟨_, h⟩

/-- **There is no cycle exactly when every node is settled.** -/
theorem acyclic_iff_settles (hdistinct : Distinct g.nodes)
    (hknown : ∀ n ∈ g.nodes, ∀ d ∈ n.dependencies, d ∈ g.nodes.map (·.id)) :
    g.Acyclic ↔ ∀ n ∈ g.nodes, g.Settles n.id := by
  constructor
  · intro h n hn
    exact settles_of_acyclic h hknown hn
  · intro h
    rw [acyclic_iff_not_entangled]
    intro id hent
    obtain ⟨n, hn, rfl⟩ := List.mem_map.1 hent.mem_ids
    exact (h n hn).not_entangled hdistinct hent

end PromptChain.Graph
