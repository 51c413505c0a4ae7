/-
# Stages of a graph

What can be settled at all is settled in stages.  A stage settles everything that is ready after
the stages before it: the nodes all of whose dependencies are settled and that are not settled
themselves (`wave`).  An id that no node has is never settled, and neither is a node on a cycle or
behind one.

What the stages settle together is the least set of ids that holds a node as soon as it holds the
node's dependencies (`settles_iff_settled`).  A stage that settles nothing is followed by no other
that does (`wave_eq_nil_of_le`), and as every other stage settles a node, there are no more of
them than nodes (`stages_le_length`).
-/
import PromptChain.Graph.Basic
import Mathlib.Data.List.Nodup
import Mathlib.Data.List.Perm.Subperm

namespace PromptChain.Graph

variable {g : Graph}

/-! ## 1. Stages and waves -/

/-- The ids that are settled after some stages. -/
def settled (g : Graph) : Nat → List String
  | 0 => []
  | k + 1 => g.settled k ++ (g.ready (g.settled k)).map (·.id)

/-- The nodes that the next stage after some settles. -/
def wave (g : Graph) (k : Nat) : List Node := g.ready (g.settled k)

/-- What is ready depends on which ids are completed, and not on their order. -/
theorem ready_congr {a b : List String} (h : ∀ id, id ∈ a ↔ id ∈ b) : g.ready a = g.ready b := by
  simp only [ready, h]

theorem settled_succ (g : Graph) (k : Nat) :
    g.settled (k + 1) = g.settled k ++ (g.wave k).map (·.id) := rfl

theorem mem_wave {k : Nat} {n : Node} :
    n ∈ g.wave k ↔
      n ∈ g.nodes ∧ n.id ∉ g.settled k ∧ ∀ d ∈ n.dependencies, d ∈ g.settled k :=
  mem_ready

theorem mem_settled_succ {k : Nat} {id : String} :
    id ∈ g.settled (k + 1) ↔ id ∈ g.settled k ∨ ∃ n ∈ g.wave k, n.id = id := by
  rw [settled_succ, List.mem_append, List.mem_map]

/-- Later stages keep what earlier ones settled. -/
theorem settled_mono {j k : Nat} (h : j ≤ k) {id : String} (hid : id ∈ g.settled j) :
    id ∈ g.settled k := by
  induction h with
  | refl => exact hid
  | step _ ih => exact mem_settled_succ.2 (Or.inl ih)

/-- Whatever is settled is the id of a node of an earlier wave. -/
theorem exists_wave_of_mem_settled {k : Nat} {id : String} (h : id ∈ g.settled k) :
    ∃ j < k, ∃ n ∈ g.wave j, n.id = id := by
  induction k with
  | zero => simp [settled] at h
  | succ k ih =>
    rcases mem_settled_succ.1 h with hk | hwave
    · obtain ⟨j, hj, hn⟩ := ih hk
      exact ⟨j, Nat.lt_succ_of_lt hj, hn⟩
    · exact ⟨k, Nat.lt_succ_self k, hwave⟩

/-- A node is in one wave. -/
theorem wave_unique {j k : Nat} {m n : Node} (hm : m ∈ g.wave j) (hn : n ∈ g.wave k)
    (hid : m.id = n.id) : j = k := by
  -- the later wave would hold what the earlier one has settled
  have hle : ∀ {j k : Nat} {m n : Node}, m ∈ g.wave j → n ∈ g.wave k → m.id = n.id → k ≤ j := by
    intro j k m n hm hn hid
    by_contra hlt
    exact (mem_wave.1 hn).2.1
      (settled_mono (Nat.lt_of_not_le hlt) (mem_settled_succ.2 (Or.inr ⟨m, hm, hid⟩)))
  exact Nat.le_antisymm (hle hn hm hid.symm) (hle hm hn hid)

/-- What is settled are the waves so far, one after the other. -/
theorem settled_eq_flatten (g : Graph) (k : Nat) :
    g.settled k = ((List.range k).map fun i => (g.wave i).map (·.id)).flatten := by
  induction k with
  | zero => rfl
  | succ k ih =>
    rw [settled_succ, ih, List.range_succ, List.map_append, List.flatten_append,
      List.map_singleton, List.flatten_singleton]

/-- A node's dependencies are settled before the node. -/
theorem dependencies_settled {k : Nat} {n : Node} (h : n ∈ g.wave k) {d : String}
    (hd : d ∈ n.dependencies) : d ∈ g.settled k :=
  (mem_wave.1 h).2.2 d hd

/-! ## 2. The least closed set -/

/-- The least set of ids that holds a node's id when it holds all the node's dependencies. -/
inductive Settles (g : Graph) : String → Prop where
  | node {n : Node} (hn : n ∈ g.nodes) (hdeps : ∀ d ∈ n.dependencies, Settles g d) :
      Settles g n.id

/-- Ids that are each settled at some stage are all settled at one. -/
theorem exists_common_stage {ids : List String} (h : ∀ d ∈ ids, ∃ k, d ∈ g.settled k) :
    ∃ k, ∀ d ∈ ids, d ∈ g.settled k := by
  induction ids with
  | nil => exact ⟨0, by simp⟩
  | cons d rest ih =>
    obtain ⟨j, hj⟩ := h d List.mem_cons_self
    obtain ⟨k, hk⟩ := ih fun e he => h e (List.mem_cons_of_mem d he)
    refine ⟨max j k, fun e he => ?_⟩
    rcases List.mem_cons.1 he with rfl | he
    · exact settled_mono (Nat.le_max_left j k) hj
    · exact settled_mono (Nat.le_max_right j k) (hk e he)

/-- **The stages settle exactly the least closed set.** -/
theorem settles_iff_settled {id : String} : g.Settles id ↔ ∃ k, id ∈ g.settled k := by
  constructor
  · intro h
    induction h with
    | @node n hn _ ih =>
      obtain ⟨k, hk⟩ := exists_common_stage ih
      by_cases hid : n.id ∈ g.settled k
      · exact ⟨k, hid⟩
      · exact ⟨k + 1, mem_settled_succ.2 (Or.inr ⟨n, mem_wave.2 ⟨hn, hid, hk⟩, rfl⟩)⟩
  · rintro ⟨k, hk⟩
    induction k generalizing id with
    | zero => simp [settled] at hk
    | succ k ih =>
      rcases mem_settled_succ.1 hk with hk | ⟨n, hn, rfl⟩
      · exact ih hk
      · exact .node (mem_wave.1 hn).1 fun d hd => ih (dependencies_settled hn hd)

/-! ## 3. When the stages come to an end -/

/-- A stage that settles nothing changes nothing. -/
theorem settled_eq_of_wave_eq_nil {k : Nat} (h : g.wave k = []) {j : Nat} (hj : k ≤ j) :
    g.settled j = g.settled k := by
  induction hj with
  | refl => rfl
  | @step j _ ih =>
    have hwave : g.wave j = [] := by rw [← h, wave, wave, ih]
    rw [Nat.succ_eq_add_one, settled_succ, hwave, List.map_nil, List.append_nil, ih]

/-- **After a stage that settles nothing no other settles anything.** -/
theorem wave_eq_nil_of_le {k j : Nat} (h : g.wave k = []) (hj : k ≤ j) : g.wave j = [] := by
  rw [← h, wave, wave, settled_eq_of_wave_eq_nil h hj]

/-- When every node is settled, nothing is left for the next stage. -/
theorem wave_eq_nil_of_settled {k : Nat} (h : ∀ n ∈ g.nodes, n.id ∈ g.settled k) :
    g.wave k = [] := by
  rw [List.eq_nil_iff_forall_not_mem]
  intro n hn
  obtain ⟨hmem, hnot, -⟩ := mem_wave.1 hn
  exact hnot (h n hmem)

/-- Once a stage settles nothing, everything that can be settled is. -/
theorem settles_iff_of_wave_eq_nil {k : Nat} (h : g.wave k = []) {id : String} :
    g.Settles id ↔ id ∈ g.settled k := by
  rw [settles_iff_settled]
  constructor
  · rintro ⟨j, hj⟩
    rw [← settled_eq_of_wave_eq_nil h (Nat.le_max_left k j)]
    exact settled_mono (Nat.le_max_right k j) hj
  · exact fun hk => ⟨k, hk⟩

/-- Two numbers of stages after which nothing is left to settle, and before which there always
is, are the same. -/
theorem stages_unique {j k : Nat} (hj : ∀ i < j, g.wave i ≠ []) (hk : ∀ i < k, g.wave i ≠ [])
    (hjnil : g.wave j = []) (hknil : g.wave k = []) : j = k := by
  rcases Nat.lt_trichotomy j k with h | h | h
  · exact absurd hjnil (hk j h)
  · exact h
  · exact absurd hknil (hj k h)

/-! ## 4. Nodes with distinct ids -/

/-- Whether no two nodes of the list share an id. -/
def Distinct (nodes : List Node) : Prop := (nodes.map (·.id)).Nodup

instance (nodes : List Node) : Decidable (Distinct nodes) :=
  inferInstanceAs (Decidable (List.Nodup _))

/-- Nodes with the same id are the same node. -/
theorem Distinct.eq_of_id_eq {nodes : List Node} (h : Distinct nodes) {m n : Node}
    (hm : m ∈ nodes) (hn : n ∈ nodes) (hid : m.id = n.id) : m = n :=
  List.inj_on_of_nodup_map h hm hn hid

/-- The node with an id is found by it. -/
theorem find?_of_distinct (h : Distinct g.nodes) {n : Node} (hn : n ∈ g.nodes) :
    g.find? n.id = some n := by
  have hmem : ∀ m ∈ g.nodes.filter (·.id == n.id), m = n := by
    intro m hm
    obtain ⟨hmem, hid⟩ := List.mem_filter.1 hm
    exact h.eq_of_id_eq hmem hn (by simpa using hid)
  have hne : g.nodes.filter (·.id == n.id) ≠ [] :=
    List.ne_nil_of_mem (List.mem_filter.2 ⟨hn, by simp⟩)
  rw [find?, List.getLast?_eq_some_getLast hne, hmem _ (List.getLast_mem hne)]

/-- Distinct ids are listed as they are. -/
theorem ids_of_distinct (h : Distinct g.nodes) : g.ids = g.nodes.map (·.id) := by
  have hfold : ∀ more ids : List String, (ids ++ more).Nodup →
      more.foldl Node.addNew ids = ids ++ more := by
    intro more
    induction more with
    | nil => simp
    | cons id rest ih =>
      intro ids hids
      have hfresh : id ∉ ids := fun hid =>
        (List.nodup_append.1 hids).2.2 id hid id List.mem_cons_self rfl
      have hnew : Node.addNew ids id = ids ++ [id] := by simp [Node.addNew, hfresh]
      rw [List.foldl_cons, hnew, ih (ids ++ [id]) (by simpa using hids), List.append_assoc,
        List.singleton_append]
  exact hfold _ [] h

theorem Distinct.sublist {nodes more : List Node} (h : Distinct more) (hsub : nodes.Sublist more) :
    Distinct nodes :=
  List.Nodup.sublist (hsub.map _) h

theorem wave_sublist (g : Graph) (k : Nat) : (g.wave k).Sublist g.nodes :=
  List.filter_sublist

/-- A node that is settled after a stage, and not before it, belongs to its wave. -/
theorem mem_wave_of_settled {k : Nat} (h : Distinct g.nodes) {n : Node} (hn : n ∈ g.nodes)
    (hbefore : n.id ∉ g.settled k) (hafter : n.id ∈ g.settled (k + 1)) : n ∈ g.wave k := by
  rcases mem_settled_succ.1 hafter with hk | ⟨m, hm, hid⟩
  · exact absurd hk hbefore
  · rwa [← h.eq_of_id_eq (mem_wave.1 hm).1 hn hid]

/-- No id is settled twice. -/
theorem nodup_settled (h : Distinct g.nodes) (k : Nat) : (g.settled k).Nodup := by
  induction k with
  | zero => exact List.nodup_nil
  | succ k ih =>
    rw [settled_succ]
    refine List.Nodup.append ih (h.sublist (g.wave_sublist k)) ?_
    intro id hid hwave
    obtain ⟨n, hn, rfl⟩ := List.mem_map.1 hwave
    exact (mem_wave.1 hn).2.1 hid

theorem settled_subset_ids {k : Nat} {id : String} (h : id ∈ g.settled k) :
    id ∈ g.nodes.map (·.id) := by
  obtain ⟨j, _, n, hn, rfl⟩ := exists_wave_of_mem_settled h
  exact List.mem_map_of_mem (mem_wave.1 hn).1

/-- Stages that all settle something settle at least one id each. -/
theorem stages_le_settled {k : Nat} (h : ∀ i < k, g.wave i ≠ []) : k ≤ (g.settled k).length := by
  induction k with
  | zero => exact Nat.zero_le _
  | succ k ih =>
    have hk := ih fun i hi => h i (Nat.lt_succ_of_lt hi)
    have hpos := List.length_pos_iff.2 (h k (Nat.lt_succ_self k))
    rw [settled_succ, List.length_append, List.length_map]
    omega

/-- **There are no more stages that settle something than there are nodes.** -/
theorem stages_le_length (hdistinct : Distinct g.nodes) {k : Nat} (h : ∀ i < k, g.wave i ≠ []) :
    k ≤ g.nodes.length := by
  have hsub : (g.settled k).Subperm (g.nodes.map (·.id)) :=
    List.subperm_of_subset (nodup_settled hdistinct k) fun _ hid => settled_subset_ids hid
  calc k ≤ (g.settled k).length := stages_le_settled h
    _ ≤ (g.nodes.map (·.id)).length := List.Subperm.length_le hsub
    _ = g.nodes.length := List.length_map _

end PromptChain.Graph
