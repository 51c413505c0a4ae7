/-
# Levels as depths

From a node a way leads down to a node that it waits for, from this to one that it waits for in
turn, and so on.  Every step of a way down leads to a lower level (`Descent.length_le`), and above
the first level there is a step to the level right below (`exists_descent`).  So the level of a
node is the length of the longest way down from it (`exists_level_isGreatest`).

The batches part the ids by level (`partedByLevel_batches`): an id is in the batch of its level,
and what is known of levels carries over.
-/
import PromptChain.Proofs.Graph.Soundness
import Mathlib.Data.List.Chain
import Mathlib.Order.Bounds.Basic

namespace PromptChain.Graph

variable {g : Graph}

/-! ## 1. Ways down -/

/-- Whether a node with the first id waits for the second, which is the id of a node too. -/
def RestsOn (g : Graph) (id d : String) : Prop :=
  ∃ n ∈ g.nodes, n.id = id ∧ d ∈ g.knownDependencies n

/-- Whether some ids are a way down from an id, each of them one that the id before rests on. -/
def Descent (g : Graph) (id : String) (below : List String) : Prop :=
  (id :: below).IsChain g.RestsOn

section Descents

variable (hdistinct : Distinct g.nodes) (hacyclic : g.Acyclic) {id : String} {k : Nat}

include hdistinct hacyclic

/-- **No way down is longer than the level it begins on.** -/
theorem Descent.length_le {below : List String} (h : g.Descent id below)
    (hlevel : g.levels.get? id = some k) : below.length ≤ k := by
  induction below generalizing id k with
  | nil => exact Nat.zero_le k
  | cons d rest ih =>
    obtain ⟨⟨n, hn, rfl, hd⟩, hrest⟩ := List.isChain_cons_cons.1 h
    obtain ⟨j, hj, hdep⟩ := exists_lower_level hdistinct hacyclic hn hlevel hd
    exact Nat.lt_of_le_of_lt (ih hrest hdep) hj

/-- **From every level a way leads down to the first.** -/
theorem exists_descent (hlevel : g.levels.get? id = some k) :
    ∃ below, g.Descent id below ∧ below.length = k := by
  induction k generalizing id with
  | zero => exact ⟨[], List.isChain_singleton id, rfl⟩
  | succ k ih =>
    obtain ⟨n, hn, rfl⟩ := exists_node_of_level hdistinct hacyclic hlevel
    obtain ⟨d, hd, hdep⟩ := exists_dependency_level hdistinct hacyclic hn hlevel
    obtain ⟨below, hbelow, hlength⟩ := ih hdep
    exact ⟨d :: below, List.isChain_cons_cons.2 ⟨⟨n, hn, rfl, hd⟩, hbelow⟩, by simp [hlength]⟩

/-- **The level of a node is the length of the longest way down from it.** -/
theorem exists_level_isGreatest {n : Node} (hn : n ∈ g.nodes) :
    ∃ l, g.levels.get? n.id = some l ∧
      IsGreatest {k | ∃ below, g.Descent n.id below ∧ below.length = k} l := by
  have hlevel := get?_levels hdistinct hacyclic hn
  refine ⟨_, hlevel, exists_descent hdistinct hacyclic hlevel, ?_⟩
  rintro k ⟨below, hbelow, rfl⟩
  exact hbelow.length_le hdistinct hacyclic hlevel

end Descents

/-! ## 2. Batches by level -/

/-- Whether an id is in the batch with a number. -/
def InBatch (batches : List (List String)) (k : Nat) (id : String) : Prop :=
  ∃ batch, batches[k]? = some batch ∧ id ∈ batch

/-- What it is for batches to part the ids of a graph by level. -/
structure PartedByLevel (g : Graph) (levels : Store Nat) (batches : List (List String)) : Prop where
  all : batches.flatten.Perm (g.nodes.map (·.id))
  nonempty : ∀ batch ∈ batches, batch ≠ []
  level : ∀ k id, InBatch batches k id ↔ levels.get? id = some k
  earlier : ∀ n ∈ g.nodes, ∀ k, InBatch batches k n.id →
    ∀ d ∈ g.knownDependencies n, ∃ j < k, InBatch batches j d
  next : ∀ n ∈ g.nodes, ∀ k, InBatch batches (k + 1) n.id →
    ∃ d ∈ g.knownDependencies n, InBatch batches k d

section Batches

variable (hdistinct : Distinct g.nodes) (hacyclic : g.Acyclic)

include hdistinct hacyclic

/-- **An id is in the batch of its level, and in no other.** -/
theorem inBatch_iff {k : Nat} {id : String} :
    InBatch g.batches k id ↔ g.levels.get? id = some k := by
  constructor
  · rintro ⟨batch, hbatch, hid⟩
    exact (mem_batch_iff_level hdistinct hacyclic hbatch).1 hid
  · intro hlevel
    have hlt := (lt_length_batches_iff_level hdistinct hacyclic).2 ⟨id, hlevel⟩
    have hbatch := List.getElem?_eq_getElem hlt
    exact ⟨_, hbatch, (mem_batch_iff_level hdistinct hacyclic hbatch).2 hlevel⟩

/-- No id comes twice in the batches. -/
theorem nodup_flatten_batches : g.batches.flatten.Nodup := by
  rw [List.nodup_flatten]
  constructor
  · intro batch hbatch
    obtain ⟨l, -, rfl⟩ := List.mem_map.1 hbatch
    rw [order_eq_placed hdistinct hacyclic]
    exact (nodup_placed hdistinct).filter _
  · -- batches of different levels share no id, as an id has one level
    rw [List.pairwise_iff_getElem]
    intro i j hi hj hlt id hid hid'
    have hfirst := (inBatch_iff hdistinct hacyclic).1 ⟨_, List.getElem?_eq_getElem hi, hid⟩
    have hsecond := (inBatch_iff hdistinct hacyclic).1 ⟨_, List.getElem?_eq_getElem hj, hid'⟩
    exact Nat.ne_of_lt hlt (Option.some.inj (hfirst.symm.trans hsecond))

/-- **The batches hold every id once.** -/
theorem flatten_batches_perm : g.batches.flatten.Perm (g.nodes.map (·.id)) := by
  refine (List.perm_ext_iff_of_nodup (nodup_flatten_batches hdistinct hacyclic) hdistinct).2
    fun id => ?_
  constructor
  · intro hid
    obtain ⟨batch, hbatch, hid⟩ := List.mem_flatten.1 hid
    obtain ⟨k, hk⟩ := List.mem_iff_getElem?.1 hbatch
    obtain ⟨n, hn, rfl⟩ := exists_node_of_level hdistinct hacyclic
      ((inBatch_iff hdistinct hacyclic).1 ⟨batch, hk, hid⟩)
    exact List.mem_map_of_mem hn
  · intro hid
    obtain ⟨n, hn, rfl⟩ := List.mem_map.1 hid
    obtain ⟨batch, hbatch, hin⟩ :=
      (inBatch_iff hdistinct hacyclic).2 (get?_levels hdistinct hacyclic hn)
    exact List.mem_flatten.2 ⟨batch, List.mem_of_getElem? hbatch, hin⟩

theorem partedByLevel_batches : PartedByLevel g g.levels g.batches where
  all := flatten_batches_perm hdistinct hacyclic
  nonempty batch hbatch := by
    obtain ⟨k, hk⟩ := List.mem_iff_getElem?.1 hbatch
    obtain ⟨hlt, -⟩ := List.getElem?_eq_some_iff.1 hk
    obtain ⟨id, hid⟩ := (lt_length_batches_iff_level hdistinct hacyclic).1 hlt
    exact List.ne_nil_of_mem ((mem_batch_iff_level hdistinct hacyclic hk).2 hid)
  level _ _ := inBatch_iff hdistinct hacyclic
  earlier n hn k hk d hd := by
    rw [inBatch_iff hdistinct hacyclic] at hk
    obtain ⟨j, hj, hdep⟩ := exists_lower_level hdistinct hacyclic hn hk hd
    exact ⟨j, hj, (inBatch_iff hdistinct hacyclic).2 hdep⟩
  next n hn k hk := by
    rw [inBatch_iff hdistinct hacyclic] at hk
    obtain ⟨d, hd, hdep⟩ := exists_dependency_level hdistinct hacyclic hn hk
    exact ⟨d, hd, (inBatch_iff hdistinct hacyclic).2 hdep⟩

end Batches

/-- **Levels are depths, and batches are levels.**  There is a report on every graph without cycles
whose nodes have distinct ids.  The level it gives a node is the length of the longest way down
from the node.  The batches part the ids by these levels: together they hold every id once, and
none of them is empty; what a node waits for is in earlier batches, as far as nodes have these ids;
and unless the node is in the first batch, some of it is in the batch right before its own. -/
theorem levels_are_depths (hdistinct : Distinct g.nodes) (hacyclic : g.Acyclic) :
    ∃ r, g.analyse = .ok r ∧
      (∀ n ∈ g.nodes, ∃ l, r.levels.get? n.id = some l ∧
        IsGreatest {k | ∃ below, g.Descent n.id below ∧ below.length = k} l) ∧
      PartedByLevel g r.levels g.batches :=
  ⟨g.report, analyse_of_distinct hdistinct,
    fun _ hn => exists_level_isGreatest hdistinct hacyclic hn,
    partedByLevel_batches hdistinct hacyclic⟩

/-- Nodes from one of which two ways lead down that differ in length. -/
def unevenGraph : Graph := ⟨[
  { id := "top", kind := .llm (.output "name"), children := ["left", "left"],
    references := ["right", "none"] },
  { id := "left", kind := .static, references := ["low"] },
  { id := "low", kind := .static },
  { id := "right", kind := .static },
  { id := "name", kind := .static }]⟩

/-- The longer one counts. -/
theorem levels_are_depths_uneven :
    ∃ r, unevenGraph.analyse = .ok r ∧
      (r.levels.get? "top" = some 2 ∧
        IsGreatest {k | ∃ below, unevenGraph.Descent "top" below ∧ below.length = k} 2) ∧
      unevenGraph.batches = [["low", "right", "name"], ["left"], ["top"]] ∧
      PartedByLevel unevenGraph r.levels unevenGraph.batches := by
  have hdistinct : Distinct unevenGraph.nodes := by decide
  obtain ⟨r, hr, hlevels, hparted⟩ :=
    levels_are_depths hdistinct ((isValid_iff_acyclic hdistinct).1 (by decide +kernel))
  cases hr.symm.trans (analyse_of_distinct hdistinct)
  obtain ⟨l, hl, hgreatest⟩ := hlevels _ (List.mem_cons_self : _ ∈ unevenGraph.nodes)
  have htop : unevenGraph.report.levels.get? "top" = some 2 := by decide +kernel
  obtain rfl : 2 = l := Option.some.inj (htop.symm.trans hl)
  exact ⟨_, hr, ⟨htop, hgreatest⟩, by decide +kernel, hparted⟩

end PromptChain.Graph
