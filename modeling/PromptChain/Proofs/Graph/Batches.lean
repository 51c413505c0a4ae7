/-
# Batches and waves

Levels are filled along the order.  As an id comes after its dependencies and no id comes twice,
what was filled when an id is reached are the levels of its dependencies for good; so in the end
every level is one above the levels of the dependencies (`Leveled`).

The levels below a level are all taken, for a node on level `k + 1` has a dependency on level `k`
(`exists_dependency_level`).  So there is a batch for every level that is taken and for no other
(`lt_length_batches_iff_level`), and it holds the ids on that level (`mem_batch_iff_level`).

When the nodes wait for each other only, a node that is settled by wave `k` has a dependency in
wave `k - 1`, unless `k` is zero, and all of them before wave `k`.  So its level is `k`
(`get?_levels_of_mem_wave`), and the batches are the waves (`lt_length_batches_iff`,
`mem_batch_iff`).
-/
import PromptChain.Graph.Levels
import PromptChain.Proofs.Graph.Sweep

namespace PromptChain.Graph

variable {g : Graph} {id : String}

/-! ## 1. Filling in the levels -/

theorem above_le_iff {levels : List Nat} {k : Nat} : above levels ≤ k ↔ ∀ l ∈ levels, l < k := by
  have hfold : ∀ m, levels.foldl (fun m l => max m (l + 1)) m ≤ k ↔
      m ≤ k ∧ ∀ l ∈ levels, l < k := by
    induction levels with
    | nil => simp
    | cons l rest ih =>
      intro m
      rw [List.foldl_cons, ih, List.forall_mem_cons, Nat.max_le, Nat.succ_le_iff, and_assoc]
  rw [above, hfold]
  simp

/-- What levels filled along some ids hold: for each of them one more than its dependencies', and
for no other id anything. -/
structure Leveled (g : Graph) (ids : List String) (levels : Store Nat) : Prop where
  stored : levels.ids = ids
  level : ∀ id ∈ ids, levels.get? id = some (above ((g.dependenciesOf id).filterMap levels.get?))

/-- **The next id, all of whose dependencies have their levels, gets its own.** -/
theorem Leveled.addLevel {ids : List String} {levels : Store Nat} (h : g.Leveled ids levels)
    (hfresh : id ∉ ids) (hdeps : ∀ a ∈ ids ++ [id], ∀ d ∈ g.dependenciesOf a, d ∈ ids) :
    g.Leveled (ids ++ [id]) (g.addLevel levels id) := by
  -- the levels that matter for any of the ids stay
  have hkept : ∀ a ∈ ids ++ [id], (g.dependenciesOf a).filterMap (g.addLevel levels id).get? =
      (g.dependenciesOf a).filterMap levels.get? := by
    intro a ha
    refine List.filterMap_congr fun d hd => Store.get?_put_ne _ _ ?_
    exact fun heq => hfresh (heq ▸ hdeps a ha d hd)
  refine ⟨?_, fun a ha => ?_⟩
  · rw [Graph.addLevel, Store.ids_put, h.stored, if_neg hfresh]
  · rw [hkept a ha]
    by_cases heq : a = id
    · subst heq
      exact Store.get?_put_self _ _ _
    · rw [Graph.addLevel, Store.get?_put_ne _ _ heq]
      exact h.level a ((List.mem_append.1 ha).resolve_right (by simpa using heq))

theorem dependenciesOf_eq (hdistinct : Distinct g.nodes) {n : Node} (hn : n ∈ g.nodes) :
    g.dependenciesOf n.id = g.knownDependencies n := by
  rw [dependenciesOf, find?_of_distinct hdistinct hn]

/-- **Along the order, every level is one above the levels of the dependencies.** -/
theorem leveled_placed (hdistinct : Distinct g.nodes) :
    g.Leveled g.placed (g.placed.foldl g.addLevel ⟨[]⟩) := by
  have hprefix : ∀ before after, g.placed = before ++ after →
      g.Leveled before (before.foldl g.addLevel ⟨[]⟩) := by
    intro before
    induction before using List.reverseRecOn with
    | nil => exact fun _ _ => ⟨rfl, by simp⟩
    | append_singleton before id ih =>
      intro after heq
      rw [List.foldl_append]
      have hsplit : g.placed = before ++ id :: after := by simpa using heq
      have hnodup := hsplit ▸ nodup_placed hdistinct
      have hfresh : id ∉ before := fun hmem =>
        (List.nodup_append.1 hnodup).2.2 id hmem id List.mem_cons_self rfl
      refine (ih _ hsplit).addLevel hfresh fun a ha d hd => ?_
      obtain ⟨n, hn, rfl⟩ := List.mem_map.1
        (placed_subset_ids hdistinct (heq ▸ List.mem_append_left after ha))
      rw [dependenciesOf_eq hdistinct hn] at hd
      rcases List.mem_append.1 ha with ha | ha
      · obtain ⟨front, back, rfl⟩ := List.append_of_mem ha
        rw [List.append_assoc, List.cons_append] at hsplit
        exact List.mem_append_left _ (dependencies_before hdistinct hn hsplit hd)
      · obtain rfl := List.mem_singleton.1 ha
        exact dependencies_before hdistinct hn hsplit hd
  exact hprefix g.placed [] (List.append_nil _).symm

theorem leveled_levels (hdistinct : Distinct g.nodes) (hacyclic : g.Acyclic) :
    g.Leveled g.placed g.levels := by
  rw [levels, order_eq_placed hdistinct hacyclic]
  exact leveled_placed hdistinct

theorem mem_placed_of_acyclic (hdistinct : Distinct g.nodes) (hacyclic : g.Acyclic) {n : Node}
    (hn : n ∈ g.nodes) : n.id ∈ g.placed :=
  (mem_placed_iff hdistinct).2 ⟨List.mem_map_of_mem hn, acyclic_iff_not_entangled.1 hacyclic n.id⟩

/-! ## 2. Levels and batches -/

section Levels

variable (hdistinct : Distinct g.nodes) (hacyclic : g.Acyclic) {n : Node} {k : Nat}

include hdistinct hacyclic

/-- Without cycles a node has one more than the levels of its known dependencies. -/
theorem get?_levels (hn : n ∈ g.nodes) :
    g.levels.get? n.id = some (above ((g.knownDependencies n).filterMap g.levels.get?)) := by
  rw [← dependenciesOf_eq hdistinct hn]
  exact (leveled_levels hdistinct hacyclic).level n.id
    (mem_placed_of_acyclic hdistinct hacyclic hn)

/-- Only nodes have levels. -/
theorem exists_node_of_level (h : g.levels.get? id = some k) : ∃ n ∈ g.nodes, n.id = id := by
  have hid : id ∈ g.levels.ids := Store.mem_ids_iff.2 ⟨k, h⟩
  rw [(leveled_levels hdistinct hacyclic).stored] at hid
  exact List.mem_map.1 (placed_subset_ids hdistinct hid)

/-- **A known dependency is on a lower level.** -/
theorem exists_lower_level (hn : n ∈ g.nodes) (hlevel : g.levels.get? n.id = some k) {d : String}
    (hd : d ∈ g.knownDependencies n) : ∃ j < k, g.levels.get? d = some j := by
  obtain ⟨m, hm, rfl⟩ := knows_iff.1 (List.mem_filter.1 hd).2
  have hdep := get?_levels hdistinct hacyclic hm
  refine ⟨_, ?_, hdep⟩
  rw [get?_levels hdistinct hacyclic hn, Option.some.injEq] at hlevel
  exact above_le_iff.1 hlevel.le _ (List.mem_filterMap.2 ⟨m.id, hd, hdep⟩)

/-- **Above the first level a node has a dependency on the level right below its own.** -/
theorem exists_dependency_level (hn : n ∈ g.nodes)
    (hlevel : g.levels.get? n.id = some (k + 1)) :
    ∃ d ∈ g.knownDependencies n, g.levels.get? d = some k := by
  by_contra hnone
  -- were all dependencies on lower levels still, the node would be on a lower one itself
  have hlow : above ((g.knownDependencies n).filterMap g.levels.get?) ≤ k := by
    refine above_le_iff.2 fun l hl => ?_
    obtain ⟨d, hd, hget⟩ := List.mem_filterMap.1 hl
    obtain ⟨j, hj, hsome⟩ := exists_lower_level hdistinct hacyclic hn hlevel hd
    obtain rfl : j = l := Option.some.inj (hsome.symm.trans hget)
    exact Nat.lt_of_le_of_ne (Nat.le_of_lt_succ hj) fun heq => hnone ⟨d, hd, heq ▸ hget⟩
  rw [get?_levels hdistinct hacyclic hn, Option.some.injEq] at hlevel
  omega

/-- Below a level that is taken every other is. -/
theorem exists_level_of_le {j : Nat} (hj : j ≤ k) (h : g.levels.get? id = some k) :
    ∃ a, g.levels.get? a = some j := by
  induction k generalizing id with
  | zero => exact ⟨id, Nat.le_zero.1 hj ▸ h⟩
  | succ k ih =>
    rcases Nat.le_succ_iff.1 hj with hle | rfl
    · obtain ⟨n, hn, rfl⟩ := exists_node_of_level hdistinct hacyclic h
      obtain ⟨d, -, hd⟩ := exists_dependency_level hdistinct hacyclic hn h
      exact ih hle hd
    · exact ⟨id, h⟩

/-- **There are as many batches as levels that are taken.** -/
theorem lt_length_batches_iff_level :
    k < g.batches.length ↔ ∃ id, g.levels.get? id = some k := by
  have hnodup : g.levels.ids.Nodup :=
    (leveled_levels hdistinct hacyclic).stored ▸ nodup_placed hdistinct
  have hentry : ∀ l, l ∈ g.levels.entries.map (·.2) ↔ ∃ id, g.levels.get? id = some l := by
    intro l
    rw [List.mem_map]
    constructor
    · rintro ⟨⟨id, l⟩, he, rfl⟩
      exact ⟨id, (Store.mem_entries_iff hnodup).1 he⟩
    · rintro ⟨id, hid⟩
      exact ⟨(id, l), (Store.mem_entries_iff hnodup).2 hid, rfl⟩
  rw [batches, List.length_map, List.length_range, ← Nat.not_le, above_le_iff]
  constructor
  · intro hnot
    by_contra hnone
    refine hnot fun l hl => Nat.lt_of_not_le fun hle => hnone ?_
    obtain ⟨id, hid⟩ := (hentry l).1 hl
    exact exists_level_of_le hdistinct hacyclic hle hid
  · intro htaken hall
    exact Nat.lt_irrefl k (hall k ((hentry k).2 htaken))

/-- **A batch holds the ids on its level.** -/
theorem mem_batch_iff_level {batch : List String} (h : g.batches[k]? = some batch) :
    id ∈ batch ↔ g.levels.get? id = some k := by
  rw [batches, List.getElem?_map, Option.map_eq_some_iff] at h
  obtain ⟨l, hl, rfl⟩ := h
  obtain rfl : k = l := by
    rw [List.getElem?_eq_some_iff] at hl
    obtain ⟨_, hl⟩ := hl
    rwa [List.getElem_range] at hl
  rw [List.mem_filter, order_eq_placed hdistinct hacyclic, beq_iff_eq]
  refine and_iff_right_of_imp fun hlevel => ?_
  obtain ⟨n, hn, rfl⟩ := exists_node_of_level hdistinct hacyclic hlevel
  exact mem_placed_of_acyclic hdistinct hacyclic hn

end Levels

/-! ## 3. Levels and waves -/

section Waves

variable (hdistinct : Distinct g.nodes)
  (hknown : ∀ n ∈ g.nodes, ∀ d ∈ n.dependencies, d ∈ g.nodes.map (·.id)) (hacyclic : g.Acyclic)

include hdistinct hknown hacyclic

/-- **A node of wave `k` has level `k`.** -/
theorem get?_levels_of_mem_wave {k : Nat} {n : Node} (hn : n ∈ g.wave k) :
    g.levels.get? n.id = some k := by
  induction k using Nat.strongRecOn generalizing n with
  | _ k ih =>
    obtain ⟨hmem, hnot, hdeps⟩ := mem_wave.1 hn
    have hlevel : ∀ d ∈ n.dependencies,
        ∃ j < k, d ∈ g.settled (j + 1) ∧ g.levels.get? d = some j := by
      intro d hd
      obtain ⟨j, hj, m, hm, rfl⟩ := exists_wave_of_mem_settled (hdeps d hd)
      exact ⟨j, hj, mem_settled_succ.2 (Or.inr ⟨m, hm, rfl⟩), ih j hj hm⟩
    have hdeps : g.knownDependencies n = n.dependencies := by
      rw [knownDependencies, List.filter_eq_self]
      exact fun d hd => knows_iff.2 (List.mem_map.1 (hknown n hmem d hd))
    rw [get?_levels hdistinct hacyclic hmem, hdeps, Option.some.injEq]
    refine Nat.le_antisymm (above_le_iff.2 fun l hl => ?_) (Nat.le_of_not_lt fun hlt => hnot ?_)
    · obtain ⟨d, hd, hget⟩ := List.mem_filterMap.1 hl
      obtain ⟨j, hj, -, hsome⟩ := hlevel d hd
      obtain rfl : j = l := Option.some.inj (hsome.symm.trans hget)
      exact hj
    -- were all levels lower, the node would have been settled by an earlier wave
    · have hsettled : ∀ d ∈ n.dependencies,
          d ∈ g.settled (above (n.dependencies.filterMap g.levels.get?)) := by
        intro d hd
        obtain ⟨j, -, hj, hget⟩ := hlevel d hd
        exact settled_mono
          (above_le_iff.1 (Nat.le_refl _) j (List.mem_filterMap.2 ⟨d, hd, hget⟩)) hj
      by_contra hearly
      have hwave : n ∈ g.wave (above (n.dependencies.filterMap g.levels.get?)) :=
        mem_wave.2 ⟨hmem, fun hin => hearly (settled_mono hlt.le hin), hsettled⟩
      exact hearly (settled_mono hlt (mem_settled_succ.2 (Or.inr ⟨n, hwave, rfl⟩)))

/-- The levels of the nodes are the numbers of their waves. -/
theorem get?_levels_iff {k : Nat} {n : Node} (hn : n ∈ g.nodes) :
    g.levels.get? n.id = some k ↔ n ∈ g.wave k := by
  constructor
  · intro h
    obtain ⟨j, hj⟩ := settles_iff_settled.1 (settles_of_acyclic hacyclic hknown hn)
    obtain ⟨i, -, m, hm, hid⟩ := exists_wave_of_mem_settled hj
    obtain rfl := hdistinct.eq_of_id_eq (mem_wave.1 hm).1 hn hid
    obtain rfl : i = k :=
      Option.some.inj ((get?_levels_of_mem_wave hdistinct hknown hacyclic hm).symm.trans h)
    exact hm
  · exact get?_levels_of_mem_wave hdistinct hknown hacyclic

/-! ## 4. Batches and waves -/

/-- **There are as many batches as waves that settle something.** -/
theorem lt_length_batches_iff {k : Nat} : k < g.batches.length ↔ g.wave k ≠ [] := by
  rw [lt_length_batches_iff_level hdistinct hacyclic]
  constructor
  · rintro ⟨id, hid⟩
    obtain ⟨n, hn, rfl⟩ := exists_node_of_level hdistinct hacyclic hid
    exact List.ne_nil_of_mem ((get?_levels_iff hdistinct hknown hacyclic hn).1 hid)
  · intro hne
    obtain ⟨n, hn⟩ := List.exists_mem_of_ne_nil _ hne
    exact ⟨n.id, get?_levels_of_mem_wave hdistinct hknown hacyclic hn⟩

/-- **A batch holds the ids of its wave.** -/
theorem mem_batch_iff {k : Nat} {batch : List String} (h : g.batches[k]? = some batch) :
    id ∈ batch ↔ ∃ n ∈ g.wave k, n.id = id := by
  rw [mem_batch_iff_level hdistinct hacyclic h]
  constructor
  · intro hid
    obtain ⟨n, hn, rfl⟩ := exists_node_of_level hdistinct hacyclic hid
    exact ⟨n, (get?_levels_iff hdistinct hknown hacyclic hn).1 hid, rfl⟩
  · rintro ⟨n, hn, rfl⟩
    exact get?_levels_of_mem_wave hdistinct hknown hacyclic hn

end Waves

end PromptChain.Graph
