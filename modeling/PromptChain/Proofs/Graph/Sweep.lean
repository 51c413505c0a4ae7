/-
# What the sweep places

The sweep places an id when nothing that it waits for is left to be placed.  At any moment of it
the ids are of three sorts (`Swept`): those that are placed, those that are queued, and those that
still wait for something, with the number of their dependencies that are not placed.  A placed or
a queued id waits for placed ids only, and each of these was placed before it.

Taking an id from the queue counts it down once for every time an id names it as a dependency.
Read as a function from ids to numbers, the counts go down by just that (`countOf_release`), and
the ids that leave them are those whose count runs out (`mem_release`).  So the sweep keeps the
three sorts apart (`Swept.step`).

When the queue is empty, whatever is not placed waits for something that is not placed, so what is
placed are the ids that are not entangled (`mem_placed_iff`).  Everything is placed exactly when
there is no cycle (`isOrdered_iff_acyclic`).
-/
import PromptChain.Graph.Order
import PromptChain.Proofs.Graph.Acyclic
import PromptChain.Store

namespace PromptChain.Graph

/-! ## 1. Counts as a function -/

/-- How much an id waits for according to some counts. -/
def countOf (waiting : Counts) (id : String) : Nat := (waiting.lookup id).getD 0

/-- Whether no id is counted twice, and none that waits for nothing. -/
structure Proper (waiting : Counts) : Prop where
  nodup : (waiting.map (·.1)).Nodup
  pos : ∀ e ∈ waiting, 0 < e.2

section Counts

variable {waiting : Counts} {id other : String}

theorem countOf_cons (key : String) (n : Nat) (rest : Counts) (id : String) :
    countOf ((key, n) :: rest) id = if id = key then n else countOf rest id := by
  simp only [countOf, Store.lookup_cons_if]
  split <;> rfl

theorem Proper.tail {e : String × Nat} (h : Proper (e :: waiting)) : Proper waiting :=
  ⟨(List.nodup_cons.1 h.nodup).2, fun d hd => h.pos d (List.mem_cons_of_mem e hd)⟩

theorem countOf_eq_zero (h : id ∉ waiting.map (·.1)) : countOf waiting id = 0 := by
  induction waiting with
  | nil => rfl
  | cons e rest ih =>
    simp only [List.map_cons, List.mem_cons, not_or] at h
    rw [countOf_cons, if_neg h.1, ih h.2]

theorem map_fst_countDown_sublist (id : String) (waiting : Counts) :
    ((countDown id waiting).map (·.1)).Sublist (waiting.map (·.1)) := by
  induction waiting with
  | nil => exact List.Sublist.refl _
  | cons e rest ih =>
    obtain ⟨key, n⟩ := e
    simp only [countDown]
    split
    · split
      · exact List.sublist_cons_self _ _
      · exact List.Sublist.refl _
    · exact ih.cons_cons key

theorem Proper.countDown (h : Proper waiting) (id : String) : Proper (countDown id waiting) := by
  refine ⟨h.nodup.sublist (map_fst_countDown_sublist id waiting), ?_⟩
  induction waiting with
  | nil => exact h.pos
  | cons e rest ih =>
    obtain ⟨key, n⟩ := e
    intro d hd
    simp only [Graph.countDown] at hd
    split at hd
    · split at hd
      · exact h.tail.pos d hd
      · rcases List.mem_cons.1 hd with rfl | hd
        · exact Nat.sub_pos_of_lt (Nat.lt_of_not_le ‹_›)
        · exact h.tail.pos d hd
    · rcases List.mem_cons.1 hd with rfl | hd
      · exact h.pos _ List.mem_cons_self
      · exact ih h.tail d hd

/-- **Counting down an id takes one from its count** and leaves every other count. -/
theorem countOf_countDown (h : Proper waiting) (id other : String) :
    countOf (countDown id waiting) other =
      countOf waiting other - if other = id then 1 else 0 := by
  induction waiting with
  | nil => simp [countDown, countOf]
  | cons e rest ih =>
    obtain ⟨key, n⟩ := e
    by_cases hkey : key = id
    · subst hkey
      have hrest : countOf rest key = 0 := countOf_eq_zero (List.nodup_cons.1 h.nodup).1
      simp only [countDown, if_true]
      split
      · rw [countOf_cons]
        by_cases hother : other = key
        · subst hother
          simp only [if_true, hrest]
          omega
        · simp [hother]
      · rw [countOf_cons, countOf_cons]
        by_cases hother : other = key <;> simp [hother]
    · simp only [countDown, hkey, if_false, countOf_cons, ih h.tail]
      by_cases hother : other = key
      · subst hother
        simp [hkey]
      · simp [hother]

/-- An id leaves the counts when its count was one. -/
theorem length_countDown_lt_iff (h : Proper waiting) (id : String) :
    (countDown id waiting).length < waiting.length ↔ countOf waiting id = 1 := by
  induction waiting with
  | nil => simp [countDown, countOf]
  | cons e rest ih =>
    obtain ⟨key, n⟩ := e
    have hpos : 0 < n := h.pos (key, n) List.mem_cons_self
    by_cases hkey : key = id
    · simp only [countDown, hkey, if_true, countOf_cons]
      split <;> simp <;> omega
    · have hne : ¬ id = key := fun heq => hkey heq.symm
      simp only [countDown, hkey, if_false, List.length_cons, countOf_cons, hne, ← ih h.tail]
      omega

theorem Proper.release (h : Proper waiting) (ids : List String) : Proper (release ids waiting).2 := by
  induction ids generalizing waiting with
  | nil => exact h
  | cons id rest ih => exact ih (h.countDown id)

/-- **Counting down some ids takes from every count how often its id is among them.** -/
theorem countOf_release (h : Proper waiting) (ids : List String) (id : String) :
    countOf (release ids waiting).2 id = countOf waiting id - ids.count id := by
  induction ids generalizing waiting with
  | nil => rfl
  | cons a rest ih =>
    simp only [release, ih (h.countDown a), countOf_countDown h, List.count_cons, beq_iff_eq]
    by_cases hid : id = a
    · simp only [hid, if_true]
      omega
    · have hne : ¬ a = id := fun heq => hid heq.symm
      simp [hid, hne]

/-- **The ids that leave the counts are those whose count runs out.** -/
theorem mem_release (h : Proper waiting) (ids : List String) (id : String) :
    id ∈ (release ids waiting).1 ↔ 0 < countOf waiting id ∧ countOf waiting id ≤ ids.count id := by
  induction ids generalizing waiting with
  | nil =>
    simp only [release, List.not_mem_nil, List.count_nil, false_iff]
    omega
  | cons a rest ih =>
    have hrest := ih (h.countDown a)
    have hcount := countOf_countDown h a id
    simp only [release, length_countDown_lt_iff h, List.count_cons, beq_iff_eq]
    rw [hcount] at hrest
    by_cases hid : id = a
    · subst hid
      simp only [if_true] at hrest ⊢
      split
      · simp only [List.mem_cons, true_or, true_iff]
        omega
      · rw [hrest]
        omega
    · have hne : ¬ a = id := fun heq => hid heq.symm
      simp only [hid, hne, if_false, Nat.sub_zero, Nat.add_zero] at hrest ⊢
      split
      · rw [List.mem_cons, hrest]
        simp [hid]
      · exact hrest

/-- No id leaves the counts twice. -/
theorem nodup_release (h : Proper waiting) (ids : List String) : (release ids waiting).1.Nodup := by
  induction ids generalizing waiting with
  | nil => exact List.nodup_nil
  | cons a rest ih =>
    have hrest := ih (h.countDown a)
    simp only [release, length_countDown_lt_iff h]
    split
    · rename_i hone
      refine List.nodup_cons.2 ⟨fun hmem => ?_, hrest⟩
      have hpos := ((mem_release (h.countDown a) rest a).1 hmem).1
      rw [countOf_countDown h, hone] at hpos
      simp at hpos
    · exact hrest

/-- Counts made of a number for each of some ids, without those that wait for nothing. -/
theorem proper_filter (f : String → Nat) {ids : List String} (h : ids.Nodup) :
    Proper ((ids.map fun id => (id, f id)).filter fun e => decide (0 < e.2)) ∧
      ∀ id ∈ ids,
        countOf ((ids.map fun id => (id, f id)).filter fun e => decide (0 < e.2)) id = f id := by
  have hkeys : (ids.map fun id => (id, f id)).map (·.1) = ids := by
    rw [List.map_map]
    exact List.map_id _
  refine ⟨⟨(hkeys.symm ▸ h : List.Nodup _).sublist (List.filter_sublist.map _),
    fun e he => by simpa using (List.mem_filter.1 he).2⟩, fun id hid => ?_⟩
  clear hkeys
  induction ids with
  | nil => exact absurd hid List.not_mem_nil
  | cons a rest ih =>
    obtain ⟨hfresh, hrest⟩ := List.nodup_cons.1 h
    have hnone : countOf ((rest.map fun id => (id, f id)).filter fun e => decide (0 < e.2)) a = 0 := by
      refine countOf_eq_zero fun hmem => ?_
      obtain ⟨e, he, rfl⟩ := List.mem_map.1 hmem
      obtain ⟨b, hb, rfl⟩ := List.mem_map.1 (List.mem_of_mem_filter he)
      exact hfresh hb
    rw [List.map_cons, List.filter_cons]
    rcases List.mem_cons.1 hid with rfl | hid
    · split
      · rw [countOf_cons, if_pos rfl]
      · rename_i hzero
        rw [hnone, eq_comm]
        simpa using hzero
    · have hne : id ≠ a := fun heq => hfresh (heq ▸ hid)
      split
      · rw [countOf_cons, if_neg hne, ih hrest hid]
      · exact ih hrest hid

end Counts

/-! ## 2. The sweep -/

section Sweep

variable {g : Graph} {placed queue : List String} {waiting : Counts} {id : String}

/-- An id is among the dependents of another once for every time it names that. -/
theorem count_dependents (hdistinct : Distinct g.nodes) {n : Node} (hn : n ∈ g.nodes) (d : String) :
    (g.dependents d).count n.id = (g.knownDependencies n).count d := by
  have hall : ∀ {nodes : List Node}, Distinct nodes → n ∈ nodes →
      (nodes.flatMap fun m => ((g.knownDependencies m).filter (· == d)).map fun _ => m.id).count
        n.id = (g.knownDependencies n).count d := by
    intro nodes hnodes hmem
    induction nodes with
    | nil => exact absurd hmem List.not_mem_nil
    | cons m rest ih =>
      obtain ⟨hfresh, hrest⟩ := List.nodup_cons.1 hnodes
      have hhead : (((g.knownDependencies m).filter (· == d)).map fun _ => m.id).count n.id =
          if m.id = n.id then (g.knownDependencies m).count d else 0 := by
        rw [List.map_const', List.count_replicate, ← List.countP_eq_length_filter]
        simp only [beq_iff_eq]
        rfl
      rw [List.flatMap_cons, List.count_append, hhead]
      by_cases hid : m.id = n.id
      · obtain rfl := hnodes.eq_of_id_eq List.mem_cons_self hmem hid
        have hnone : (rest.flatMap fun k => ((g.knownDependencies k).filter (· == d)).map
            fun _ => k.id).count m.id = 0 := by
          rw [List.count_eq_zero]
          intro hin
          obtain ⟨k, hk, hkid⟩ := List.mem_flatMap.1 hin
          obtain ⟨_, _, heq⟩ := List.mem_map.1 hkid
          exact hfresh (List.mem_map.2 ⟨k, hk, heq⟩)
        rw [if_pos rfl, hnone, Nat.add_zero]
      · have hrestmem : n ∈ rest := by
          rcases List.mem_cons.1 hmem with rfl | hin
          · exact absurd rfl hid
          · exact hin
        rw [if_neg hid, Nat.zero_add, ih hrest hrestmem]
  exact hall hdistinct hn

/-- What holds at any moment of the sweep. -/
structure Swept (g : Graph) (placed queue : List String) (waiting : Counts) : Prop where
  proper : Proper waiting
  nodup : (placed ++ queue).Nodup
  known : ∀ id ∈ placed ++ queue, id ∈ g.nodes.map (·.id)
  /-- What is counted are the dependencies that are not placed. -/
  count : ∀ n ∈ g.nodes,
    countOf waiting n.id = (g.knownDependencies n).countP fun d => decide (d ∉ placed)
  /-- Placed or queued is who waits for no more. -/
  free : ∀ n ∈ g.nodes, n.id ∈ placed ++ queue ↔ countOf waiting n.id = 0
  /-- Every id comes after its dependencies. -/
  ordered : ∀ n ∈ g.nodes, ∀ before after, placed = before ++ n.id :: after →
    ∀ d ∈ g.knownDependencies n, d ∈ before

/-- Who is placed or queued waits for placed ids only, and nobody else does. -/
theorem Swept.mem_iff (h : g.Swept placed queue waiting) {n : Node} (hn : n ∈ g.nodes) :
    n.id ∈ placed ++ queue ↔ ∀ d ∈ g.knownDependencies n, d ∈ placed := by
  rw [h.free n hn, h.count n hn, List.countP_eq_zero]
  simp

/-- When an id is placed, the number of ids that are not goes down by those that it is. -/
theorem countP_not_mem_eq (hfresh : id ∉ placed) (ds : List String) :
    ds.countP (fun d => decide (d ∉ placed)) =
      ds.countP (fun d => decide (d ∉ placed ++ [id])) + ds.count id := by
  induction ds with
  | nil => rfl
  | cons d ds ih =>
    simp only [List.countP_cons, List.count_cons, ih, List.mem_append, List.mem_singleton]
    by_cases hd : d = id
    · subst hd
      simp [hfresh]
      omega
    · simp [hd]
      omega

/-- **Placing the first of the queue.** -/
theorem Swept.step (hdistinct : Distinct g.nodes) {rest : List String}
    (h : g.Swept placed (id :: rest) waiting) :
    g.Swept (placed ++ [id]) (rest ++ (release (g.dependents id) waiting).1)
      (release (g.dependents id) waiting).2 := by
  have hsplit : ∀ more : List String, (placed ++ [id]) ++ (rest ++ more) =
      (placed ++ id :: rest) ++ more := by
    intro more
    simp
  have hfresh : id ∉ placed := by
    intro hmem
    exact (List.nodup_append.1 h.nodup).2.2 id hmem id List.mem_cons_self rfl
  have hcount : ∀ n ∈ g.nodes, countOf waiting n.id =
      ((g.knownDependencies n).countP fun d => decide (d ∉ placed ++ [id])) +
        (g.knownDependencies n).count id := by
    intro n hn
    rw [h.count n hn, countP_not_mem_eq hfresh]
  have hleft : ∀ n ∈ g.nodes, countOf (release (g.dependents id) waiting).2 n.id =
      (g.knownDependencies n).countP fun d => decide (d ∉ placed ++ [id]) := by
    intro n hn
    rw [countOf_release h.proper, count_dependents hdistinct hn, hcount n hn, Nat.add_sub_cancel]
  have hreleased : ∀ n ∈ g.nodes, n.id ∈ (release (g.dependents id) waiting).1 ↔
      0 < countOf waiting n.id ∧ countOf (release (g.dependents id) waiting).2 n.id = 0 := by
    intro n hn
    rw [mem_release h.proper, countOf_release h.proper, Nat.sub_eq_zero_iff_le]
  have hwaits : ∀ a ∈ (release (g.dependents id) waiting).1, a ∈ g.nodes.map (·.id) := by
    intro a ha
    have hpos := ((mem_release h.proper _ a).1 ha)
    have hmem : a ∈ g.dependents id := List.count_pos_iff.1 (Nat.lt_of_lt_of_le hpos.1 hpos.2)
    obtain ⟨n, hn, rfl, -⟩ := mem_dependents.1 hmem
    exact List.mem_map_of_mem hn
  refine ⟨h.proper.release _, ?_, ?_, hleft, ?_, ?_⟩
  · rw [hsplit]
    refine List.Nodup.append h.nodup (nodup_release h.proper _) fun a hold hnew => ?_
    obtain ⟨n, hn, rfl⟩ := List.mem_map.1 (h.known a hold)
    have hzero := (h.free n hn).1 hold
    have hpos := ((hreleased n hn).1 hnew).1
    omega
  · intro a ha
    rw [hsplit, List.mem_append] at ha
    rcases ha with ha | ha
    · exact h.known a ha
    · exact hwaits a ha
  · intro n hn
    have hless : countOf (release (g.dependents id) waiting).2 n.id ≤ countOf waiting n.id := by
      rw [hleft n hn, hcount n hn]
      exact Nat.le_add_right _ _
    rw [hsplit, List.mem_append, hreleased n hn, h.free n hn]
    omega
  · intro n hn before after heq d hd
    rcases List.eq_nil_or_concat after with rfl | ⟨front, last, rfl⟩
    · obtain ⟨rfl, hid⟩ := List.append_inj' heq rfl
      obtain rfl : id = n.id := by simpa using hid
      exact (h.mem_iff hn).1 (by simp) d hd
    · have hlast : placed ++ [id] = (before ++ n.id :: front) ++ [last] := by simpa using heq
      exact h.ordered n hn before front (List.append_inj' hlast rfl).1 d hd

/-- Nothing is placed at the start, and what waits for nothing is queued. -/
theorem swept_start (hdistinct : Distinct g.nodes) : g.Swept [] g.sources g.counts := by
  have hdegree : ∀ n ∈ g.nodes, g.degree n.id = (g.knownDependencies n).length := by
    intro n hn
    rw [degree, find?_of_distinct hdistinct hn]
  have hids : g.ids.Nodup := by
    rw [ids_of_distinct hdistinct]
    exact hdistinct
  obtain ⟨hproper, hcounts⟩ := proper_filter g.degree hids
  have hcount : ∀ n ∈ g.nodes, countOf g.counts n.id = g.degree n.id := by
    intro n hn
    exact hcounts n.id (mem_ids.2 (knows_iff.2 ⟨n, hn, rfl⟩))
  refine ⟨hproper, ?_, ?_, ?_, ?_, ?_⟩
  · exact List.Nodup.sublist List.filter_sublist hdistinct
  · exact fun id hid => (List.mem_filter.1 hid).1
  · intro n hn
    rw [hcount n hn, hdegree n hn]
    simp
  · intro n hn
    rw [hcount n hn, List.nil_append, sources, List.mem_filter]
    simp only [List.mem_map_of_mem hn, true_and, beq_iff_eq]
  · intro n hn before after heq
    simp at heq

/-- The sweep goes on until the queue is empty. -/
theorem Swept.sweep (hdistinct : Distinct g.nodes) (h : g.Swept placed queue waiting) :
    ∃ left, g.Swept (placed ++ g.sweep queue waiting) [] left := by
  induction queue, waiting using Graph.sweep.induct (g := g) generalizing placed with
  | case1 waiting =>
    rw [Graph.sweep, List.append_nil]
    exact ⟨waiting, h⟩
  | case2 waiting id rest ih =>
    rw [Graph.sweep]
    simpa using ih (h.step hdistinct)

theorem placed_swept (hdistinct : Distinct g.nodes) : ∃ left, g.Swept g.placed [] left :=
  (swept_start hdistinct).sweep hdistinct

/-! ## 3. What is placed -/

/-- No id is placed twice. -/
theorem nodup_placed (hdistinct : Distinct g.nodes) : g.placed.Nodup := by
  obtain ⟨_, h⟩ := placed_swept hdistinct
  simpa using h.nodup

theorem placed_subset_ids (hdistinct : Distinct g.nodes) (hid : id ∈ g.placed) :
    id ∈ g.nodes.map (·.id) := by
  obtain ⟨_, h⟩ := placed_swept hdistinct
  exact h.known id (by simpa using hid)

/-- **Every id is placed after its dependencies.** -/
theorem dependencies_before (hdistinct : Distinct g.nodes) {n : Node} (hn : n ∈ g.nodes)
    {before after : List String} (heq : g.placed = before ++ n.id :: after) {d : String}
    (hd : d ∈ g.knownDependencies n) : d ∈ before := by
  obtain ⟨_, h⟩ := placed_swept hdistinct
  exact h.ordered n hn before after heq d hd

/-- What is placed is not entangled, as a first one would wait for another before it. -/
theorem not_entangled_of_mem_placed (hdistinct : Distinct g.nodes) (hid : id ∈ g.placed) :
    ¬ g.Entangled id := by
  have hprefix : ∀ before after, g.placed = before ++ after → ∀ a ∈ before, ¬ g.Entangled a := by
    intro before
    induction before using List.reverseRecOn with
    | nil => simp
    | append_singleton before b ih =>
      intro after heq a ha hent
      rw [List.append_assoc, List.singleton_append] at heq
      rcases List.mem_append.1 ha with ha | ha
      · exact ih (b :: after) heq a ha hent
      · obtain rfl := List.mem_singleton.1 ha
        obtain ⟨d, ⟨n, hn, rfl, hd⟩, hrest⟩ := hent.exists_waits
        have hknown : d ∈ g.knownDependencies n :=
          List.mem_filter.2 ⟨hd, knows_iff.2 (List.mem_map.1 hrest.mem_ids)⟩
        exact ih (n.id :: after) heq d (dependencies_before hdistinct hn heq hknown) hrest
  exact hprefix g.placed [] (List.append_nil _).symm id hid

/-- **The ids that are placed are those that are not entangled.** -/
theorem mem_placed_iff (hdistinct : Distinct g.nodes) :
    id ∈ g.placed ↔ id ∈ g.nodes.map (·.id) ∧ ¬ g.Entangled id := by
  constructor
  · exact fun h => ⟨placed_subset_ids hdistinct h, not_entangled_of_mem_placed hdistinct h⟩
  · rintro ⟨hid, hfree⟩
    obtain ⟨_, h⟩ := placed_swept hdistinct
    refine induction_of_not_entangled (fun n hn hdeps => ?_) hid hfree
    have hmem := h.mem_iff hn
    rw [List.append_nil] at hmem
    refine hmem.2 fun d hd => ?_
    obtain ⟨hd, hknown⟩ := List.mem_filter.1 hd
    obtain ⟨m, hm, rfl⟩ := knows_iff.1 hknown
    exact hdeps m.id hd (List.mem_map_of_mem hm)

/-- The ids that are not placed are those that are entangled. -/
theorem mem_unplaced_iff (hdistinct : Distinct g.nodes) : id ∈ g.unplaced ↔ g.Entangled id := by
  simp only [unplaced, List.mem_filter, decide_eq_true_eq, ids_of_distinct hdistinct,
    mem_placed_iff hdistinct, not_and, not_not]
  exact ⟨fun h => h.2 h.1, fun h => ⟨h.mem_ids, fun _ => h⟩⟩

/-- **Everything is placed exactly when there is no cycle.** -/
theorem isOrdered_iff_acyclic (hdistinct : Distinct g.nodes) :
    g.isOrdered = true ↔ g.Acyclic := by
  have hsub : g.placed.Subperm (g.nodes.map (·.id)) :=
    List.subperm_of_subset (nodup_placed hdistinct) fun _ h => placed_subset_ids hdistinct h
  rw [isOrdered, beq_iff_eq, ids_of_distinct hdistinct, acyclic_iff_not_entangled]
  constructor
  · intro hlength id hent
    have hperm := hsub.perm_of_length_le hlength.ge
    exact not_entangled_of_mem_placed hdistinct (hperm.mem_iff.2 hent.mem_ids) hent
  · intro hfree
    refine Nat.le_antisymm hsub.length_le (List.Subperm.length_le ?_)
    exact List.subperm_of_subset hdistinct fun id hid => (mem_placed_iff hdistinct).2 ⟨hid, hfree id⟩

theorem order_eq_placed (hdistinct : Distinct g.nodes) (h : g.Acyclic) : g.order = g.placed := by
  have hall := (isOrdered_iff_acyclic hdistinct).2 h
  simp only [order]
  rw [if_pos (by simpa [isOrdered] using hall)]

end Sweep
end PromptChain.Graph
