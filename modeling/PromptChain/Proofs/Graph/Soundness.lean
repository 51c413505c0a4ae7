/-
# What a report says of the cycles

A report finds fault with a graph exactly when the graph has a cycle (`isValid_iff_acyclic`): a
node that refers to its own output is one, and otherwise the sweep leaves out what is entangled.
The cycle it reports is then found by the search, which is given all that is entangled and so
meets a cycle (`reportedCycle_eq_cycleAmong`).

No graph of nodes with distinct ids is refused a report: the order puts every dependency first,
and without an order there is nothing to put (`analyse_of_distinct`).  So a report sorts a graph
without cycles, and of any other it gives a cycle and nothing else (`report_sorts`).
-/
import PromptChain.Graph.Report
import PromptChain.Proofs.Graph.Batches
import PromptChain.Proofs.Graph.Cycles

namespace PromptChain.Graph

variable {g : Graph} {candidates : List String}

/-! ## 1. The cycle that is reported -/

/-- All that a cycle leads through is entangled. -/
theorem transGen_among (hall : ∀ id, g.Entangled id → id ∈ candidates) {c : String}
    (hcycle : Relation.TransGen g.Waits c c) :
    Relation.TransGen (g.among candidates).Waits c c := by
  have hwaits : ∀ {a d}, g.Waits a d → g.Entangled d → (g.among candidates).Waits a d :=
    fun h hd => waits_among_iff.2 ⟨h, hall _ (hd.of_waits h)⟩
  have hchain : ∀ a, Relation.TransGen g.Waits a c →
      Relation.TransGen (g.among candidates).Waits a c := by
    intro a ha
    induction ha using Relation.TransGen.head_induction_on with
    | single h => exact .single (hwaits h ⟨c, .refl, hcycle⟩)
    | head h hrest ih => exact .head (hwaits h ⟨c, hrest.to_reflTransGen, hcycle⟩) ih
  exact hchain c hcycle

/-- **Among candidates that hold all that is entangled, the search finds what there is.** -/
theorem cycleAmong_ne_nil (hall : ∀ id, g.Entangled id → id ∈ candidates) {id : String}
    (h : g.Entangled id) : g.cycleAmong candidates ≠ [] := by
  obtain ⟨c, -, hcycle⟩ := h
  intro hnil
  exact cycleAmong_eq_nil_iff_acyclic.1 hnil c (transGen_among hall hcycle)

section Distinct

variable (hdistinct : Distinct g.nodes)

include hdistinct

/-- **A graph is found to be valid exactly when it has no cycle.** -/
theorem isValid_iff_acyclic : g.report.isValid = true ↔ g.Acyclic := by
  have hself : g.Acyclic → g.selfReferences = [] := by
    intro hacyclic
    rw [selfReferences, List.map_eq_nil_iff, List.filter_eq_nil_iff]
    intro n hn hmem
    have hwaits : g.Waits n.id n.id :=
      ⟨n, hn, rfl, Node.mem_dependencies_of_mem_references (of_decide_eq_true hmem)⟩
    exact hacyclic n.id (.single hwaits)
  rw [← isOrdered_iff_acyclic hdistinct] at hself ⊢
  rw [Report.isValid, report, List.isEmpty_iff, List.append_eq_nil_iff]
  constructor
  · rintro ⟨-, hnil⟩
    by_contra hnot
    simp [hnot] at hnil
  · exact fun hordered => ⟨hself hordered, by simp [hordered]⟩

theorem isOrdered_eq_false (hcyclic : ¬ g.Acyclic) : g.isOrdered = false := by
  rwa [← isOrdered_iff_acyclic hdistinct, Bool.not_eq_true] at hcyclic

/-- **The reported cycle is the one the search finds** among any ids that are just those that are
entangled. -/
theorem reportedCycle_eq_cycleAmong (hall : ∀ id, id ∈ candidates ↔ g.Entangled id)
    (hcyclic : ¬ g.Acyclic) :
    g.report.cycle = g.cycleAmong candidates ∧ g.cycleAmong candidates ≠ [] := by
  have hunplaced : g.cycleAmong g.unplaced = g.cycleAmong candidates :=
    cycleAmong_congr fun id => (mem_unplaced_iff hdistinct).trans (hall id).symm
  have hfound : g.cycleAmong candidates ≠ [] := by
    obtain ⟨id, hent⟩ : ∃ id, g.Entangled id := by
      by_contra hnone
      exact hcyclic (acyclic_iff_not_entangled.2 fun id hent => hnone ⟨id, hent⟩)
    exact cycleAmong_ne_nil (fun id => (hall id).2) hent
  refine ⟨?_, hfound⟩
  simp [report, reportedCycle, isOrdered_eq_false hdistinct hcyclic, hunplaced, hfound]

end Distinct

/-! ## 2. No graph is refused -/

/-- When every dependency comes first, none is found that does not. -/
theorem unplacedAmong_eq_none {ids before : List String}
    (h : ∀ front id back, ids = front ++ id :: back →
      ∀ d ∈ g.dependenciesOf id, d ∈ front ∨ d ∈ before) : g.unplacedAmong before ids = none := by
  induction ids generalizing before with
  | nil => rfl
  | cons id rest ih =>
    have hfirst : (g.dependenciesOf id).find? (fun d => decide (d ∉ before)) = none := by
      rw [List.find?_eq_none]
      intro d hd
      simpa using (h [] id rest rfl d hd).resolve_left List.not_mem_nil
    rw [unplacedAmong, hfirst]
    refine ih fun front a back heq d hd => ?_
    rcases h (id :: front) a back (by rw [heq, List.cons_append]) d hd with hin | hin
    · rcases List.mem_cons.1 hin with rfl | hin
      · exact Or.inr List.mem_cons_self
      · exact Or.inl hin
    · exact Or.inr (List.mem_cons_of_mem id hin)

/-- **There is a report on every graph whose nodes have distinct ids.** -/
theorem analyse_of_distinct (hdistinct : Distinct g.nodes) : g.analyse = .ok g.report := by
  have hnone : g.unplacedDependency? = none := by
    refine unplacedAmong_eq_none fun front id back heq d hd => Or.inl ?_
    have hplaced : g.placed = front ++ id :: back := by
      rw [← heq, order]
      split
      · rfl
      · rename_i hnot
        simp [order, hnot] at heq
    have hid : id ∈ g.placed := hplaced ▸ List.mem_append_right _ List.mem_cons_self
    obtain ⟨n, hn, rfl⟩ := List.mem_map.1 (placed_subset_ids hdistinct hid)
    rw [dependenciesOf_eq hdistinct hn] at hd
    exact dependencies_before hdistinct hn hplaced hd
  rw [analyse, hnone]

/-! ## 3. What a report says -/

section Report

/-- **The order of a graph without cycles holds every id once.** -/
theorem order_perm_ids (hdistinct : Distinct g.nodes) (hacyclic : g.Acyclic) :
    g.order.Perm (g.nodes.map (·.id)) := by
  rw [order_eq_placed hdistinct hacyclic]
  refine (List.perm_ext_iff_of_nodup (nodup_placed hdistinct) hdistinct).2 fun id => ?_
  exact (mem_placed_iff hdistinct).trans (and_iff_left (acyclic_iff_not_entangled.1 hacyclic id))

/-- In the order every node stands behind the nodes that it waits for. -/
theorem exists_before (hdistinct : Distinct g.nodes) (hacyclic : g.Acyclic) {n : Node}
    (hn : n ∈ g.nodes) {d : String} (hd : d ∈ n.dependencies)
    (hknown : d ∈ g.nodes.map (·.id)) :
    ∃ before after, g.order = before ++ n.id :: after ∧ d ∈ before := by
  have hid : n.id ∈ g.placed := mem_placed_of_acyclic hdistinct hacyclic hn
  obtain ⟨before, after, heq⟩ := List.append_of_mem hid
  refine ⟨before, after, (order_eq_placed hdistinct hacyclic).trans heq, ?_⟩
  exact dependencies_before hdistinct hn heq
    (List.mem_filter.2 ⟨hd, knows_iff.2 (List.mem_map.1 hknown)⟩)

/-- A graph with a cycle has neither an order nor levels nor batches. -/
theorem unsorted_of_cyclic (hdistinct : Distinct g.nodes) (hcyclic : ¬ g.Acyclic) :
    g.order = [] ∧ g.levels = ⟨[]⟩ ∧ g.batches = [] := by
  have horder : g.order = [] := if_neg (Bool.eq_false_iff.1 (isOrdered_eq_false hdistinct hcyclic))
  have hlevels : g.levels = ⟨[]⟩ := by rw [levels, horder, List.foldl_nil]
  refine ⟨horder, hlevels, ?_⟩
  rw [batches, horder, hlevels]
  rfl

/-- The one error about cycles is that of the reported one. -/
theorem errors_filter_cycle (hdistinct : Distinct g.nodes) (hcyclic : ¬ g.Acyclic) :
    (g.report.errors.filter fun e => e.code == "CYCLE_DETECTED") = [.cycle g.report.cycle] := by
  have hself : (g.selfReferences.filter fun e => e.code == "CYCLE_DETECTED") = [] := by
    rw [List.filter_eq_nil_iff]
    intro e he
    obtain ⟨n, -, rfl⟩ := List.mem_map.1 he
    simp [Issue.code]
  rw [report, isOrdered_eq_false hdistinct hcyclic, List.filter_append, hself]
  rfl

/-- **A report sorts a graph without cycles, and shows a cycle of any other.**  There is a report on
every graph whose nodes have distinct ids, and it finds fault with those that have a cycle.  If there
is none, the order holds every id once, and every node stands in it behind the nodes that it waits
for.  If there is one, nothing is put in an order or on levels; there is one error about it; and the
cycle it gives is one of dependencies, which the search has found among the ids that are left.  An
id that no node has waits for nothing: it is on no cycle, and no node stands behind it. -/
theorem report_sorts (hdistinct : Distinct g.nodes) :
    ∃ r, g.analyse = .ok r ∧ (r.isValid = true ↔ g.Acyclic) ∧
      (g.Acyclic → r.order.Perm (g.nodes.map (·.id)) ∧
        ∀ n ∈ g.nodes, ∀ d ∈ n.dependencies, d ∈ g.nodes.map (·.id) →
          ∃ before after, r.order = before ++ n.id :: after ∧ d ∈ before) ∧
      (¬ g.Acyclic → (r.order = [] ∧ r.levels = ⟨[]⟩ ∧ g.batches = []) ∧
        (r.errors.filter fun e => e.code == "CYCLE_DETECTED") = [.cycle r.cycle] ∧
        g.DependencyCycle r.cycle ∧ r.cycle = g.cycleAmong g.unplaced) := by
  refine ⟨g.report, analyse_of_distinct hdistinct, isValid_iff_acyclic hdistinct,
    fun hacyclic => ⟨order_perm_ids hdistinct hacyclic, fun n hn d hd hknown =>
      exists_before hdistinct hacyclic hn hd hknown⟩,
    fun hcyclic => ⟨unsorted_of_cyclic hdistinct hcyclic, errors_filter_cycle hdistinct hcyclic, ?_⟩⟩
  obtain ⟨hreported, hfound⟩ :=
    reportedCycle_eq_cycleAmong hdistinct (fun _ => mem_unplaced_iff hdistinct) hcyclic
  refine ⟨?_, hreported⟩
  rw [hreported]
  exact (isCycle_cycleAmong hfound).dependencyCycle.of_among

/-- Nodes without a cycle, one of which has a child twice and waits for an id that no node has. -/
def sortedGraph : Graph := ⟨[
  { id := "a", kind := .static, children := ["b", "b"], references := ["none", "c"] },
  { id := "b", kind := .static, references := ["c"] },
  { id := "c", kind := .static }]⟩

/-- These nodes are sorted, and a cycle of those that are tangled is shown. -/
theorem report_sorts_tangled :
    (∃ r, sortedGraph.analyse = .ok r ∧ r.order = ["c", "b", "a"] ∧
      r.order.Perm ["a", "b", "c"]) ∧
    ∃ r, tangledGraph.analyse = .ok r ∧ r.isValid = false ∧ r.order = [] ∧
      r.errors = [.selfReference "c", .cycle ["a", "c", "b"]] ∧ r.cycle = ["a", "c", "b"] ∧
      tangledGraph.DependencyCycle r.cycle := by
  have hsorted : Distinct sortedGraph.nodes := by decide
  have htangled : Distinct tangledGraph.nodes := by decide
  constructor
  · obtain ⟨r, hr, hvalid, horder, -⟩ := report_sorts hsorted
    cases hr.symm.trans (analyse_of_distinct hsorted)
    exact ⟨_, hr, by decide +kernel, (horder (hvalid.1 (by decide +kernel))).1⟩
  · obtain ⟨r, hr, hvalid, -, hshown⟩ := report_sorts htangled
    cases hr.symm.trans (analyse_of_distinct htangled)
    have hrefused : tangledGraph.report.isValid = false := by decide +kernel
    have hcyclic : ¬ tangledGraph.Acyclic := by
      rw [← hvalid, hrefused]
      exact Bool.false_ne_true
    obtain ⟨⟨horder, -⟩, -, hcycle, -⟩ := hshown hcyclic
    exact ⟨_, hr, hrefused, horder, by decide +kernel, by decide +kernel, hcycle⟩

end Report

end PromptChain.Graph
