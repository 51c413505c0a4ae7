/-
# Cycles among candidates

The candidates are some ids, and the graph among them is that of the nodes that have these ids
(`among`).  The search goes from an id to what waits for it and asks of the latter only whether it
is a candidate.  On a cycle every id is waited for by another, so all of them are then candidates,
and none is the id of no node: what the search can go around are the cycles among the candidates
(`transGen_follows_iff`).

So no cycle is found exactly when there is none among them (`cycleAmong_eq_nil_iff_acyclic`), and
what is found otherwise leads from dependency to dependent once around (`DependencyCycle`).
-/
import PromptChain.Proofs.Graph.Search

namespace PromptChain.Graph

variable {g : Graph} {candidates cycle : List String} {a d id : String}

/-! ## 1. The graph among some candidates -/

/-- The nodes whose ids are candidates. -/
def among (g : Graph) (candidates : List String) : Graph :=
  ⟨g.nodes.filter fun n => decide (n.id ∈ candidates)⟩

theorem mem_nodes_among {n : Node} :
    n ∈ (g.among candidates).nodes ↔ n ∈ g.nodes ∧ n.id ∈ candidates := by
  simp [among]

/-- Among candidates, those wait that are candidates. -/
theorem waits_among_iff : (g.among candidates).Waits a d ↔ g.Waits a d ∧ a ∈ candidates := by
  constructor
  · rintro ⟨n, hn, rfl, hd⟩
    obtain ⟨hn, hid⟩ := mem_nodes_among.1 hn
    exact ⟨⟨n, hn, rfl, hd⟩, hid⟩
  · rintro ⟨⟨n, hn, rfl, hd⟩, hid⟩
    exact ⟨n, mem_nodes_among.2 ⟨hn, hid⟩, rfl, hd⟩

/-- The search goes where something among the candidates waits for the id of a node. -/
theorem follows_iff :
    g.Follows candidates a d ↔ (g.among candidates).Waits a d ∧ d ∈ g.nodes.map (·.id) := by
  rw [Follows, mem_dependents, waits_among_iff]
  constructor
  · rintro ⟨⟨n, hn, hid, hd, hknown⟩, ha⟩
    exact ⟨⟨⟨n, hn, hid, hd⟩, ha⟩, List.mem_map.2 (knows_iff.1 hknown)⟩
  · rintro ⟨⟨⟨n, hn, hid, hd⟩, ha⟩, hknown⟩
    exact ⟨⟨n, hn, hid, hd, knows_iff.2 (List.mem_map.1 hknown)⟩, ha⟩

/-- **The search goes around just what is a cycle among the candidates.** -/
theorem transGen_follows_iff :
    Relation.TransGen (g.Follows candidates) id id ↔
      Relation.TransGen (g.among candidates).Waits id id := by
  constructor
  · exact Relation.TransGen.mono (fun _ _ h => (follows_iff.1 h).1) id id
  · intro hcycle
    have hids : ∀ {a d}, (g.among candidates).Waits a d → a ∈ g.nodes.map (·.id) :=
      fun h => (waits_among_iff.1 h).1.mem_ids
    obtain ⟨_, hfirst, -⟩ := Relation.TransGen.head'_iff.1 hcycle
    -- whatever is waited for on the way waits itself
    have hchain : ∀ a, Relation.TransGen (g.among candidates).Waits a id →
        a ∈ g.nodes.map (·.id) ∧ Relation.TransGen (g.Follows candidates) a id := by
      intro a ha
      induction ha using Relation.TransGen.head_induction_on with
      | single h => exact ⟨hids h, .single (follows_iff.2 ⟨h, hids hfirst⟩)⟩
      | head h _ ih => exact ⟨hids h, .head (follows_iff.2 ⟨h, ih.1⟩) ih.2⟩
    exact (hchain id hcycle).2

/-- **No cycle is found exactly when the graph among the candidates has none.** -/
theorem cycleAmong_eq_nil_iff_acyclic :
    g.cycleAmong candidates = [] ↔ (g.among candidates).Acyclic := by
  rw [cycleAmong_eq_nil_iff]
  exact forall_congr' fun id => not_congr transGen_follows_iff

/-! ## 2. Cycles of dependencies -/

/-- **Whether some ids are a cycle of dependencies**: different nodes have them, each is a dependency
of the next, and the last is one of the first. -/
structure DependencyCycle (g : Graph) (cycle : List String) : Prop where
  ne_nil : cycle ≠ []
  nodup : cycle.Nodup
  known : ∀ id ∈ cycle, id ∈ g.nodes.map (·.id)
  chain : cycle.IsChain fun d id => g.Waits id d
  closes : ∃ first ∈ cycle.head?, ∃ last ∈ cycle.getLast?, g.Waits first last

/-- What the search can go around is a cycle of dependencies among the candidates. -/
theorem IsCycle.dependencyCycle (h : g.IsCycle candidates cycle) :
    (g.among candidates).DependencyCycle cycle where
  ne_nil := h.ne_nil
  nodup := h.nodup
  known id hid := by
    obtain ⟨n, hn, rfl⟩ := List.mem_map.1 (h.known id hid)
    exact List.mem_map_of_mem (mem_nodes_among.2 ⟨hn, h.mem n.id hid⟩)
  chain := h.chain.imp fun _ _ hedge => (follows_iff.1 hedge).1
  closes := by
    obtain ⟨first, hfirst, last, hlast, hedge⟩ := h.closes
    exact ⟨first, hfirst, last, hlast, (follows_iff.1 hedge).1⟩

/-- A cycle among candidates is one of the whole graph. -/
theorem DependencyCycle.of_among (h : (g.among candidates).DependencyCycle cycle) :
    g.DependencyCycle cycle where
  ne_nil := h.ne_nil
  nodup := h.nodup
  known id hid := by
    obtain ⟨n, hn, rfl⟩ := List.mem_map.1 (h.known id hid)
    exact List.mem_map_of_mem (mem_nodes_among.1 hn).1
  chain := h.chain.imp fun _ _ hwaits => (waits_among_iff.1 hwaits).1
  closes := by
    obtain ⟨first, hfirst, last, hlast, hwaits⟩ := h.closes
    exact ⟨first, hfirst, last, hlast, (waits_among_iff.1 hwaits).1⟩

/-- When all ids are candidates, the graph among them is the whole. -/
theorem among_ids (g : Graph) : g.among g.ids = g := by
  obtain ⟨nodes⟩ := g
  rw [among, List.filter_eq_self.2]
  intro n hn
  exact decide_eq_true (mem_ids.2 (knows_iff.2 ⟨n, hn, rfl⟩))

/-- **The search for a cycle is sound and complete.**  Among any candidates, ids that no node has
among them or not, it finds nothing exactly when there is no cycle, and otherwise a cycle of
dependencies.  Without candidates to keep to, this is so of the whole graph. -/
theorem cycle_found_iff (g : Graph) (candidates : List String) :
    (g.cycleAmong candidates = [] ↔ (g.among candidates).Acyclic) ∧
    (g.cycleAmong candidates ≠ [] →
      (g.among candidates).DependencyCycle (g.cycleAmong candidates)) ∧
    (g.cycle = [] ↔ g.Acyclic) ∧
    (g.cycle ≠ [] → g.DependencyCycle g.cycle) := by
  refine ⟨cycleAmong_eq_nil_iff_acyclic, fun h => (isCycle_cycleAmong h).dependencyCycle, ?_,
    fun h => (isCycle_cycleAmong h).dependencyCycle.of_among⟩
  rw [Graph.cycle, cycleAmong_eq_nil_iff_acyclic, among_ids]

/-- Nodes with two cycles that share a node, one that waits for an id that no node has, and one
behind the cycles. -/
def tangledGraph : Graph := ⟨[
  { id := "a", kind := .static, references := ["b"] },
  { id := "b", kind := .static, references := ["c"] },
  { id := "c", kind := .static, references := ["a", "c", "none"] },
  { id := "d", kind := .static, references := ["a"] }]⟩

/-- The whole graph has the longer cycle; some of its nodes have the shorter one, and others none. -/
theorem cycle_found_iff_tangled :
    tangledGraph.cycle = ["a", "c", "b"] ∧ tangledGraph.DependencyCycle ["a", "c", "b"] ∧
    tangledGraph.cycleAmong ["none", "d", "c"] = ["c"] ∧
    (tangledGraph.among ["none", "d", "c"]).DependencyCycle ["c"] ∧
    (tangledGraph.among ["a", "b", "d"]).Acyclic := by
  have hwhole : tangledGraph.cycle = ["a", "c", "b"] := by decide
  have hsome : tangledGraph.cycleAmong ["none", "d", "c"] = ["c"] := by decide
  have hfound := (cycle_found_iff tangledGraph ["none", "d", "c"]).2.1 (by simp [hsome])
  have hlonger := (cycle_found_iff tangledGraph []).2.2.2 (by simp [hwhole])
  exact ⟨hwhole, hwhole ▸ hlonger, hsome, hsome ▸ hfound,
    (cycle_found_iff tangledGraph ["a", "b", "d"]).1.1 (by decide)⟩

end PromptChain.Graph
