/-
# The report foretells the deadlock

The report on a script is made without running it.  What it says of cycles is what happens: when it
finds nothing wrong no run of the script is ever deadlocked, and when it does no run is completed.
A run that meets no failure is then in the deadlock that the report foretells: between the nodes
from which a cycle can be reached, with the cycle that the report shows, and with every other node
completed (`report_foretells_deadlock`).

Three walks through the graph are compared here.  The report leaves out what the sweep cannot
place, which is what is entangled (`Graph.mem_unplaced_iff`); a run leaves out what no wave
settles, and that is the same (`Graph.settles_iff_not_entangled`); and the search for a cycle looks
only at who is left out (`Graph.reportedCycle_eq_cycleAmong`).
-/
import PromptChain.Proofs.Graph.Soundness
import PromptChain.Proofs.Run.Scripts

namespace PromptChain

open PromptChain.Graph Snapshot

/-- A deadlock that can be read off the graph of some nodes. -/
structure Deadlock.Foretold (nodes : List Node) (d : Deadlock) : Prop where
  /-- The pending nodes are in the order of the nodes. -/
  declared : d.pending.Sublist (nodes.map (·.id))
  /-- They are those from which a cycle can be reached. -/
  entangled : ∀ id, id ∈ d.pending ↔ (Graph.mk nodes).Entangled id
  nonempty : d.cycle ≠ []
  reported : d.cycle = (Graph.mk nodes).report.cycle

/-- Whether a run that came to an end came to the one that the graph of its nodes foretells. -/
structure Foretells (nodes : List Node) (isValid : Bool) (x : Execution)
    (fault : Option RunFault) : Prop where
  valid : isValid = true → ∀ d, fault ≠ some (.deadlock d)
  stopped : isValid = false → fault ≠ none
  /-- Without a failure there is the deadlock, and whoever is not in it is completed. -/
  deadlock : isValid = false → (∀ n ∈ nodes, x.phase? n.id ≠ some .failed) →
    ∃ d : Deadlock, fault = some (.deadlock d) ∧ d.Foretold nodes ∧
      ∀ n ∈ nodes, n.id ∉ d.pending → x.phase? n.id = some .completed

section Foretold

variable {s : Setup} (hdistinct : Distinct s.nodes)
  (hknown : ∀ n ∈ s.nodes, ∀ d ∈ n.dependencies, d ∈ s.nodes.map (·.id))

include hdistinct hknown

/-- The nodes that are left out when nothing can run any more are those that are entangled. -/
theorem mem_deadlockAfter_pending {k : Nat} (hnil : s.graph.wave k = []) {id : String} :
    id ∈ (s.deadlockAfter k).pending ↔ s.graph.Entangled id := by
  simp only [Setup.deadlockAfter, List.mem_filter, decide_eq_true_eq]
  rw [← settles_iff_of_wave_eq_nil hnil]
  constructor
  · rintro ⟨hid, hnot⟩
    rwa [settles_iff_not_entangled (g := s.graph) hdistinct hknown hid, not_not] at hnot
  · exact fun h => ⟨h.mem_ids, fun hset => hset.not_entangled hdistinct h⟩

/-- **The deadlock after the last round is the one that is foretold.** -/
theorem foretold_deadlockAfter {k : Nat} (hnil : s.graph.wave k = [])
    (hcyclic : ¬ s.graph.Acyclic) : (s.deadlockAfter k).Foretold s.nodes := by
  obtain ⟨hreported, hnonempty⟩ := reportedCycle_eq_cycleAmong (g := s.graph) hdistinct
    (fun _ => mem_deadlockAfter_pending hdistinct hknown hnil) hcyclic
  exact ⟨List.filter_sublist, fun _ => mem_deadlockAfter_pending hdistinct hknown hnil, hnonempty,
    hreported.symm⟩

/-- **Every course ends as the report foretells.** -/
theorem foretells_of_leads {past : List Snapshot} {x : Execution} {fault : Option RunFault}
    (hl : Leads s (Snapshot.initial s) past ⟨x, .ended fault⟩) :
    Foretells s.nodes s.graph.report.isValid x fault := by
  have hvalid := isValid_iff_acyclic (g := s.graph) hdistinct
  have hsettles := acyclic_iff_settles (g := s.graph) hdistinct hknown
  have hinvalid : s.graph.report.isValid = false → ¬ s.graph.Acyclic := by
    intro h hacyclic
    rw [hvalid.2 hacyclic] at h
    cases h
  constructor
  · intro h d hfault
    have hsound := hl.sound hdistinct
    subst hfault
    cases hsound with
    | deadlocked hrun hlayered hnil hleft =>
      obtain ⟨n, hn, hnot⟩ := hleft
      exact hnot ((settles_iff_of_wave_eq_nil hnil).1 (hsettles.1 (hvalid.1 h) n hn))
    | failed hrun hk hlayered hu =>
      obtain ⟨n, _, cause, heq, _⟩ := hu.failed _ List.mem_cons_self
      cases heq
  · rintro h rfl
    cases hl.sound hdistinct with
    | completed hrun hlayered hall =>
      exact hinvalid h (hsettles.2 fun n hn => settles_iff_settled.2 ⟨_, hall n hn⟩)
  · intro h hok
    obtain ⟨hlayered, hnil, ⟨-, hall⟩ | ⟨rfl, -⟩⟩ := end_of_no_failure hdistinct hl hok
    · exact absurd (hsettles.2 fun n hn => settles_iff_settled.2 ⟨_, hall n hn⟩) (hinvalid h)
    · refine ⟨_, rfl, foretold_deadlockAfter hdistinct hknown hnil (hinvalid h), fun n hn hout => ?_⟩
      rw [mem_deadlockAfter_pending hdistinct hknown hnil,
        ← settles_iff_not_entangled (g := s.graph) hdistinct hknown (List.mem_map_of_mem hn),
        settles_iff_of_wave_eq_nil hnil] at hout
      exact (completed_iff_settled hlayered).2 hout

end Foretold

/-- **The report on a script foretells the deadlocks of its runs.**  Take a script that can be read
and whose models are offered.  There is a report on it.  Every course of its nodes, whatever their
client, input and schedule, ends as that report foretells; and so does every run of the script,
unless it has a limit that cancels it. -/
theorem report_foretells_deadlock {source : String} {nodes : List Node} {client : Client}
    (hload : Script.load source = .ok nodes)
    (hcheck : (Graph.mk nodes).checkModels client = .ok ()) :
    ∃ report, (Graph.mk nodes).analyse = .ok report ∧
      (∀ s : Setup, s.nodes = nodes →
        ∀ {past : List Snapshot} {x : Execution} {fault : Option RunFault},
          Leads s (Snapshot.initial s) past ⟨x, .ended fault⟩ →
          Foretells nodes report.isValid x fault) ∧
      ∀ config input listener limit,
        let run := Run.ofScript source client config input listener limit
        (limit = none → run.outcome ≠ .cancelled) ∧
        (report.isValid = true → ∀ d, run.outcome ≠ .stopped (.deadlock d)) ∧
        (report.isValid = false → (∀ r, run.outcome ≠ .completed r) ∧
          ∃ x, run.execution = some x ∧
            (run.outcome ≠ .cancelled → (∀ n ∈ nodes, x.phase? n.id ≠ some .failed) →
              ∃ d : Deadlock, run.outcome = .stopped (.deadlock d) ∧ d.Foretold nodes ∧
                ∀ n ∈ nodes, n.id ∉ d.pending → x.phase? n.id = some .completed)) := by
  have hloaded := Script.loaded_of_load hload
  have hcourse : ∀ s : Setup, s.nodes = nodes →
      ∀ {past : List Snapshot} {x : Execution} {fault : Option RunFault},
        Leads s (Snapshot.initial s) past ⟨x, .ended fault⟩ →
        Foretells nodes (Graph.mk nodes).report.isValid x fault := by
    rintro s rfl past x fault hl
    exact foretells_of_leads hloaded.distinct (fun n hn d hd => hloaded.dependencies hn hd) hl
  refine ⟨_, analyse_of_distinct hloaded.distinct, hcourse, fun config input listener limit => ?_⟩
  by_cases hne : nodes = []
  -- there is nothing to run, and nothing to find fault with
  · subst hne
    rw [Run.ofScript_of_nil hload]
    refine ⟨fun _ => by simp, fun _ _ => by simp, fun hinvalid => ?_⟩
    have hacyclic : (Graph.mk []).Acyclic :=
      acyclic_iff_not_entangled.2 fun id hent => absurd hent.mem_ids List.not_mem_nil
    rw [(isValid_iff_acyclic hloaded.distinct).2 hacyclic] at hinvalid
    cases hinvalid
  obtain ⟨past, x, stage, hl, hrun⟩ :=
    Run.ofScript_reaches hload hcheck hne config input listener limit
  rcases hrun with ⟨hlimit, hrun⟩ | ⟨fault, rfl, hrun⟩
  · rw [hrun]
    refine ⟨?_, fun _ _ => by simp, fun _ => ⟨fun _ => by simp, x, rfl, fun h => absurd rfl h⟩⟩
    rintro rfl
    cases hlimit
  · have hforetells := hcourse _ rfl hl
    rw [hrun]
    cases fault with
    | none =>
      exact ⟨fun _ => by simp [Run.ended], fun _ _ => by simp [Run.ended], fun h =>
        absurd rfl (hforetells.stopped h)⟩
    | some f =>
      refine ⟨fun _ => by simp [Run.ended], fun h d heq => hforetells.valid h d ?_, fun h =>
        ⟨fun r => by simp [Run.ended], x, rfl, fun _ hok => ?_⟩⟩
      · simpa [Run.ended] using heq
      · obtain ⟨d, heq, hd⟩ := hforetells.deadlock h hok
        exact ⟨d, by rw [Option.some.inj heq]; rfl, hd⟩

/-- A script with two nodes that refer to each other, one behind them, and one that is free. -/
def knotScript : String :=
  "#ask flash: What of \x7b\x7b#reply\x7d\x7d?\n" ++
  "#reply flash: Reply to \x7b\x7b#ask\x7d\x7d\n" ++
  "#sum = All of \x7b\x7b#reply\x7d\x7d\n" ++
  "#free = Nothing"

/-- The nodes of that script. -/
def knotNodes : List Node := [
  { id := "ask", kind := .llm (.nickname "flash"), template := "What of \x7b\x7b#reply\x7d\x7d?",
    references := ["reply"] },
  { id := "reply", kind := .llm (.nickname "flash"), line := 2,
    template := "Reply to \x7b\x7b#ask\x7d\x7d", references := ["ask"] },
  { id := "sum", kind := .static, line := 3, template := "All of \x7b\x7b#reply\x7d\x7d",
    references := ["reply"] },
  { id := "free", kind := .static, line := 4, template := "Nothing" }]

/-- Running it ends in the deadlock that is foretold. -/
theorem report_foretells_deadlock_knot :
    ∃ x, Run.ofScript knotScript echoClient {} "" none =
        ⟨.stopped (.deadlock ⟨["ask", "reply", "sum"], ["ask", "reply"]⟩), some x⟩ ∧
      Deadlock.Foretold knotNodes ⟨["ask", "reply", "sum"], ["ask", "reply"]⟩ ∧
      ∀ n ∈ knotNodes, n.id ∉ ["ask", "reply", "sum"] → x.phase? n.id = some .completed := by
  have hload : Script.load knotScript = .ok knotNodes := Script.eq_ok_of_toOption (by decide +kernel)
  have hcheck : (Graph.mk knotNodes).checkModels echoClient = .ok () :=
    Script.eq_ok_of_toOption (by decide +kernel)
  obtain ⟨report, -, -, hrun⟩ := report_foretells_deadlock hload hcheck
  obtain ⟨-, hvalid, hinvalid⟩ := hrun {} "" none none
  have hfault : (Run.ofScript knotScript echoClient {} "" none).outcome.fault? =
      some (.deadlock ⟨["ask", "reply", "sum"], ["ask", "reply"]⟩) := by decide +kernel
  have hphases : ((Run.ofScript knotScript echoClient {} "" none).execution.map fun x =>
      decide (∀ n ∈ knotNodes, x.phase? n.id ≠ some .failed)) = some true := by decide +kernel
  generalize Run.ofScript knotScript echoClient {} "" none = run
    at hvalid hinvalid hfault hphases ⊢
  obtain ⟨outcome, execution⟩ := run
  obtain rfl := Outcome.eq_of_fault? hfault
  have hfound : report.isValid = false := by
    cases h : report.isValid with
    | false => rfl
    | true => exact absurd rfl (hvalid h _)
  obtain ⟨-, x, rfl, hend⟩ := hinvalid hfound
  obtain ⟨d, hd, hforetold, hothers⟩ :=
    hend (by simp) (of_decide_eq_true (Option.some.inj hphases))
  cases hd
  exact ⟨x, rfl, hforetold, hothers⟩

end PromptChain
