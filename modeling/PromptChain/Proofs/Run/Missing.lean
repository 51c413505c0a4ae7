/-
# Models that are missing

The check before a run asks for the nicknames that can be told from the nodes, and for no others
(`neededBy_eq_some_iff`).  It passes when all of them are offered, and otherwise lists those that
are not (`checkModels_lists`).  A run that is started comes to no such list any more
(`Run.not_refused_of_checkModels`): it is cancelled, or completed, or stopped by a deadlock or a
node.

So a script is refused for its models exactly when it lacks one, whatever else the client, the
configuration, the input and the listener are; and then nothing of a run is there: no call, no
phase and no event.
-/
import PromptChain.Proofs.Run.Nicknames

namespace PromptChain

open PromptChain.Graph PromptChain.Text

/-- Whether a node's model is told by a nickname that no offered model has, in whatever case. -/
structure Lacks (nodes : List Node) (client : Client) (nickname : String) : Prop where
  named : ∃ n ∈ nodes, NamesModel nodes n nickname
  unoffered : ∀ model ∈ client.models, lower model.nickname ≠ lower nickname

section Check

variable {nodes : List Node} {client : Client} {n : Node} {nickname : String}
  {needed : List String}

/-- **What is looked up before the run is what can be told from the nodes.** -/
theorem neededBy_eq_some_iff (h : Script.Closed nodes) (hn : n ∈ nodes) :
    (Graph.mk nodes).neededBy n = .ok (some nickname) ↔ NamesModel nodes n nickname := by
  refine ⟨fun hneeded => ?_, fun hnamed => hnamed.neededBy h.distinct⟩
  cases hllm : n.isLlm with
  | false =>
    have hkind : n.kind = .static := by
      cases hkind : n.kind with
      | static => rfl
      | llm source => simp [Node.isLlm, Node.isStatic, hkind] at hllm
    simp [neededBy, hkind] at hneeded
  | true =>
    rcases named_or_later h hn hllm with ⟨told, hnamed⟩ | ⟨t, hlater⟩
    · rw [hnamed.neededBy h.distinct] at hneeded
      cases hneeded
      exact hnamed
    · rw [hlater.neededBy h.distinct] at hneeded
      cases hneeded

/-- What is needed and not offered is lacking. -/
theorem mem_unoffered_iff (h : Script.Closed nodes)
    (hall : (Graph.mk nodes).neededByAll nodes = .ok needed) :
    nickname ∈ needed.filter (fun nickname => !client.offers nickname) ↔
      Lacks nodes client nickname := by
  have hneeded : nickname ∈ needed ↔ ∃ n ∈ nodes, NamesModel nodes n nickname :=
    (mem_neededByAll_iff hall).trans
      (exists_congr fun n => and_congr_right fun hn => neededBy_eq_some_iff h hn)
  have hoffers : client.offers nickname = false ↔
      ∀ model ∈ client.models, lower model.nickname ≠ lower nickname := by
    rw [← Bool.not_eq_true, Client.offers_iff]
    simp
  rw [List.mem_filter, hneeded, Bool.not_eq_true', hoffers]
  exact ⟨fun h => ⟨h.1, h.2⟩, fun h => ⟨h.named, h.unoffered⟩⟩

/-- **The check passes when nothing is lacking, and otherwise lists what is**, in increasing
order. -/
theorem checkModels_lists (hload : Script.Loaded nodes) (h : Script.Closed nodes)
    (client : Client) :
    ((Graph.mk nodes).checkModels client = .ok () ∧ ∀ nickname, ¬ Lacks nodes client nickname) ∨
      ∃ m : MissingModels, (Graph.mk nodes).checkModels client = .error (.models m) ∧
        m.nicknames ≠ [] ∧ m.nicknames.Pairwise (· < ·) ∧
        ∀ nickname, nickname ∈ m.nicknames ↔ Lacks nodes client nickname := by
  obtain ⟨needed, hall⟩ := exists_neededByAll hload (List.Subset.refl nodes)
  have hlacks : ∀ nickname, nickname ∈ needed.filter (fun nickname => !client.offers nickname) ↔
      Lacks nodes client nickname := fun _ => mem_unoffered_iff h hall
  simp only [checkModels, hall]
  split
  · rename_i hempty
    refine .inl ⟨rfl, fun nickname hlack => ?_⟩
    rw [← hlacks, List.isEmpty_iff.1 hempty] at hlack
    exact List.not_mem_nil hlack
  · rename_i hsome
    rw [List.isEmpty_iff] at hsome
    obtain ⟨nickname, hnickname⟩ := List.exists_mem_of_ne_nil _ hsome
    exact .inr ⟨_, rfl, List.ne_nil_of_mem (mem_ordered.2 hnickname), ordered_pairwise _,
      fun nickname => mem_ordered.trans (hlacks nickname)⟩

/-- **A run whose check passes is not refused for its models**: it is completed at once, or what
is started comes to another end. -/
theorem Run.not_refused_of_checkModels {source : String}
    (hload : Script.load source = .ok nodes)
    (hcheck : (Graph.mk nodes).checkModels client = .ok ()) (config : RunConfig) (input : String)
    (listener : Option Listener) (limit : Option Float) (m : MissingModels) :
    (Run.ofScript source client config input listener limit).outcome ≠ .stopped (.models m) := by
  intro hrefused
  by_cases hne : nodes = []
  · subst hne
    rw [Run.ofScript_of_nil hload] at hrefused
    cases hrefused
  · obtain ⟨x, ⟨-, hrun⟩ | ⟨fault, hconcluded, hrun⟩⟩ :=
      Run.ofScript_concluded hload hcheck hne config input listener limit
    · rw [hrun] at hrefused
      cases hrefused
    · rw [hrun] at hrefused
      cases hconcluded <;> cases hrefused

end Check

/-- **A script is refused for its models exactly when it lacks one.**  This is so whatever the
client offers and answers, and however the run is set up.  The refusal then lists what is lacking:
just those nicknames, as they are spelled, and in increasing order; and no run was started, so
there was no call, no node left its first phase, and the listener heard nothing. -/
theorem lacking_models_refused {source : String} {nodes : List Node}
    (hload : Script.load source = .ok nodes) (client : Client) (config : RunConfig)
    (input : String) (listener : Option Listener) (limit : Option Float) :
    let run := Run.ofScript source client config input listener limit
    ((∃ m, run.outcome = .stopped (.models m)) ↔ ∃ nickname, Lacks nodes client nickname) ∧
    ∀ m, run.outcome = .stopped (.models m) → run.execution = none ∧
      m.nicknames.Pairwise (· < ·) ∧
      ∀ nickname, nickname ∈ m.nicknames ↔ Lacks nodes client nickname := by
  intro run
  rcases checkModels_lists (Script.loaded_of_load hload) (Script.closed_of_load hload) client with
    ⟨hcheck, hnone⟩ | ⟨m, hcheck, hsome, hincreasing, hlists⟩
  · have hnot := Run.not_refused_of_checkModels hload hcheck config input listener limit
    refine ⟨iff_of_false ?_ ?_, fun m hrefused => absurd hrefused (hnot m)⟩
    · rintro ⟨m, hrefused⟩
      exact hnot m hrefused
    · rintro ⟨nickname, hlack⟩
      exact hnone nickname hlack
  · obtain ⟨nickname, hnickname⟩ := List.exists_mem_of_ne_nil _ hsome
    have hlack := (hlists nickname).1 hnickname
    have hrun : run = Run.refused (.models m) := by
      obtain ⟨n, hn, -⟩ := hlack.named
      exact Run.ofScript_of_error hload hcheck (List.ne_nil_of_mem hn) config input listener limit
    refine ⟨iff_of_true ⟨m, by rw [hrun]; rfl⟩ ⟨nickname, hlack⟩, fun m' hrefused => ?_⟩
    rw [hrun] at hrefused ⊢
    cases hrefused
    exact ⟨rfl, hincreasing, hlists⟩

/-- A script whose models are told by a block, by a blank text, by the input and by nicknames in
several cases. -/
def turboScript : String :=
  "#fast = \"\"\"\n" ++
  "  Turbo\n" ++
  "\"\"\"\n" ++
  "#none =\n" ++
  "#pick = \x7b\x7bINPUT\x7d\x7d\n" ++
  "fast: first\n" ++
  "\x7b\x7b#fast\x7d\x7d: second\n" ++
  "#later none: third\n" ++
  "#other \x7b\x7b#pick\x7d\x7d: fourth\n" ++
  "gpt: fifth\n" ++
  "GPT: sixth\n" ++
  "PRO: seventh"

/-- The nodes of that script. -/
def turboNodes : List Node := [
  { id := "fast", kind := .static, template := "Turbo" },
  { id := "none", kind := .static, line := 4 },
  { id := "pick", kind := .static, template := "\x7b\x7bINPUT\x7d\x7d", line := 5 },
  { id := "node_6", kind := .llm (.output "fast"), template := "first", line := 6 },
  { id := "node_7", kind := .llm (.output "fast"), template := "second", line := 7 },
  { id := "later", kind := .llm (.output "none"), template := "third", line := 8 },
  { id := "other", kind := .llm (.output "pick"), template := "fourth", line := 9 },
  { id := "node_10", kind := .llm (.nickname "gpt"), template := "fifth", line := 10 },
  { id := "node_11", kind := .llm (.nickname "GPT"), template := "sixth", line := 11 },
  { id := "node_12", kind := .llm (.nickname "PRO"), template := "seventh", line := 12 }]

/-- A client with two models. -/
def turboClient : Client :=
  CannedClient.toClient { models := [{ nickname := "flash" }, { nickname := "Pro" }] }

/-- Three nicknames are lacking, two of which differ in case only. -/
theorem lacking_models_refused_turbo :
    let run := Run.ofScript turboScript turboClient {} "pro" none
    run.outcome = .stopped (.models ⟨["GPT", "Turbo", "gpt"]⟩) ∧ run.execution = none ∧
      ∀ nickname, nickname ∈ ["GPT", "Turbo", "gpt"] ↔ Lacks turboNodes turboClient nickname := by
  intro run
  have hload : Script.load turboScript = .ok turboNodes :=
    Script.eq_ok_of_toOption (by decide +kernel)
  have hcheck : (Graph.mk turboNodes).checkModels turboClient =
      .error (.models ⟨["GPT", "Turbo", "gpt"]⟩) := by decide +kernel
  have hrefused : run.outcome = .stopped (.models ⟨["GPT", "Turbo", "gpt"]⟩) :=
    congrArg Run.outcome
      (Run.ofScript_of_error hload hcheck (List.cons_ne_nil _ _) {} "pro" none none)
  obtain ⟨hnone, -, hlists⟩ :=
    (lacking_models_refused hload turboClient {} "pro" none none).2 _ hrefused
  exact ⟨hrefused, hnone, hlists⟩

end PromptChain
