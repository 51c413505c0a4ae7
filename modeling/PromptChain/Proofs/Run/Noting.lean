/-
# What a step notes

A run notes every call under the id of the node that makes it.  A node notes one call at most: none
before its last step, and in that step it is finished or not, as the client answers or raises.  So
the next step of a node tells what is noted of it (`Noted`).

A step of a node leaves alone what is noted under other ids, and nothing that is noted loses its
place or its request (`Renoted`).  Up to the call a step notes nothing (`Turns`); what the call
adds, and what is noted of the node when it has done its step, is `Notes`.
-/
import PromptChain.Proofs.Run.Step
import Mathlib.Data.List.Nodup

namespace PromptChain

/-- Calls in the order in which they were made, each with the id of the node that made it. -/
abbrev CallLog := List (String × Call)

/-! ## 1. Logs -/

/-- What a step of a node does to the log: the entries keep their places, their ids and their
requests, those of other nodes do not change, and a new one is the node's. -/
structure Renoted (id : String) (log log' : CallLog) : Prop where
  kept : ∀ (i : Nat) (e : String × Call), log[i]? = some e →
    ∃ c, log'[i]? = some (e.1, c) ∧ c.request = e.2.request ∧ (e.1 ≠ id → c = e.2)
  new : ∀ (i : Nat) (e : String × Call), log.length ≤ i → log'[i]? = some e → e.1 = id
  once : (log.map (·.1)).Nodup → (log'.map (·.1)).Nodup

section Logs

variable {id other : String} {log log' log'' : CallLog} {c : Call}

theorem Renoted.refl (id : String) (log : CallLog) : Renoted id log log := by
  refine ⟨fun i e h => ⟨e.2, h, rfl, fun _ => rfl⟩, fun i e hi h => ?_, fun h => h⟩
  rw [List.getElem?_eq_none hi] at h
  cases h

theorem Renoted.trans (h : Renoted id log log') (h' : Renoted id log' log'') :
    Renoted id log log'' := by
  refine ⟨fun i e hi => ?_, fun i e hi he => ?_, fun hnodup => h'.once (h.once hnodup)⟩
  · obtain ⟨c, hc, hrequest, hsame⟩ := h.kept i e hi
    obtain ⟨c', hc', hrequest', hsame'⟩ := h'.kept i _ hc
    exact ⟨c', hc', hrequest'.trans hrequest, fun hne => (hsame' hne).trans (hsame hne)⟩
  · rcases Nat.lt_or_ge i log'.length with hlt | hge
    · obtain ⟨c, hc, -⟩ := h'.kept i _ (List.getElem?_eq_getElem hlt)
      have hid := h.new i _ hi (List.getElem?_eq_getElem hlt)
      rw [he, Option.some.injEq] at hc
      rw [hc]
      exact hid
    · exact h'.new i e hge he

/-- What is noted under another id was noted before. -/
theorem Renoted.mem_of_ne (h : Renoted id log log') (hne : other ≠ id) :
    (other, c) ∈ log' ↔ (other, c) ∈ log := by
  constructor
  · intro hmem
    obtain ⟨i, hi⟩ := List.getElem?_of_mem hmem
    rcases Nat.lt_or_ge i log.length with hlt | hge
    · obtain ⟨c', hc', -, hsame⟩ := h.kept i log[i] (List.getElem?_eq_getElem hlt)
      rw [hi, Option.some.injEq, Prod.mk.injEq] at hc'
      obtain ⟨hid, rfl⟩ := hc'
      have heq : (other, c) = log[i] := by
        rw [hsame (hid ▸ hne), hid]
      exact heq ▸ List.getElem_mem hlt
    · exact absurd (h.new i _ hge hi) hne
  · intro hmem
    obtain ⟨i, hi⟩ := List.getElem?_of_mem hmem
    obtain ⟨c', hc', -, hsame⟩ := h.kept i _ hi
    rw [hsame hne] at hc'
    exact List.mem_of_getElem? hc'

/-- A new call is added at the end. -/
theorem renoted_append (h : id ∉ log.map (·.1)) (c : Call) :
    Renoted id log (log ++ [(id, c)]) := by
  refine ⟨fun i e hi => ?_, fun i e hi he => ?_, fun hnodup => ?_⟩
  · obtain ⟨hlt, -⟩ := List.getElem?_eq_some_iff.1 hi
    exact ⟨e.2, by rw [List.getElem?_append_left hlt, hi], rfl, fun _ => rfl⟩
  · rw [List.getElem?_append_right hi, List.getElem?_singleton] at he
    split at he
    · cases he
      rfl
    · cases he
  · rw [List.map_append]
    exact hnodup.append (List.nodup_singleton id) (by simpa using h)

/-- A call that is answered stays where it is. -/
theorem renoted_modify {i : Nat} (h : log[i]? = some (id, c)) (moment : Option Float) :
    Renoted id log (log.modify i fun e => (e.1, { e.2 with finished := moment })) := by
  refine ⟨fun j e hj => ?_, fun j e hj he => ?_, fun hnodup => ?_⟩
  · rw [List.getElem?_modify]
    by_cases hij : i = j
    · subst hij
      obtain rfl := Option.some.inj (hj.symm.trans h)
      exact ⟨{ c with finished := moment }, by simp [hj], rfl, fun hne => absurd rfl hne⟩
    · exact ⟨e.2, by simp [hij, hj], rfl, fun _ => rfl⟩
  · rw [List.getElem?_eq_none (by rwa [List.length_modify])] at he
    cases he
  · have hids : (log.modify i fun e => (e.1, { e.2 with finished := moment })).map (·.1) =
        log.map (·.1) := by
      refine List.ext_getElem? fun j => ?_
      rw [List.getElem?_map, List.getElem?_modify, List.getElem?_map]
      split <;> cases log[j]? <;> rfl
    rwa [hids]

end Logs

/-! ## 2. What is noted of a node -/

/-- What is noted of a node that is to do a step next: the call that it waits for, or nothing. -/
def Noted (log : CallLog) (n : Node) : Option Step → Prop
  | some (.answer i r) => ∃ started, log[i]? = some (n.id, ⟨r, started, none⟩)
  | _ => n.id ∉ log.map (·.1)

/-- What is noted of a node that has done a step. -/
def Pace.Notes (log : CallLog) (n : Node) : Pace → Prop
  | asleep z => Noted log n (some z.task.step)
  | settled => ∃ c, (n.id, c) ∈ log ∧ c.finished ≠ none
  | stops _ => ∀ c, (n.id, c) ∈ log → c.finished = none

section Noted

variable {n : Node} {log log' : CallLog} {step? : Option Step} {c c' : Call} {id : String}

/-- Of one id one call is noted. -/
theorem eq_of_mem_log (h : (log.map (·.1)).Nodup) (hc : (id, c) ∈ log) (hc' : (id, c') ∈ log) :
    c = c' :=
  congrArg Prod.snd (List.inj_on_of_nodup_map h hc hc' rfl)

/-- Before its last step is done, no call of a node is finished. -/
theorem Noted.unfinished (hn : Noted log n step?) (h : (log.map (·.1)).Nodup)
    (hc : (n.id, c) ∈ log) : c.finished = none := by
  unfold Noted at hn
  split at hn
  · obtain ⟨started, hi⟩ := hn
    rw [eq_of_mem_log h hc (List.mem_of_getElem? hi)]
  · exact absurd (List.mem_map_of_mem hc) hn

/-- The step of another node changes nothing in it. -/
theorem Noted.renoted (hn : Noted log n step?) (h : Renoted id log log') (hne : n.id ≠ id) :
    Noted log' n step? := by
  unfold Noted at hn ⊢
  split
  · obtain ⟨started, hi⟩ := hn
    obtain ⟨c, hc, -, hsame⟩ := h.kept _ _ hi
    exact ⟨started, by rw [hc, hsame hne]⟩
  · rename_i hstep
    have hfresh : n.id ∉ log.map (·.1) := by
      split at hn
      · exact absurd rfl (hstep _ _)
      · exact hn
    intro hmem
    obtain ⟨⟨_, c⟩, he, rfl⟩ := List.mem_map.1 hmem
    exact hfresh (List.mem_map_of_mem ((h.mem_of_ne hne).1 he))

end Noted

/-! ## 3. Steps that make no call -/

namespace Execution

variable {x y : Execution} {id : String}

@[simp] theorem calls_tell (x : Execution) (listener : Option Listener) (e : Event) :
    (x.tell listener e).calls = x.calls := by
  cases listener with
  | none => rfl
  | some hear =>
    simp only [tell]
    split <;> rfl

theorem calls_of_move {p : Phase} {reason : Option String} (h : x.move id p reason = .ok y) :
    y.calls = x.calls := by
  unfold move at h
  split at h
  · cases h
    rfl
  · cases h

theorem calls_complete (x : Execution) (s : Setup) (id text : String) :
    (x.complete s id text).1.calls = x.calls := by
  simp only [complete]
  split
  · rfl
  · rename_i y hmove
    rw [calls_tell, calls_of_move hmove]

theorem calls_fail (x : Execution) (s : Setup) (id : String) (cause : NodeCause) :
    (x.fail s id cause).1.calls = x.calls := by
  unfold fail
  split
  · rfl
  · rename_i y hmove
    rw [calls_tell, calls_of_move hmove]

theorem calls_moveWorkflow (x : Execution) (p : Phase) : (x.moveWorkflow p).calls = x.calls := by
  unfold moveWorkflow
  split <;> rfl

theorem calls_resolveStatic (x : Execution) (s : Setup) (n : Node) :
    (x.resolveStatic s n).1.calls = x.calls := by
  simp only [resolveStatic]
  split
  · rw [calls_fail, calls_tell]
  · rw [calls_complete, calls_tell]

theorem calls_startAll (nodes : List Node) (x : Execution) :
    (RunState.startAll nodes x).1.calls = x.calls := by
  induction nodes generalizing x with
  | nil => rfl
  | cons n rest ih =>
    unfold RunState.startAll
    split
    · rfl
    · rename_i y hmove
      rw [ih, calls_of_move hmove]

end Execution

/-! ## 4. Requests -/

/-- **The request of a node is made of its model, its messages and its flags.** -/
theorem Setup.requestFor_eq_ok_iff {s : Setup} {o : Store String} {n : Node} {source : ModelSource}
    {r : Request} :
    s.requestFor o n source = .ok r ↔
      Context.modelOf ⟨o, s.input⟩ (s.meets n) source = .ok r.nickname ∧ r.flags = n.flags ∧
        ∃ prompt, Context.prompt ⟨o, s.input⟩ n = .ok prompt ∧
          (s.meets n).messages n.flags prompt = .ok r.messages := by
  obtain ⟨nickname, messages, flags⟩ := r
  unfold requestFor
  cases Context.modelOf ⟨o, s.input⟩ (s.meets n) source with
  | error cause => simp [bind, Except.bind]
  | ok model =>
    cases Context.prompt ⟨o, s.input⟩ n with
    | error e => simp [bind, Except.bind, Except.mapError]
    | ok prompt =>
      cases hms : (s.meets n).messages n.flags prompt with
      | error f => simp [bind, Except.bind, Except.mapError, hms]
      | ok ms =>
        simp only [bind, Except.bind, Except.mapError, hms, pure, Except.pure, Except.ok.injEq,
          Request.mk.injEq, exists_eq_left']
        tauto

/-- Whether a call carries the request that some outputs give a node. -/
def Right (s : Setup) (o : Store String) (n : Node) (c : Call) : Prop :=
  ∃ source, n.kind = .llm source ∧ s.requestFor o n source = .ok c.request

/-! ## 5. The steps of a model node -/

/-- What a step does up to a call: the node falls asleep, though not to wait for an answer, or it
fails, or it makes a call. -/
inductive Turns (s : Setup) (log : CallLog) (b : Board) (n : Node) (sure : Prop) :
    Execution × Pace → Prop where
  | sleeps {y : Execution} {z : Sleeper} (hcalls : y.calls = log)
      (hstep : ∀ i r, z.task.step ≠ .answer i r) : Turns s log b n sure (y, .asleep z)
  | stops {y : Execution} {f : RunFault} (hcalls : y.calls = log) :
      Turns s log b n sure (y, .stops f)
  | calls {y : Execution} {source : ModelSource} {r : Request} (hcalls : y.calls = log)
      (hboard : y.board = b) (hkind : n.kind = .llm source)
      (hr : sure → s.requestFor b.outputs n source = .ok r) :
      Turns s log b n sure (y.call s n r)

/-- What is noted when a node has done a step: what is noted of it is right, and as its pace
says. -/
structure Notes (s : Setup) (log : CallLog) (o : Store String) (n : Node) (sure : Prop)
    (p : Execution × Pace) : Prop where
  renoted : Renoted n.id log p.1.calls
  right : ∀ c, (n.id, c) ∈ p.1.calls → sure → Right s o n c
  own : p.2.Notes p.1.calls n

namespace Execution

variable {x : Execution} {s : Setup} {n : Node} {source : ModelSource} {sure : Prop}

theorem failing_turns (x : Execution) (cause : NodeCause) :
    Turns s x.calls x.board n sure (x.failing s n.id cause) :=
  .stops (x.calls_fail s n.id cause)

theorem send_turns (hkind : n.kind = .llm source) {model prompt : String}
    (hmodel : sure → Context.modelOf ⟨x.outputs, s.input⟩ (s.meets n) source = .ok model)
    (hprompt : sure → Context.prompt ⟨x.outputs, s.input⟩ n = .ok prompt) :
    Turns s x.calls x.board n sure (x.send s n model prompt) := by
  unfold send
  cases hms : (s.meets n).messages n.flags prompt with
  | error f => exact failing_turns x _
  | ok messages =>
    exact .calls rfl rfl hkind fun hsure =>
      Setup.requestFor_eq_ok_iff.2 ⟨hmodel hsure, rfl, prompt, hprompt hsure, hms⟩

theorem converse_turns (hkind : n.kind = .llm source) {model prompt : String}
    (hmodel : sure → Context.modelOf ⟨x.outputs, s.input⟩ (s.meets n) source = .ok model)
    (hprompt : sure → Context.prompt ⟨x.outputs, s.input⟩ n = .ok prompt) :
    Turns s x.calls x.board n sure (x.converse s n model prompt) := by
  simp only [converse]
  split
  · exact .sleeps rfl (by simp)
  · exact send_turns hkind hmodel hprompt

theorem launchFor_turns (hkind : n.kind = .llm source) {model : String}
    (hmodel : sure → Context.modelOf ⟨x.outputs, s.input⟩ (s.meets n) source = .ok model) :
    Turns s x.calls x.board n sure (x.launchFor s n model) := by
  have htell : (x.tell s.listener (.running n.id model)).board = x.board := board_tell _ _ _
  have hcalls : (x.tell s.listener (.running n.id model)).calls = x.calls := calls_tell _ _ _
  simp only [launchFor]
  generalize x.tell s.listener (.running n.id model) = y at htell hcalls ⊢
  rw [show x.outputs = y.outputs from congrArg Board.outputs htell.symm] at hmodel
  rw [← htell, ← hcalls]
  have hcontext : y.context s = ⟨y.outputs, s.input⟩ := rfl
  rw [hcontext]
  cases hprompt : Context.prompt ⟨y.outputs, s.input⟩ n with
  | error e => exact failing_turns y _
  | ok prompt => exact converse_turns hkind hmodel fun _ => hprompt

theorem launch_turns (hllm : n.isLlm = true) : Turns s x.calls x.board n sure (x.launch s n) := by
  obtain ⟨source, hkind⟩ := Node.exists_source hllm
  have hcontext : x.context s = ⟨x.outputs, s.input⟩ := rfl
  simp only [launch, hkind, hcontext]
  cases hmodel : Context.modelOf ⟨x.outputs, s.input⟩ (s.meets n) source with
  | error cause => exact failing_turns x _
  | ok model => exact launchFor_turns hkind fun _ => hmodel

theorem begin_turns (hllm : n.isLlm = true) (heldBack : Bool) :
    Turns s x.calls x.board n sure (x.begin s n heldBack) := by
  unfold begin
  split
  · exact .sleeps (calls_tell _ _ _) (by simp)
  · exact launch_turns hllm

/-- **The answer to a call finishes it, or leaves it as it is.** -/
theorem answer_notes (h : x.board.Shows n.id .running) (hkind : n.kind = .llm source)
    (honce : (x.calls.map (·.1)).Nodup) {i : Nat} {r : Request} {started : Float}
    (hcall : x.calls[i]? = some (n.id, ⟨r, started, none⟩))
    (hr : sure → s.requestFor x.outputs n source = .ok r) :
    Notes s x.calls x.outputs n sure (x.answer s n i r) := by
  have hown : ∀ {log : CallLog} {c : Call} {moment : Option Float}, (log.map (·.1)).Nodup →
      log[i]? = some (n.id, ⟨r, started, moment⟩) → (n.id, c) ∈ log →
      c = ⟨r, started, moment⟩ := by
    intro log c moment hnodup hi hc
    exact eq_of_mem_log hnodup hc (List.mem_of_getElem? hi)
  unfold answer
  cases hans : (s.meets n).answer r with
  | error f =>
    have hcalls := x.calls_fail s n.id (.client f)
    simp only [failing]
    generalize x.fail s n.id (.client f) = p at hcalls ⊢
    refine ⟨?_, fun c hc hsure => ?_, fun c hc => ?_⟩
    · rw [hcalls]
      exact .refl _ _
    · rw [hcalls] at hc
      obtain rfl := hown honce hcall hc
      exact ⟨source, hkind, hr hsure⟩
    · rw [hcalls] at hc
      rw [hown honce hcall hc]
  | ok text =>
    obtain ⟨-, hfault⟩ := complete_of_running (x := x.finishCall i) h s text
    have hcalls := (x.finishCall i).calls_complete s n.id text
    have hre := renoted_modify hcall (some x.now)
    have hnew : (x.finishCall i).calls[i]? = some (n.id, ⟨r, started, some x.now⟩) := by
      simp [finishCall, hcall]
    rcases hc : (x.finishCall i).complete s n.id text with ⟨y, fault⟩
    rw [hc] at hfault hcalls
    subst hfault
    simp only [hc]
    rw [← hcalls] at hnew
    refine ⟨hcalls ▸ hre, fun c hc hsure => ?_, _, List.mem_of_getElem? hnew, by simp⟩
    have honce' : (y.calls.map (·.1)).Nodup := hcalls ▸ hre.once honce
    obtain rfl := hown honce' hnew hc
    exact ⟨source, hkind, hr hsure⟩

/-- **A call is noted once**, at the end of the log. -/
theorem call_notes (h : x.board.Shows n.id .running) (hkind : n.kind = .llm source)
    (honce : (x.calls.map (·.1)).Nodup) (hfresh : n.id ∉ x.calls.map (·.1)) {r : Request}
    (hr : sure → s.requestFor x.outputs n source = .ok r) :
    Notes s x.calls x.outputs n sure (x.call s n r) := by
  have hre := renoted_append hfresh (Call.mk r x.now none)
  have hcall : (x.calls ++ [(n.id, Call.mk r x.now none)])[x.calls.length]? =
      some (n.id, ⟨r, x.now, none⟩) := List.getElem?_concat_length
  simp only [call]
  split
  · refine ⟨hre, fun c hc hsure => ?_, x.now, hcall⟩
    rw [eq_of_mem_log (hre.once honce) hc (List.mem_of_getElem? hcall)]
    exact ⟨source, hkind, hr hsure⟩
  · have hans : Notes s (x.calls ++ [(n.id, ⟨r, x.now, none⟩)]) x.outputs n sure _ :=
      answer_notes (x := { x with calls := x.calls ++ [(n.id, ⟨r, x.now, none⟩)] }) h hkind
        (hre.once honce) hcall hr
    exact ⟨hre.trans hans.renoted, hans.right, hans.own⟩

end Execution

/-- Up to a call nothing is noted. -/
theorem Turns.notes {s : Setup} {x : Execution} {n : Node} {sure : Prop} {p : Execution × Pace}
    (ht : Turns s x.calls x.board n sure p) (h : x.board.Shows n.id .running)
    (honce : (x.calls.map (·.1)).Nodup) (hfresh : n.id ∉ x.calls.map (·.1)) :
    Notes s x.calls x.outputs n sure p := by
  have hnone : ∀ {y : Execution}, y.calls = x.calls → ∀ c, (n.id, c) ∉ y.calls := by
    intro y hcalls c hc
    exact hfresh (hcalls ▸ List.mem_map_of_mem hc)
  cases ht with
  | @sleeps y z hcalls hstep =>
    refine ⟨hcalls ▸ .refl _ _, fun c hc => absurd hc (hnone hcalls c), ?_⟩
    simp only [Pace.Notes, Noted]
    split
    · rename_i i r heq
      exact absurd (Option.some.inj heq) (hstep i r)
    · rwa [hcalls]
  | stops hcalls =>
    exact ⟨hcalls ▸ .refl _ _, fun c hc => absurd hc (hnone hcalls c),
      fun c hc => absurd hc (hnone hcalls c)⟩
  | @calls y source r hcalls hboard hkind hr =>
    rw [← hboard] at h hr
    rw [← hcalls] at honce hfresh ⊢
    have houtputs : x.outputs = y.outputs := congrArg Board.outputs hboard.symm
    rw [houtputs]
    exact Execution.call_notes h hkind honce hfresh hr

/-- **What a step of a running model node notes** is as its pace says, when what was noted of it is
as the step needs it. -/
theorem Execution.perform_notes {s : Setup} {x : Execution} {t : Task}
    (h : x.board.Shows t.node.id .running) (hllm : t.node.isLlm = true)
    (honce : (x.calls.map (·.1)).Nodup) (hnoted : Noted x.calls t.node (some t.step)) :
    Notes s x.calls x.outputs t.node (Carries s x.outputs t.node t.step) (x.perform s t) := by
  obtain ⟨n, step⟩ := t
  cases step with
  | begin heldBack => exact (begin_turns hllm heldBack).notes h honce hnoted
  | launch => exact (launch_turns hllm).notes h honce hnoted
  | send model prompt =>
    obtain ⟨source, hkind⟩ := Node.exists_source hllm
    refine (send_turns hkind ?_ ?_).notes h honce hnoted
    · rintro ⟨source', hkind', hmodel, -⟩
      exact Node.source_eq hkind' hkind ▸ hmodel
    · rintro ⟨source', hkind', -, hprompt⟩
      exact hprompt
  | answer i r =>
    obtain ⟨source, hkind⟩ := Node.exists_source hllm
    obtain ⟨started, hcall⟩ := hnoted
    refine answer_notes h hkind honce hcall ?_
    rintro ⟨source', hkind', hr⟩
    exact Node.source_eq hkind' hkind ▸ hr

end PromptChain
