/-
# What a model node does in its turn

Of what a model node does four deeds can be told from outside: it waits, it launches, it makes its
call, and the call returns.  One after the other they are its turn (`Setup.turn`); only a node that
is held back waits, and only when there is a delay.

A step does a part of the turn.  How much a node has done before a step is told by the step
(`Step.done`), and how much it has done afterwards by its pace (`Pace.Done`): a node that sleeps
goes on from there, a node that is settled has done all of its turn, and a node that has failed was
launched and may have made its call, but the call has not returned.

When nodes take their turns one after the other, nothing is done while a call is under way but that
it returns (`Untangled`).
-/
import PromptChain.Proofs.Run.Noting
import PromptChain.Proofs.Run.Telling
import Mathlib.Data.List.Induction

namespace PromptChain

/-! ## 1. Deeds -/

/-- What a model node does, as far as it can be told from outside. -/
inductive Deed where
  /-- It begins to wait for its delay. -/
  | waits (id : String)
  /-- It looks for its model and composes its prompt. -/
  | launches (id : String)
  | calls (id : String)
  | returns (id : String)
  deriving DecidableEq, Repr

namespace Deed

/-- The id of the node that does it. -/
def node : Deed → String
  | waits id => id
  | launches id => id
  | calls id => id
  | returns id => id

/-- The id of the node that begins to wait. -/
def waited? : Deed → Option String
  | waits id => some id
  | _ => none

/-- The id of the node that makes its call. -/
def called? : Deed → Option String
  | calls id => some id
  | _ => none

theorem called?_eq_some {d : Deed} {id : String} : d.called? = some id ↔ d = .calls id := by
  cases d <;> simp [called?]

end Deed

/-- Whether a node has fallen asleep for its delay. -/
def Pace.delays : Pace → Bool
  | asleep z => z.task.step == .launch
  | _ => false

/-- Whether a node launches in a step, unless it falls asleep for its delay. -/
def Step.launches : Step → Bool
  | .begin _ => true
  | .launch => true
  | _ => false

namespace Execution

/-- Whether a node has made its call. -/
def hasCalled (x : Execution) (id : String) : Bool := x.calls.any fun e => e.1 == id

/-- Whether a call of a node has returned. -/
def hasReturned (x : Execution) (id : String) : Bool :=
  x.calls.any fun e => e.1 == id && e.2.finished.isSome

/-- What a model node does in a step. -/
def deeds (x : Execution) (s : Setup) (t : Task) : List Deed :=
  let y := (x.perform s t).1
  let id := t.node.id
  (if (x.perform s t).2.delays then [.waits id]
    else if t.step.launches then [.launches id] else []) ++
    (if y.hasCalled id && !x.hasCalled id then [.calls id] else []) ++
    (if y.hasReturned id && !x.hasReturned id then [.returns id] else [])

theorem hasCalled_iff {x : Execution} {id : String} :
    x.hasCalled id = true ↔ id ∈ x.calls.map (·.1) := by
  simp [hasCalled]

theorem hasReturned_iff {x : Execution} {id : String} :
    x.hasReturned id = true ↔ ∃ c, (id, c) ∈ x.calls ∧ c.finished ≠ none := by
  simp [hasReturned, Option.isSome_iff_ne_none]

end Execution

/-! ## 2. Turns -/

namespace Setup

/-- That a model node waits, if it is held back and there is a delay. -/
def waits (s : Setup) (heldBack : Bool) (n : Node) : List Deed :=
  if heldBack && decide (0 < s.config.delay) then [.waits n.id] else []

/-- What a model node does when nothing goes wrong. -/
def turn (s : Setup) (heldBack : Bool) (n : Node) : List Deed :=
  s.waits heldBack n ++ [.launches n.id, .calls n.id, .returns n.id]

/-- The turns of some model nodes one after the other; only the first may be exempt from being held
back. -/
def turns (s : Setup) : (heldBack : Bool) → List Node → List Deed
  | _, [] => []
  | heldBack, n :: rest => s.turn heldBack n ++ s.turns true rest

theorem turns_append (s : Setup) (heldBack : Bool) (nodes more : List Node) :
    s.turns heldBack (nodes ++ more) =
      s.turns heldBack nodes ++ s.turns (heldBack || !nodes.isEmpty) more := by
  induction nodes generalizing heldBack with
  | nil => simp [turns]
  | cons n rest ih => simp [turns, ih, List.append_assoc]

theorem turns_concat (s : Setup) (nodes : List Node) (n : Node) :
    s.turns false (nodes ++ [n]) = s.turns false nodes ++ s.turn (!nodes.isEmpty) n := by
  rw [turns_append, Bool.false_or, turns, turns, List.append_nil]

/-- In their turns nodes make one call each. -/
theorem filterMap_called_turns (s : Setup) (heldBack : Bool) (nodes : List Node) :
    (s.turns heldBack nodes).filterMap Deed.called? = nodes.map (·.id) := by
  have hwaits : ∀ heldBack n, (s.waits heldBack n).filterMap Deed.called? = [] := by
    intro heldBack n
    unfold waits
    split <;> rfl
  induction nodes generalizing heldBack with
  | nil => rfl
  | cons n rest ih =>
    rw [turns, turn, List.filterMap_append, List.filterMap_append, hwaits, ih]
    rfl

theorem node_of_mem_turn {s : Setup} {heldBack : Bool} {n : Node} {d : Deed}
    (h : d ∈ s.turn heldBack n) : d.node = n.id := by
  rcases List.mem_append.1 h with h | h
  · unfold waits at h
    split at h
    · rw [List.mem_singleton.1 h]
      rfl
    · exact absurd h List.not_mem_nil
  · simp only [List.mem_cons, List.not_mem_nil, or_false] at h
    rcases h with rfl | rfl | rfl <;> rfl

/-- In turns every deed is that of one of the nodes. -/
theorem exists_node_of_mem_turns {s : Setup} {heldBack : Bool} {nodes : List Node} {d : Deed}
    (h : d ∈ s.turns heldBack nodes) : ∃ n ∈ nodes, d.node = n.id := by
  induction nodes generalizing heldBack with
  | nil => exact absurd h List.not_mem_nil
  | cons n rest ih =>
    rcases List.mem_append.1 h with h | h
    · exact ⟨n, List.mem_cons_self, node_of_mem_turn h⟩
    · obtain ⟨m, hm, hd⟩ := ih h
      exact ⟨m, List.mem_cons_of_mem n hm, hd⟩

end Setup

/-! ## 3. Turns are not entangled -/

/-- Whether all calls that were made have returned. -/
def AllReturned (trace : List Deed) : Prop := ∀ id, .calls id ∈ trace → .returns id ∈ trace

/-- Whether nothing is done while a call is under way but that it returns. -/
def Untangled (trace : List Deed) : Prop :=
  ∀ before d after, trace = before ++ d :: after → AllReturned before ∨ ∃ id, d = .returns id

section Untangled

variable {trace more : List Deed} {d : Deed}

theorem allReturned_nil : AllReturned [] := fun _ hid => absurd hid List.not_mem_nil

theorem untangled_nil : Untangled [] := fun _ _ _ heq => absurd heq (by simp)

theorem AllReturned.append (h : AllReturned trace) (h' : AllReturned more) :
    AllReturned (trace ++ more) := by
  intro id hid
  rcases List.mem_append.1 hid with hid | hid
  · exact List.mem_append_left _ (h id hid)
  · exact List.mem_append_right _ (h' id hid)

theorem Untangled.of_isPrefix (h : Untangled more) (hle : trace <+: more) : Untangled trace := by
  obtain ⟨rest, rfl⟩ := hle
  intro before d after heq
  refine h before d (after ++ rest) ?_
  rw [heq, List.append_assoc, List.cons_append]

theorem untangled_concat :
    Untangled (trace ++ [d]) ↔ Untangled trace ∧ (AllReturned trace ∨ ∃ id, d = .returns id) := by
  constructor
  · intro h
    exact ⟨h.of_isPrefix (List.prefix_append _ _), h trace d [] rfl⟩
  · rintro ⟨h, hd⟩ before e after heq
    rcases List.eq_nil_or_concat after with rfl | ⟨rest, last, rfl⟩
    · obtain ⟨rfl, he⟩ := List.append_inj' heq rfl
      obtain rfl := List.singleton_inj.1 he
      exact hd
    · rw [List.concat_eq_append, ← List.cons_append, ← List.append_assoc] at heq
      exact h before e rest (List.append_inj' heq rfl).1

theorem Untangled.append (h : Untangled trace) (hall : AllReturned trace) (h' : Untangled more) :
    Untangled (trace ++ more) := by
  induction more using List.reverseRecOn with
  | nil => rwa [List.append_nil]
  | append_singleton rest d ih =>
    obtain ⟨hrest, hd⟩ := untangled_concat.1 h'
    rw [← List.append_assoc]
    exact untangled_concat.2 ⟨ih hrest, hd.imp_left hall.append⟩

theorem untangled_flatMap {α : Type} {f : α → List Deed}
    (h : ∀ a, Untangled (f a) ∧ AllReturned (f a)) (as : List α) :
    Untangled (as.flatMap f) ∧ AllReturned (as.flatMap f) := by
  induction as with
  | nil => exact ⟨untangled_nil, allReturned_nil⟩
  | cons a rest ih =>
    rw [List.flatMap_cons]
    exact ⟨(h a).1.append (h a).2 ih.1, (h a).2.append ih.2⟩

/-- **One turn is not entangled**, and its call returns. -/
theorem Setup.untangled_turn (s : Setup) (heldBack : Bool) (n : Node) :
    Untangled (s.turn heldBack n) ∧ AllReturned (s.turn heldBack n) := by
  have hwaits : Untangled (s.waits heldBack n) ∧ ∀ id, .calls id ∉ s.waits heldBack n := by
    unfold waits
    split
    · refine ⟨?_, by simp⟩
      have hone : Untangled ([] ++ [Deed.waits n.id]) :=
        untangled_concat.2 ⟨untangled_nil, Or.inl allReturned_nil⟩
      exact hone
    · exact ⟨untangled_nil, by simp⟩
  obtain ⟨hwaits, hnone⟩ := hwaits
  have hlaunches := untangled_concat (d := .launches n.id).2
    ⟨hwaits, Or.inl fun id hid => absurd hid (hnone id)⟩
  have hcalls := untangled_concat (d := .calls n.id).2
    ⟨hlaunches, Or.inl fun id hid => by simp [hnone] at hid⟩
  have hreturns := untangled_concat (d := .returns n.id).2 ⟨hcalls, Or.inr ⟨n.id, rfl⟩⟩
  have hturn : s.turn heldBack n =
      s.waits heldBack n ++ [.launches n.id] ++ [.calls n.id] ++ [.returns n.id] := by
    simp [turn]
  refine ⟨hturn ▸ hreturns, fun id hid => ?_⟩
  have heq : id = n.id := by simpa [turn, hnone] using hid
  simp [turn, heq]

/-- **The turns of several nodes are not entangled.** -/
theorem Setup.untangled_turns (s : Setup) (heldBack : Bool) (nodes : List Node) :
    Untangled (s.turns heldBack nodes) ∧ AllReturned (s.turns heldBack nodes) := by
  induction nodes generalizing heldBack with
  | nil => exact ⟨untangled_nil, allReturned_nil⟩
  | cons n rest ih =>
    obtain ⟨hturn, hall⟩ := s.untangled_turn heldBack n
    obtain ⟨hrest, hallRest⟩ := ih true
    exact ⟨hturn.append hall hrest, hall.append hallRest⟩

end Untangled

/-! ## 4. How much of its turn a node has done -/

/-- How much of its turn a node has done before a step, from how it waits. -/
def Step.done (waits : List Deed) (id : String) : Step → List Deed
  | .begin _ => []
  | .launch => waits
  | .send _ _ => waits ++ [.launches id]
  | .answer _ _ => waits ++ [.launches id, .calls id]

/-- Whether a node has done as much of its turn as its pace says. -/
def Pace.Done (waits : List Deed) (id : String) : Pace → List Deed → Prop
  | asleep z, done => done = z.task.step.done waits id
  | settled, done => done = waits ++ [.launches id, .calls id, .returns id]
  | stops _, done => ∃ made, made <+: [.calls id] ∧ done = waits ++ .launches id :: made

/-- Whether a node has made its call before a step. -/
def Step.hasCalled : Step → Bool
  | .answer _ _ => true
  | _ => false

theorem Step.done_prefix_turn (s : Setup) (heldBack : Bool) (n : Node) (step : Step) :
    step.done (s.waits heldBack n) n.id <+: s.turn heldBack n := by
  cases step with
  | begin held => exact List.nil_prefix
  | launch => exact List.prefix_append _ _
  | send model prompt =>
    exact (List.prefix_append_right_inj _).2 ⟨[.calls n.id, .returns n.id], rfl⟩
  | answer index r => exact (List.prefix_append_right_inj _).2 ⟨[.returns n.id], rfl⟩

/-- A node that does not launch any more has done so. -/
theorem Step.launches_mem_done {step : Step} (h : step.launches = false) (waits : List Deed)
    (id : String) : .launches id ∈ step.done waits id := by
  cases step with
  | begin held => cases h
  | launch => cases h
  | _ => simp [done]

/-- A node that launches does something. -/
theorem Execution.exists_deed {t : Task} (h : t.step.launches = true) (x : Execution) (s : Setup) :
    ∃ d ∈ x.deeds s t, d.node = t.node.id := by
  cases hdelays : (x.perform s t).2.delays with
  | true => exact ⟨.waits t.node.id, by simp [deeds, hdelays], rfl⟩
  | false => exact ⟨.launches t.node.id, by simp [deeds, hdelays, h], rfl⟩

/-- A node that has failed has done a beginning of its turn. -/
theorem Setup.launched_prefix_turn (s : Setup) (heldBack : Bool) (n : Node) {made : List Deed}
    (h : made <+: [.calls n.id]) :
    s.waits heldBack n ++ .launches n.id :: made <+: s.turn heldBack n :=
  (List.prefix_append_right_inj _).2
    ((List.prefix_cons_inj _).2 (h.trans ⟨[.returns n.id], rfl⟩))

section Steps

variable {s : Setup} {x y : Execution} {n : Node} {log log' : CallLog} {step : Step} {t : Task}
  {id : String} {waits : List Deed}

/-- **A step adds one id to the log**, or none. -/
theorem Renoted.ids (h : Renoted id log log') (honce : (log'.map (·.1)).Nodup) :
    log'.map (·.1) = log.map (·.1) ++
      if id ∈ log'.map (·.1) ∧ id ∉ log.map (·.1) then [id] else [] := by
  obtain ⟨new, hnew⟩ : log.map (·.1) <+: log'.map (·.1) := by
    rw [List.prefix_iff_getElem?]
    intro i hi
    rw [List.length_map] at hi
    obtain ⟨c, hc, -⟩ := h.kept i log[i] (List.getElem?_eq_getElem hi)
    simp [hc]
  have hall : ∀ other ∈ new, other = id := by
    intro other hother
    obtain ⟨i, hi⟩ := List.getElem?_of_mem hother
    have hget : (log'.map (·.1))[log.length + i]? = some other := by
      rw [← hnew, List.getElem?_append_right (by simp), List.length_map, Nat.add_sub_cancel_left,
        hi]
    rw [List.getElem?_map, Option.map_eq_some_iff] at hget
    obtain ⟨e, he, rfl⟩ := hget
    exact h.new _ e (Nat.le_add_right _ _) he
  rw [← hnew] at honce ⊢
  obtain ⟨-, hnodup, hdisjoint⟩ := List.nodup_append'.1 honce
  rw [List.eq_replicate_of_mem hall] at hnodup hdisjoint ⊢
  have hle := List.nodup_replicate.1 hnodup
  generalize new.length = k at hle hnodup hdisjoint ⊢
  obtain rfl | rfl : k = 0 ∨ k = 1 := by omega
  · simp
  · have hfresh : id ∉ log.map (·.1) := fun hid => hdisjoint hid List.mem_cons_self
    simp [hfresh]

namespace Execution

theorem hasCalled_of_noted (h : Noted x.calls n (some step)) :
    x.hasCalled n.id = step.hasCalled := by
  cases step with
  | answer i r =>
    obtain ⟨started, hi⟩ := h
    exact hasCalled_iff.2 (List.mem_map_of_mem (List.mem_of_getElem? hi))
  | _ => exact Bool.eq_false_iff.2 fun hcalled => h (hasCalled_iff.1 hcalled)

theorem hasReturned_of_noted (h : Noted x.calls n (some step)) (honce : (x.calls.map (·.1)).Nodup) :
    x.hasReturned n.id = false := by
  refine Bool.eq_false_iff.2 fun hreturned => ?_
  obtain ⟨c, hc, hfinished⟩ := hasReturned_iff.1 hreturned
  exact hfinished (h.unfinished honce hc)

theorem hasCalled_of_hasReturned (h : x.hasReturned id = true) : x.hasCalled id = true := by
  obtain ⟨c, hc, -⟩ := hasReturned_iff.1 h
  exact hasCalled_iff.2 (List.mem_map_of_mem hc)

/-- A call stays made. -/
theorem hasCalled_of_renoted (h : Renoted id x.calls y.calls) {other : String}
    (hcalled : x.hasCalled other = true) : y.hasCalled other = true := by
  obtain ⟨e, he, rfl⟩ := List.mem_map.1 (hasCalled_iff.1 hcalled)
  obtain ⟨i, hi⟩ := List.getElem?_of_mem he
  obtain ⟨c, hc, -⟩ := h.kept i e hi
  exact hasCalled_iff.2 (List.mem_map.2 ⟨_, List.mem_of_getElem? hc, rfl⟩)

/-- What a step of a node that has begun amounts to. -/
theorem done_append_deeds {p : Execution × Pace} (hp : x.perform s t = p)
    (hleft : t.step.left ≤ 3) (hdelays : p.2.delays = false)
    (hnoted : Noted x.calls t.node (some t.step)) (honce : (x.calls.map (·.1)).Nodup)
    (hre : Renoted t.node.id x.calls p.1.calls) :
    t.step.done waits t.node.id ++ x.deeds s t = waits ++ .launches t.node.id ::
      ((if p.1.hasCalled t.node.id then [.calls t.node.id] else []) ++
        if p.1.hasReturned t.node.id then [.returns t.node.id] else []) := by
  have hcalled := hasCalled_of_noted hnoted
  have hreturned := hasReturned_of_noted hnoted honce
  have hkept : x.hasCalled t.node.id = true → p.1.hasCalled t.node.id = true :=
    hasCalled_of_renoted hre
  simp only [deeds, hp, hdelays, hcalled, hreturned]
  cases hstep : t.step with
  | begin held => simp [hstep, Step.left] at hleft
  | launch => simp [Step.done, Step.launches, Step.hasCalled]
  | send model prompt => simp [Step.done, Step.launches, Step.hasCalled]
  | answer i r =>
    rw [hstep] at hcalled
    simp [Step.done, Step.launches, Step.hasCalled, hkept hcalled]

/-- Up to the end of its turn a node has done what its pace says, when the log does. -/
theorem done_of_pace (waits : List Deed) {p : Execution × Pace} {left : Nat} {b : Board}
    {sure : Prop} (hw : Worked s b n left sure p) (hleft : left ≤ 3) (hown : p.2.Notes p.1.calls n)
    (honce : (p.1.calls.map (·.1)).Nodup) :
    p.2.delays = false ∧ p.2.Done waits n.id (waits ++ .launches n.id ::
      ((if p.1.hasCalled n.id then [.calls n.id] else []) ++
        if p.1.hasReturned n.id then [.returns n.id] else [])) := by
  cases hw with
  | @sleeps y z hboard hnode hleft' hcarries =>
    have hcalled := hasCalled_of_noted (x := y) hown
    have hreturned := hasReturned_of_noted (x := y) hown honce
    simp only [Pace.delays, Pace.Done, hcalled, hreturned]
    cases hstep : z.task.step with
    | begin held => simp only [hstep, Step.left] at hleft'; omega
    | launch => simp only [hstep, Step.left] at hleft'; omega
    | send model prompt => exact ⟨rfl, by simp [Step.done, Step.hasCalled]⟩
    | answer i r => exact ⟨rfl, by simp [Step.done, Step.hasCalled]⟩
  | @completes y text hboard hresult =>
    have hreturned : y.hasReturned n.id = true := hasReturned_iff.2 hown
    have hcalled := hasCalled_of_hasReturned hreturned
    exact ⟨rfl, by simp [Pace.Done, hreturned, hcalled]⟩
  | @fails y cause hboard hresult =>
    have hreturned : y.hasReturned n.id = false := by
      refine Bool.eq_false_iff.2 fun hreturned => ?_
      obtain ⟨c, hc, hfinished⟩ := hasReturned_iff.1 hreturned
      exact hfinished (hown c hc)
    refine ⟨rfl, _, ?_, by simp only [hreturned]; rfl⟩
    cases y.hasCalled n.id <;> simp

/-- A node that waits does nothing else. -/
theorem deeds_of_delayed {held : Bool} (hdelayed : (held && decide (0 < s.config.delay)) = true) :
    (x.perform s ⟨n, .begin held⟩).2 = .asleep ⟨⟨n, .launch⟩, x.now + s.config.delay⟩ ∧
      x.deeds s ⟨n, .begin held⟩ = s.waits held n := by
  have hperform : x.perform s ⟨n, .begin held⟩ = (x.tell s.listener (.waiting s.config.delay n.id),
      .asleep ⟨⟨n, .launch⟩, x.now + s.config.delay⟩) := by
    simp only [perform, begin, hdelayed, if_true]
  have hcalls : (x.tell s.listener (.waiting s.config.delay n.id)).calls = x.calls :=
    calls_tell _ _ _
  have hcalled : (x.tell s.listener (.waiting s.config.delay n.id)).hasCalled n.id =
      x.hasCalled n.id := by rw [hasCalled, hcalls, hasCalled]
  have hreturned : (x.tell s.listener (.waiting s.config.delay n.id)).hasReturned n.id =
      x.hasReturned n.id := by rw [hasReturned, hcalls, hasReturned]
  refine ⟨congrArg Prod.snd hperform, ?_⟩
  simp [deeds, hperform, Pace.delays, Setup.waits, hdelayed, hcalled, hreturned]

/-- **A step of a running model node does the next part of its turn.** -/
theorem perform_done (hrun : x.board.Shows t.node.id .running) (hllm : t.node.isLlm = true)
    (honce : (x.calls.map (·.1)).Nodup) (hnoted : Noted x.calls t.node (some t.step))
    (hbegin : ∀ heldBack, t.step = .begin heldBack → waits = s.waits heldBack t.node) :
    (x.perform s t).2.Done waits t.node.id (t.step.done waits t.node.id ++ x.deeds s t) := by
  have hstep : ∀ t : Task, x.board.Shows t.node.id .running → t.node.isLlm = true →
      Noted x.calls t.node (some t.step) → t.step.left ≤ 3 →
      (x.perform s t).2.Done waits t.node.id (t.step.done waits t.node.id ++ x.deeds s t) := by
    intro t hrun hllm hnoted hleft
    have hnotes := perform_notes (s := s) hrun hllm honce hnoted
    obtain ⟨hdelays, hdone⟩ := done_of_pace waits (perform_worked (s := s) hrun hllm) hleft
      hnotes.own (hnotes.renoted.once honce)
    rwa [done_append_deeds rfl hleft hdelays hnoted honce hnotes.renoted]
  obtain ⟨n, step⟩ := t
  cases step with
  | begin held =>
    rw [hbegin held rfl]
    cases hdelayed : held && decide (0 < s.config.delay) with
    | true =>
      obtain ⟨hpace, hdeeds⟩ := deeds_of_delayed (x := x) (n := n) hdelayed
      rw [hpace, hdeeds]
      exact List.nil_append _
    | false =>
      -- a node that does not wait launches at once
      have hperform : x.perform s ⟨n, .begin held⟩ = x.perform s ⟨n, .launch⟩ := by
        simp only [perform, begin, hdelayed, Bool.false_eq_true, if_false]
      have hdeeds : x.deeds s ⟨n, .begin held⟩ = x.deeds s ⟨n, .launch⟩ := by
        simp only [deeds, hperform, Step.launches]
      have hwaits : s.waits held n = [] := by simp [Setup.waits, hdelayed]
      have hlaunch := hstep ⟨n, .launch⟩ hrun hllm hnoted (Nat.le_refl 3)
      rw [hbegin held rfl, hwaits] at hlaunch
      rwa [hperform, hdeeds, hwaits]
  | launch => exact hstep ⟨n, .launch⟩ hrun hllm hnoted (Nat.le_refl 3)
  | send model prompt => exact hstep ⟨n, .send model prompt⟩ hrun hllm hnoted (by simp [Step.left])
  | answer i r => exact hstep ⟨n, .answer i r⟩ hrun hllm hnoted (by simp [Step.left])

/-! ## 5. What is noted of deeds -/

/-- **A step notes the call that is among its deeds.** -/
theorem ids_perform (hre : Renoted t.node.id x.calls (x.perform s t).1.calls)
    (honce : (x.calls.map (·.1)).Nodup) :
    (x.perform s t).1.calls.map (·.1) =
      x.calls.map (·.1) ++ (x.deeds s t).filterMap Deed.called? := by
  -- only the second of the three parts may be a call
  have hfirst : ∀ b c : Bool, (if b then [Deed.waits t.node.id]
      else if c then [.launches t.node.id] else []).filterMap Deed.called? = [] := by
    intro b c
    cases b <;> cases c <;> rfl
  have hlast : ∀ b : Bool,
      (if b then [Deed.returns t.node.id] else []).filterMap Deed.called? = [] := by
    intro b
    cases b <;> rfl
  rw [hre.ids (hre.once honce)]
  congr 1
  simp only [← hasCalled_iff, deeds, List.filterMap_append, hfirst, hlast, List.nil_append,
    List.append_nil]
  cases (x.perform s t).1.hasCalled t.node.id <;> cases x.hasCalled t.node.id <;> rfl

/-- **A call has returned when that is among the deeds.** -/
theorem hasReturned_perform (hre : Renoted t.node.id x.calls (x.perform s t).1.calls)
    (hnot : x.hasReturned t.node.id = false) (id : String) :
    (x.perform s t).1.hasReturned id = true ↔
      x.hasReturned id = true ∨ .returns id ∈ x.deeds s t := by
  have hdeeds : .returns id ∈ x.deeds s t ↔
      id = t.node.id ∧ (x.perform s t).1.hasReturned t.node.id = true := by
    have hfirst : ∀ b c : Bool, .returns id ∉ if b then [Deed.waits t.node.id]
        else if c then [.launches t.node.id] else [] := by
      intro b c
      cases b <;> cases c <;> simp
    have hcalls : ∀ b : Bool, .returns id ∉ if b then [Deed.calls t.node.id] else [] := by
      intro b
      cases b <;> simp
    simp only [deeds, List.mem_append, hnot, hfirst, hcalls, false_or]
    cases (x.perform s t).1.hasReturned t.node.id <;> simp
  rw [hdeeds]
  by_cases hid : id = t.node.id
  · subst hid
    simp [hnot]
  · simp only [hid, false_and, or_false, hasReturned_iff, hre.mem_of_ne hid]

end Execution
end Steps

/-! ## 6. What is told of deeds -/

/-- The id of the node that an event says is waiting. -/
def Event.waited? : Event → Option String
  | waiting _ id => some id
  | _ => none

section Told

variable {s : Setup} {x : Execution} {t : Task} {id : String} {waits done : List Deed}
  {beginning launch : List Event}

theorem RunFault.filterMap_waited_told (f : RunFault) : f.told.filterMap Event.waited? = [] := by
  unfold told
  split <;> rfl

theorem Setup.filterMap_waited_launching (s : Setup) (o : Store String) (n : Node) :
    (s.launching o n).filterMap Event.waited? = [] := by
  unfold launching
  split
  · rfl
  · split <;> rfl

/-- A node tells that it waits when it does. -/
theorem Setup.filterMap_waited_delaying (s : Setup) (n : Node) (heldBack : Bool) :
    (s.delaying n heldBack).filterMap Event.waited? =
      (s.waits heldBack n).filterMap Deed.waited? := by
  unfold delaying waits
  split <;> rfl

variable (hwaits : beginning.filterMap Event.waited? = waits.filterMap Deed.waited?)
  (hlaunch : launch.filterMap Event.waited? = [])

include hwaits hlaunch

theorem Step.filterMap_waited_told (id : String) (step : Step) :
    (step.told beginning launch).filterMap Event.waited? =
      (step.done waits id).filterMap Deed.waited? := by
  cases step with
  | begin held => rfl
  | launch => exact hwaits
  | _ => simp [told, done, hwaits, hlaunch, Deed.waited?]

theorem Pace.Done.filterMap_waited {pace : Pace} (h : pace.Done waits id done) :
    (pace.told id beginning launch).filterMap Event.waited? = done.filterMap Deed.waited? := by
  cases pace with
  | asleep z =>
    rw [show done = _ from h]
    exact Step.filterMap_waited_told hwaits hlaunch id z.task.step
  | settled =>
    rw [show done = _ from h]
    simp only [Pace.told, List.filterMap_append, hwaits, hlaunch, List.append_nil]
    rfl
  | stops f =>
    obtain ⟨made, hmade, rfl⟩ := h
    have hnone : (Deed.launches id :: made).filterMap Deed.waited? = [] := by
      have hle : Deed.launches id :: made <+: [.launches id, .calls id] :=
        (List.prefix_cons_inj _).2 hmade
      exact List.prefix_nil.1 (hle.filterMap Deed.waited?)
    simp only [Pace.told, List.filterMap_append, hwaits, hlaunch, hnone, f.filterMap_waited_told,
      List.append_nil]

omit hwaits hlaunch

/-- **A step tells that the node waits when that is among its deeds.** -/
theorem Execution.waited_perform (hheard : s.listener.isSome = true)
    (hrun : x.board.Shows t.node.id .running) (hllm : t.node.isLlm = true)
    (honce : (x.calls.map (·.1)).Nodup) (hnoted : Noted x.calls t.node (some t.step)) :
    (x.perform s t).1.progress.filterMap Event.waited? =
      x.progress.filterMap Event.waited? ++ (x.deeds s t).filterMap Deed.waited? := by
  obtain ⟨held, hheld, new, hprogress, -, htold⟩ := exists_tells hheard hrun hllm
  have hbegin : ∀ heldBack, t.step = .begin heldBack →
      s.waits held t.node = s.waits heldBack t.node := by
    intro heldBack heq
    rw [hheld heldBack heq]
  have hwaits := s.filterMap_waited_delaying t.node held
  have hlaunch := s.filterMap_waited_launching x.outputs t.node
  have hdone := perform_done (s := s) hrun hllm honce hnoted hbegin
  -- what was told before the step and what was done before it agree, and so they do afterwards
  have hnew := congrArg (List.filterMap Event.waited?) htold
  rw [hdone.filterMap_waited hwaits hlaunch, List.filterMap_append, List.filterMap_append,
    Step.filterMap_waited_told hwaits hlaunch t.node.id] at hnew
  rw [hprogress, List.filterMap_append, List.append_cancel_left hnew]

end Told

end PromptChain
