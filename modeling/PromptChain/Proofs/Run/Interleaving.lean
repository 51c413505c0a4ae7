/-
# Every interleaving of a run

The clock wakes the nodes of a round in one order.  Other orders are as good: the tasks of a round
may take turns in any way, and when one of them fails, others may go on for a while before that is
noticed.  A snapshot is a run at any moment at which it can be seen: what it holds, and where it
stands.  `Next` is one step of it, of one node wherever a node is concerned, and the tasks of a
round form a multiset, so any of them may be the next to do something.

A course (`Leads`) is a sequence of steps; it also lists the snapshots it leaves behind, and time
may pass in it at any point.  What holds along every course holds of every schedule and of every
point at which a run can be cancelled.  The clock's own schedule is one of them
(`comes_resume`, `comes_drive`).
-/
import PromptChain.Run.Clock
import Mathlib.Data.Multiset.ZeroCons
import Mathlib.Data.Multiset.AddSub

namespace PromptChain

/-! ## 1. Snapshots -/

/-- Where a run stands. -/
inductive Stage where
  /-- Between two rounds; so many rounds on end had nothing to run. -/
  | between (idle : Nat)
  /-- In a round: the static nodes still to be resolved, what the model nodes still have to do, and
  the faults so far. -/
  | round (statics : List Node) (tasks : Multiset Task) (faults : List RunFault)
  /-- At its end, stopped by a fault or not. -/
  | ended (fault : Option RunFault)

/-- A run as it can be seen at a moment. -/
structure Snapshot where
  execution : Execution
  stage : Stage

namespace Pace

/-- What a node still has to do after a step. -/
def tasks : Pace → Multiset Task
  | asleep z => {z.task}
  | _ => 0

/-- The fault with which a step stops the run. -/
def faults : Pace → List RunFault
  | stops f => [f]
  | _ => []

end Pace

namespace Snapshot

/-- A run before its first round. -/
def initial (s : Setup) : Snapshot :=
  ⟨(Execution.initial s.nodes).moveWorkflow .running, .between 0⟩

/-- A run when the clock has moved. -/
def atMoment (m : Snapshot) (moment : Float) : Snapshot :=
  { m with execution := { m.execution with now := moment } }

/-- What model nodes have to do first; only the first of them may be exempt from being held
back. -/
def firstTasks (heldBack : Bool) : List Node → List Task
  | [] => []
  | n :: rest => ⟨n, .begin heldBack⟩ :: rest.map fun n => ⟨n, .begin true⟩

/-- A run when a round with some nodes has been opened. -/
def opened (s : Setup) (nodes : List Node) (x : Execution) : Snapshot :=
  let (y, fault) := RunState.startAll nodes { x with rounds := x.rounds ++ [nodes.map (·.id)] }
  ⟨y, .round (nodes.filter (·.isStatic))
    (firstTasks (!s.config.sequential) (nodes.filter (·.isLlm))) fault.toList⟩

/-! ## 2. Steps -/

/-- One step of a run. -/
inductive Next (s : Setup) : Snapshot → Snapshot → Prop where
  | finishes {x : Execution} {idle : Nat} (h : x.hasUnresolved = false) :
      Next s ⟨x, .between idle⟩ ⟨x.moveWorkflow .completed, .ended none⟩
  | opens {x : Execution} {idle : Nat} (h : x.hasUnresolved = true)
      (hrun : x.runnable s.graph ≠ []) :
      Next s ⟨x, .between idle⟩ (opened s (x.runnable s.graph) x)
  | stalls {x : Execution} {idle : Nat} (h : x.hasUnresolved = true)
      (hrun : x.runnable s.graph = []) (hidle : idle ≤ s.config.grace) :
      Next s ⟨x, .between idle⟩ ⟨x, .between (idle + 1)⟩
  | deadlocks {x : Execution} {idle : Nat} (h : x.hasUnresolved = true)
      (hrun : x.runnable s.graph = []) (hidle : s.config.grace < idle) :
      Next s ⟨x, .between idle⟩
        ⟨x.moveWorkflow .failed, .ended (some (.deadlock (RunState.deadlock s x)))⟩
  | resolves {x : Execution} {n : Node} {rest : List Node} {tasks : Multiset Task} :
      Next s ⟨x, .round (n :: rest) tasks []⟩
        ⟨(x.resolveStatic s n).1, .round rest tasks (x.resolveStatic s n).2.toList⟩
  | works {x : Execution} {t : Task} {tasks : Multiset Task} {faults : List RunFault} :
      Next s ⟨x, .round [] (t ::ₘ tasks) faults⟩
        ⟨(x.perform s t).1,
          .round [] ((x.perform s t).2.tasks + tasks) (faults ++ (x.perform s t).2.faults)⟩
  | settles {x : Execution} : Next s ⟨x, .round [] 0 []⟩ ⟨x, .between 0⟩
  | stops {x : Execution} {statics : List Node} {tasks : Multiset Task} {f : RunFault}
      {faults : List RunFault} :
      Next s ⟨x, .round statics tasks (f :: faults)⟩ ⟨x.moveWorkflow .failed, .ended (some f)⟩

/-- A run can come from one snapshot to another, leaving some behind in their order. -/
inductive Leads (s : Setup) (a : Snapshot) : List Snapshot → Snapshot → Prop where
  | refl : Leads s a [] a
  | pass {past : List Snapshot} {m : Snapshot} (moment : Float) (h : Leads s a past m) :
      Leads s a past (m.atMoment moment)
  | next {past : List Snapshot} {m m' : Snapshot} (h : Leads s a past m) (hn : Next s m m') :
      Leads s a (past ++ [m]) m'

theorem Leads.single {s : Setup} {a b : Snapshot} (h : Next s a b) : Leads s a [a] b :=
  Leads.next .refl h

theorem Leads.trans {s : Setup} {a b c : Snapshot} {p q : List Snapshot} (hab : Leads s a p b)
    (hbc : Leads s b q c) : Leads s a (p ++ q) c := by
  induction hbc with
  | refl => simpa using hab
  | pass moment _ ih => exact .pass moment ih
  | next _ hn ih =>
    rw [← List.append_assoc]
    exact .next ih hn

/-! ## 3. The clock's schedule is one of them -/

/-- A run can come from one snapshot to another, by no fewer steps than a number. -/
def Comes (s : Setup) (k : Nat) (a b : Snapshot) : Prop :=
  ∃ past, k ≤ past.length ∧ Leads s a past b

variable {s : Setup} {a b c : Snapshot} {j k : Nat}

theorem Comes.refl (s : Setup) (a : Snapshot) : Comes s 0 a a := ⟨[], Nat.zero_le _, .refl⟩

theorem Comes.pass (s : Setup) (a : Snapshot) (moment : Float) : Comes s 0 a (a.atMoment moment) :=
  ⟨[], Nat.zero_le _, .pass moment .refl⟩

theorem Comes.of_next (h : Next s a b) : Comes s 1 a b := ⟨[a], Nat.le_refl _, .single h⟩

theorem Comes.trans (hab : Comes s j a b) (hbc : Comes s k b c) : Comes s (j + k) a c := by
  obtain ⟨p, hj, hp⟩ := hab
  obtain ⟨q, hk, hq⟩ := hbc
  refine ⟨p ++ q, ?_, hp.trans hq⟩
  rw [List.length_append]
  exact Nat.add_le_add hj hk

theorem Comes.weaken (h : Comes s k a b) (hjk : j ≤ k) : Comes s j a b := by
  obtain ⟨p, hk, hp⟩ := h
  exact ⟨p, Nat.le_trans hjk hk, hp⟩

end Snapshot

namespace RunState

open Snapshot

variable {s : Setup}

/-- Where a suspended run stands. -/
def stage (st : RunState) : Stage :=
  match st.waiting with
  | .calls asleep queue =>
    .round [] (asleep.map (·.task) ++ firstTasks true queue : List Task) []
  | .rest _ => .between st.idle
  | .ended fault => .ended fault

/-- A suspended run as it can be seen. -/
def snapshot (st : RunState) : Snapshot := ⟨st.execution, st.stage⟩

theorem firstTasks_true (nodes : List Node) :
    firstTasks true nodes = nodes.map fun n => ⟨n, .begin true⟩ := by
  cases nodes <;> rfl

/-- Doing steps in their order is a course, whatever else is still to be done. -/
theorem comes_performAll (s : Setup) (ts : List Task) (x : Execution) (tasks : Multiset Task)
    (faults : List RunFault) :
    Comes s ts.length ⟨x, .round [] (ts + tasks) faults⟩
      ⟨(performAll s ts x).1, .round [] ((performAll s ts x).2.1.map (·.task) + tasks)
        (faults ++ (performAll s ts x).2.2)⟩ := by
  induction ts generalizing x tasks faults with
  | nil => simpa [performAll] using Comes.refl s _
  | cons t rest ih =>
    have hstep : Comes s 1 ⟨x, .round [] ((t :: rest : List Task) + tasks) faults⟩
        ⟨(x.perform s t).1, .round [] (rest + ((x.perform s t).2.tasks + tasks))
          (faults ++ (x.perform s t).2.faults)⟩ := by
      have hnext : Next s ⟨x, .round [] (t ::ₘ ((rest : Multiset Task) + tasks)) faults⟩ _ :=
        Next.works
      have h := Comes.of_next hnext
      rw [← Multiset.cons_coe, Multiset.cons_add]
      rwa [← Multiset.add_assoc, Multiset.add_comm _ (rest : Multiset Task),
        Multiset.add_assoc] at h
    have hrest := ih (x.perform s t).1 ((x.perform s t).2.tasks + tasks)
      (faults ++ (x.perform s t).2.faults)
    have hall := (hstep.trans hrest).weaken (j := (t :: rest).length)
      (by rw [List.length_cons, Nat.add_comm])
    simp only [performAll]
    cases hpace : (x.perform s t).2 with
    | settled => simpa [hpace, Pace.tasks, Pace.faults] using hall
    | stops f => simpa [hpace, Pace.tasks, Pace.faults, List.append_assoc] using hall
    | asleep z =>
      simp only [hpace, Pace.tasks, Pace.faults, List.append_nil, Multiset.singleton_add,
        Multiset.add_cons] at hall
      simpa only [List.map_cons, ← Multiset.cons_coe, Multiset.cons_add] using hall

/-- What every resolution of a static node keeps is kept when they are resolved one after the other;
what is left when one fails does not matter. -/
theorem resolveAll_keeps {P : Snapshot → Prop} {tasks : Multiset Task}
    (hresolves : ∀ {x : Execution} {n : Node} {rest : List Node},
      P ⟨x, .round (n :: rest) tasks []⟩ →
      P ⟨(x.resolveStatic s n).1, .round rest tasks (x.resolveStatic s n).2.toList⟩)
    {nodes : List Node} {x : Execution} (h : P ⟨x, .round nodes tasks []⟩) :
    ∃ left, P ⟨(resolveAll s nodes x).1, .round left tasks (resolveAll s nodes x).2.toList⟩ ∧
      ((resolveAll s nodes x).2 = none → left = []) := by
  induction nodes generalizing x with
  | nil => exact ⟨[], h, fun _ => rfl⟩
  | cons n rest ih =>
    have hstep := hresolves h
    unfold resolveAll
    rcases hn : x.resolveStatic s n with ⟨y, fault⟩
    rw [hn] at hstep
    cases fault with
    | some f => exact ⟨rest, hstep, by simp⟩
    | none => exact ih hstep

/-- What is kept by every resolution is kept in a round, when it is where the calls of the round are
begun, and where the round is stopped. -/
theorem round_keeps {P : Snapshot → Prop} {Q : RunState → Prop} {nodes : List Node}
    (hresolves : ∀ {x : Execution} {n : Node} {rest : List Node} {tasks : Multiset Task},
      P ⟨x, .round (n :: rest) tasks []⟩ →
      P ⟨(x.resolveStatic s n).1, .round rest tasks (x.resolveStatic s n).2.toList⟩)
    (hstops : ∀ {x : Execution} {statics : List Node} {tasks : Multiset Task} {f : RunFault},
      P ⟨x, .round statics tasks [f]⟩ → Q (stopped x f))
    (hcalls : ∀ {x : Execution}, P ⟨x, .round []
        (firstTasks (!s.config.sequential) (nodes.filter (·.isLlm)) : List Task) []⟩ →
      Q (beginCalls s (nodes.filter (·.isLlm)) x))
    {x : Execution} (h : P (opened s nodes x)) : Q (round s nodes x) := by
  simp only [opened, round] at h ⊢
  rcases hstart : startAll nodes { x with rounds := x.rounds ++ [nodes.map (·.id)] } with ⟨y, fault⟩
  rw [hstart] at h
  cases fault with
  | some f => exact hstops h
  | none =>
    obtain ⟨left, hleft, hnil⟩ := resolveAll_keeps hresolves h
    rcases hres : resolveAll s (nodes.filter (·.isStatic)) y with ⟨w, fault⟩
    rw [hres] at hleft hnil
    simp only [hres]
    cases fault with
    | some f => exact hstops hleft
    | none =>
      obtain rfl := hnil rfl
      exact hcalls hleft

theorem comes_stopped (s : Setup) (x : Execution) (statics : List Node) (tasks : Multiset Task)
    (f : RunFault) (faults : List RunFault) :
    Comes s 0 ⟨x, .round statics tasks (f :: faults)⟩ (stopped x f).snapshot :=
  (Comes.of_next Next.stops).weaken (Nat.zero_le 1)

/-- Serving a queue is a course. -/
theorem comes_serve (s : Setup) (heldBack : Bool) (nodes : List Node) (x : Execution) :
    Comes s 1 ⟨x, .round [] (firstTasks heldBack nodes : List Task) []⟩
      (serve s heldBack nodes x).snapshot := by
  induction nodes generalizing heldBack x with
  | nil => exact Comes.of_next Next.settles
  | cons n rest ih =>
    have hstep : Comes s 1 ⟨x, .round [] (firstTasks heldBack (n :: rest) : List Task) []⟩
        ⟨(x.begin s n heldBack).1, .round []
          ((x.begin s n heldBack).2.tasks + (firstTasks true rest : List Task))
          (x.begin s n heldBack).2.faults⟩ := by
      rw [firstTasks, ← firstTasks_true, ← Multiset.cons_coe]
      exact Comes.of_next Next.works
    unfold serve
    rcases hn : x.begin s n heldBack with ⟨y, pace⟩
    rw [hn] at hstep
    cases pace with
    | settled =>
      rw [show Pace.tasks .settled = 0 from rfl, Multiset.zero_add] at hstep
      exact (hstep.trans (ih true y)).weaken (by omega)
    | asleep z => exact hstep
    | stops f => exact hstep.trans (comes_stopped s y [] _ f [])

/-- Going on after some steps of a round is a course. -/
theorem comes_afterSteps (s : Setup) (asleep : List Sleeper) (faults : List RunFault)
    (queue : List Node) (x : Execution) :
    Comes s 0 ⟨x, .round [] (asleep.map (·.task) ++ firstTasks true queue : List Task) faults⟩
      (afterSteps s asleep faults queue x).snapshot := by
  cases faults with
  | cons f rest => exact comes_stopped s x [] _ f rest
  | nil =>
    cases asleep with
    | nil => exact (comes_serve s true queue x).weaken (Nat.zero_le 1)
    | cons z rest => exact Comes.refl s _

/-- Beginning the calls of a round is a course. -/
theorem comes_beginCalls (s : Setup) (nodes : List Node) (x : Execution) :
    Comes s 0 ⟨x, .round [] (firstTasks (!s.config.sequential) nodes : List Task) []⟩
      (beginCalls s nodes x).snapshot := by
  unfold beginCalls
  cases s.config.sequential with
  | true => exact (comes_serve s false nodes x).weaken (Nat.zero_le 1)
  | false =>
    have hall := (comes_performAll s (firstTasks true nodes) x 0 []).weaken (Nat.zero_le _)
    simp only [Multiset.add_zero, List.nil_append, firstTasks_true] at hall
    simp only [Bool.not_false, Bool.false_eq_true, if_false, firstTasks_true]
    have hafter := comes_afterSteps s (performAll s (nodes.map fun n => ⟨n, .begin true⟩) x).2.1
      (performAll s (nodes.map fun n => ⟨n, .begin true⟩) x).2.2 []
      (performAll s (nodes.map fun n => ⟨n, .begin true⟩) x).1
    rw [firstTasks, List.append_nil] at hafter
    exact hall.trans hafter

/-- A round with something to run is a course. -/
theorem comes_round (s : Setup) (nodes : List Node) (x : Execution) :
    Comes s 0 (opened s nodes x) (round s nodes x).snapshot := by
  refine round_keeps (P := Comes s 0 (opened s nodes x))
    (Q := fun st => Comes s 0 (opened s nodes x) st.snapshot) (fun h => ?_) (fun h => ?_)
    (fun h => ?_) (Comes.refl s _)
  · exact (h.trans (Comes.of_next .resolves)).weaken (Nat.zero_le _)
  · exact h.trans (comes_stopped s _ _ _ _ [])
  · exact h.trans (comes_beginCalls s _ _)

/-- **The start of a round** is one step, or it opens a round. -/
theorem poll_cases (s : Setup) (idle : Nat) (x : Execution) :
    (Next s ⟨x, .between idle⟩ (poll s idle x).snapshot ∧
        ∀ asleep queue, (poll s idle x).waiting ≠ .calls asleep queue) ∨
      (Next s ⟨x, .between idle⟩ (opened s (x.runnable s.graph) x) ∧
        poll s idle x = round s (x.runnable s.graph) x) := by
  unfold poll
  cases hun : x.hasUnresolved with
  | false => exact Or.inl ⟨.finishes hun, by simp [finished]⟩
  | true =>
    cases hrun : x.runnable s.graph with
    | cons n rest =>
      have hopens : Next s ⟨x, .between idle⟩ (opened s (x.runnable s.graph) x) :=
        .opens hun (by simp [hrun])
      exact Or.inr ⟨hrun ▸ hopens, rfl⟩
    | nil =>
      by_cases hidle : s.config.grace < idle
      · simp only [if_true, hidle]
        exact Or.inl ⟨.deadlocks hun hrun hidle, by simp [stopped]⟩
      · simp only [if_true, hidle, if_false]
        exact Or.inl ⟨.stalls hun hrun (Nat.le_of_not_lt hidle), by simp [resting]⟩

/-- The start of a round is a course. -/
theorem comes_poll (s : Setup) (idle : Nat) (x : Execution) :
    Comes s 1 ⟨x, .between idle⟩ (poll s idle x).snapshot := by
  rcases poll_cases s idle x with ⟨hnext, -⟩ | ⟨hopens, heq⟩
  · exact Comes.of_next hnext
  · rw [heq]
    exact (Comes.of_next hopens).trans (comes_round s _ x)

/-- How many steps there are at least when some sleeping nodes wake. -/
def woken (wakes : Sleeper → Bool) (st : RunState) : Nat :=
  match st.waiting with
  | .calls asleep _ => (asleep.filter wakes).length
  | .rest _ => 1
  | .ended _ => 0

/-- The sleeping nodes are those that wake and those that do not. -/
theorem coe_filter_add_filter_not (wakes : Sleeper → Bool) (asleep : List Sleeper) :
    (((asleep.filter wakes).map (·.task) : List Task) : Multiset Task) +
      ((asleep.filter fun z => !wakes z).map (·.task) : List Task) =
      (asleep.map (·.task) : List Task) := by
  rw [Multiset.coe_add, ← List.map_append]
  exact Multiset.coe_eq_coe.2 ((List.filter_append_perm wakes asleep).map _)

/-- **Going on is a course**, whichever of the sleeping nodes wake, and whenever. -/
theorem comes_resume (s : Setup) (wakes : Sleeper → Bool) (moment : Float) (st : RunState) :
    Comes s (st.woken wakes) st.snapshot (st.resume s wakes moment).snapshot := by
  obtain ⟨x, idle, waiting⟩ := st
  cases waiting with
  | ended fault => exact Comes.refl s _
  | rest due =>
    exact ((Comes.pass s _ moment).trans (comes_poll s idle _)).weaken (by simp [woken])
  | calls asleep queue =>
    have hpass := Comes.pass s (snapshot ⟨x, idle, .calls asleep queue⟩) moment
    have hall := comes_performAll s ((asleep.filter wakes).map (·.task)) { x with now := moment }
      ((asleep.filter fun z => !wakes z).map (·.task) + firstTasks true queue) []
    rcases hp : performAll s ((asleep.filter wakes).map (·.task)) { x with now := moment } with
      ⟨y, again, faults⟩
    simp only [resume, hp]
    have hafter := comes_afterSteps s (asleep.filter (fun z => !wakes z) ++ again) faults queue y
    have hleft : ((again.map (·.task) : List Task) : Multiset Task) +
        ((asleep.filter fun z => !wakes z).map (·.task) : List Task) =
        ((asleep.filter (fun z => !wakes z) ++ again).map (·.task) : List Task) := by
      rw [Multiset.add_comm, Multiset.coe_add, List.map_append]
    rw [hp, ← Multiset.add_assoc, coe_filter_add_filter_not, ← Multiset.add_assoc, hleft,
      Multiset.coe_add, Multiset.coe_add] at hall
    have hcount : woken wakes ⟨x, idle, .calls asleep queue⟩ ≤
        0 + ((asleep.filter wakes).map (·.task)).length + 0 := by
      simp [woken]
    exact ((hpass.trans hall).trans hafter).weaken hcount

/-! ## 4. Runs from their start -/

/-- The first suspension of a run. -/
theorem comes_start (s : Setup) : Comes s 1 (initial s) (start s).snapshot :=
  comes_poll s 0 _

theorem comes_reachable {st : RunState} (h : Reachable s st) :
    Comes s 0 (initial s) st.snapshot := by
  induction h with
  | start => exact (comes_start s).weaken (Nat.zero_le 1)
  | resume wakes moment _ ih =>
    exact (ih.trans (comes_resume s wakes moment _)).weaken (Nat.zero_le _)

/-- Driving a run is a course, however far it is driven. -/
theorem comes_driveFor (s : Setup) (limit : Option Float) (fuel : Nat) (st : RunState) :
    Comes s 0 st.snapshot (driveFor s limit fuel st).state.snapshot := by
  induction fuel generalizing st with
  | zero => exact Comes.refl s _
  | succ fuel ih =>
    have htick : ∀ moment, Comes s 0 st.snapshot
        (driveFor s limit fuel (st.tick s moment)).state.snapshot := by
      intro moment
      exact ((comes_resume s _ moment st).trans (ih _)).weaken (Nat.zero_le _)
    unfold driveFor
    cases st.nextMoment with
    | none => exact Comes.refl s _
    | some moment =>
      cases limit with
      | none => exact htick moment
      | some limit =>
        by_cases hdue : isDueAt moment limit = true
        · simp only [hdue, if_true]
          exact Comes.pass s st.snapshot _
        · simp only [hdue]
          exact htick moment

/-- **What the clock leads a run to is the end of a course**, also when it cancels the run. -/
theorem comes_drive (s : Setup) (limit : Option Float) :
    Comes s 0 (initial s) (drive s limit).state.snapshot :=
  ((comes_start s).trans (comes_driveFor s limit _ _)).weaken (Nat.zero_le _)

end RunState
end PromptChain
