/-
# Where the run of a script ends

A script that can be read and whose models are offered is run as its nodes.  Such a run is the end
of a course: it comes to where it is over, or it is cancelled at its limit at some point of one
(`ofScript_reaches`).  So what holds along every course of the nodes holds of the run of the
script, whatever its configuration, its listener and its limit.

A limit that does not cancel a run makes no difference to it (`drive_eq_of_not_cancelled`).
-/
import PromptChain.Proofs.Run.Termination

namespace PromptChain

open Snapshot

namespace RunState

variable {s : Setup}

/-- As long as a limit does not cancel a run, it is led on as without a limit. -/
theorem driveFor_eq_of_not_cancelled {limit : Option Float} {fuel : Nat} {st : RunState}
    (h : (driveFor s limit fuel st).cancelled = false) :
    driveFor s limit fuel st = driveFor s none fuel st := by
  cases limit with
  | none => rfl
  | some limit =>
    induction fuel generalizing st with
    | zero => rfl
    | succ fuel ih =>
      simp only [driveFor] at h ⊢
      cases hnext : st.nextMoment with
      | none => rfl
      | some moment =>
        simp only [hnext] at h ⊢
        by_cases hdue : isDueAt moment limit = true
        · simp [hdue] at h
        · simp only [hdue] at h ⊢
          exact ih h

/-- **A limit that does not cancel a run makes no difference.** -/
theorem drive_eq_of_not_cancelled {limit : Option Float} (h : (drive s limit).cancelled = false) :
    drive s limit = drive s none :=
  driveFor_eq_of_not_cancelled h

/-- **A run is driven to a state in which it can be suspended**; when it is cancelled there, the
clock has moved to its limit. -/
theorem driveFor_reachable {limit : Option Float} {fuel : Nat} {st : RunState}
    (h : Reachable s st) : ∃ st' moment, Reachable s st' ∧
      (driveFor s limit fuel st).state.snapshot = st'.snapshot.atMoment moment := by
  induction fuel generalizing st with
  | zero => exact ⟨st, st.execution.now, h, rfl⟩
  | succ fuel ih =>
    unfold driveFor
    cases st.nextMoment with
    | none => exact ⟨st, st.execution.now, h, rfl⟩
    | some moment =>
      have htick := ih (h.resume (fun z => isDueAt moment z.due) moment)
      cases limit with
      | none => exact htick
      | some limit =>
        by_cases hdue : isDueAt moment limit = true
        · simp only [hdue, if_true]
          exact ⟨st, earlier moment limit, h, rfl⟩
        · simp only [hdue]
          exact htick

theorem drive_reachable (s : Setup) (limit : Option Float) : ∃ st moment, Reachable s st ∧
    (drive s limit).state.snapshot = st.snapshot.atMoment moment :=
  driveFor_reachable .start

/-- Without a limit no run is cancelled. -/
theorem not_cancelled_driveFor_none {fuel : Nat} {st : RunState} :
    (driveFor s none fuel st).cancelled = false := by
  induction fuel generalizing st with
  | zero => rfl
  | succ fuel ih =>
    simp only [driveFor]
    cases st.nextMoment with
    | none => rfl
    | some moment => exact ih

/-- What is cancelled has a limit. -/
theorem isSome_of_cancelled {limit : Option Float} (h : (drive s limit).cancelled = true) :
    limit.isSome = true := by
  cases limit with
  | some limit => rfl
  | none =>
    rw [drive, not_cancelled_driveFor_none] at h
    cases h

end RunState

/-- The fault that stopped a run, if one did. -/
def Outcome.fault? : Outcome → Option RunFault
  | .stopped f => some f
  | _ => none

theorem Outcome.eq_of_fault? {outcome : Outcome} {f : RunFault} (h : outcome.fault? = some f) :
    outcome = .stopped f := by
  cases outcome with
  | stopped g => exact congrArg Outcome.stopped (Option.some.inj h)
  | completed r => cases h
  | cancelled => cases h

/-- Whether a run was cancelled. -/
def Outcome.isCancelled : Outcome → Bool
  | .cancelled => true
  | _ => false

theorem Outcome.eq_of_isCancelled {outcome : Outcome} (h : outcome.isCancelled = true) :
    outcome = .cancelled := by
  cases outcome with
  | cancelled => rfl
  | completed r => cases h
  | stopped f => cases h

namespace Run

/-- **Some nodes are run along a course**, to the point where a limit cancels them or to its end. -/
theorem ofNodes_reaches {s : Setup} (hs : Graph.Distinct s.nodes) (limit : Option Float) :
    ∃ past x stage, Leads s (Snapshot.initial s) past ⟨x, stage⟩ ∧
      (limit.isSome = true ∧ ofNodes s limit = ⟨.cancelled, some x⟩ ∨
        ∃ fault, stage = .ended fault ∧ ofNodes s limit = ended s x fault) := by
  cases hcancel : (RunState.drive s limit).cancelled with
  | true =>
    obtain ⟨past, -, hl⟩ := RunState.comes_drive s limit
    refine ⟨past, _, _, hl, Or.inl ⟨RunState.isSome_of_cancelled hcancel, ?_⟩⟩
    simp [ofNodes, outcomeOf, hcancel]
  | false =>
    obtain ⟨past, x, fault, hl, hrun⟩ := ofNodes_eq_ended hs
    refine ⟨past, x, _, hl, Or.inr ⟨fault, rfl, ?_⟩⟩
    rw [← hrun, ofNodes, ofNodes, RunState.drive_eq_of_not_cancelled hcancel]

variable {source : String} {nodes : List Node} {client : Client}

/-- A script with nodes whose models are offered is run as its nodes. -/
theorem ofScript_eq_ofNodes (hload : Script.load source = .ok nodes)
    (hcheck : (Graph.mk nodes).checkModels client = .ok ()) (hne : nodes ≠ []) (config : RunConfig)
    (input : String) (listener : Option Listener) (limit : Option Float) :
    ofScript source client config input listener limit =
      ofNodes { nodes, client, config, input, listener } limit := by
  cases nodes with
  | nil => exact absurd rfl hne
  | cons n rest => simp only [ofScript, hload, hcheck]

/-- A script without nodes is completed at once. -/
theorem ofScript_of_nil (hload : Script.load source = .ok []) (config : RunConfig) (input : String)
    (listener : Option Listener) (limit : Option Float) :
    ofScript source client config input listener limit = ⟨.completed {}, none⟩ := by
  simp only [ofScript, hload]

/-- A script is refused when its models are not offered. -/
theorem ofScript_of_error (hload : Script.load source = .ok nodes) {f : RunFault}
    (hcheck : (Graph.mk nodes).checkModels client = .error f) (hne : nodes ≠ [])
    (config : RunConfig) (input : String) (listener : Option Listener) (limit : Option Float) :
    ofScript source client config input listener limit = refused f := by
  cases nodes with
  | nil => exact absurd rfl hne
  | cons n rest => simp only [ofScript, hload, hcheck]

/-- **A script is run along a course of its nodes.** -/
theorem ofScript_reaches (hload : Script.load source = .ok nodes)
    (hcheck : (Graph.mk nodes).checkModels client = .ok ()) (hne : nodes ≠ []) (config : RunConfig)
    (input : String) (listener : Option Listener) (limit : Option Float) :
    ∃ past x stage, Leads { nodes, client, config, input, listener }
        (Snapshot.initial { nodes, client, config, input, listener }) past ⟨x, stage⟩ ∧
      (limit.isSome = true ∧ ofScript source client config input listener limit =
          ⟨.cancelled, some x⟩ ∨
        ∃ fault, stage = .ended fault ∧ ofScript source client config input listener limit =
          ended { nodes, client, config, input, listener } x fault) := by
  rw [ofScript_eq_ofNodes hload hcheck hne]
  exact ofNodes_reaches (Script.loaded_of_load hload).distinct limit

/-- A run of a script that was started holds what its nodes were driven to. -/
theorem ofScript_driven (source : String) (client : Client) (config : RunConfig) (input : String)
    (listener : Option Listener) (limit : Option Float) :
    let run := ofScript source client config input listener limit
    run.execution = none ∨ ∃ nodes, Script.load source = .ok nodes ∧ run.execution =
      some (RunState.drive { nodes, client, config, input, listener } limit).state.execution := by
  intro run
  cases hload : Script.load source with
  | error r => exact Or.inl (by simp only [run, ofScript, hload, refused])
  | ok nodes =>
    by_cases hne : nodes = []
    · subst hne
      exact Or.inl (by simp only [run, ofScript_of_nil hload])
    cases hcheck : (Graph.mk nodes).checkModels client with
    | error f => exact Or.inl (by simp only [run, ofScript_of_error hload hcheck hne, refused])
    | ok =>
      refine Or.inr ⟨nodes, rfl, ?_⟩
      simp only [run, ofScript_eq_ofNodes hload hcheck hne, ofNodes]

/-- **Whatever the run of a script holds, it holds at a suspension of its nodes**; a run that holds
nothing was never started. -/
theorem ofScript_suspended (source : String) (client : Client) (config : RunConfig)
    (input : String) (listener : Option Listener) (limit : Option Float) :
    let run := ofScript source client config input listener limit
    run.execution = none ∨ ∃ nodes, Script.load source = .ok nodes ∧
      ∃ past st, Leads { nodes, client, config, input, listener }
          (Snapshot.initial { nodes, client, config, input, listener }) past
          (RunState.snapshot st) ∧
        run.execution = some st.execution := by
  intro run
  rcases ofScript_driven source client config input listener limit with hnone | ⟨nodes, hload, hrun⟩
  · exact Or.inl hnone
  · obtain ⟨past, -, hl⟩ :=
      RunState.comes_drive { nodes, client, config, input, listener } limit
    exact Or.inr ⟨nodes, hload, past, _, hl, hrun⟩

/-- **A run of a script that was started and not cancelled is the end of a course** of its nodes. -/
theorem ofScript_over {source : String} {client : Client} {config : RunConfig} {input : String}
    {listener : Option Listener} {limit : Option Float} {x : Execution}
    (hx : (ofScript source client config input listener limit).execution = some x)
    (hover : (ofScript source client config input listener limit).outcome.isCancelled = false) :
    ∃ nodes past fault, Script.load source = .ok nodes ∧
      Leads { nodes, client, config, input, listener }
        (Snapshot.initial { nodes, client, config, input, listener }) past ⟨x, .ended fault⟩ ∧
      ofScript source client config input listener limit =
        ended { nodes, client, config, input, listener } x fault := by
  cases hload : Script.load source with
  | error r => simp [ofScript, hload, refused] at hx
  | ok nodes =>
    by_cases hne : nodes = []
    · subst hne
      simp [ofScript_of_nil hload] at hx
    cases hcheck : (Graph.mk nodes).checkModels client with
    | error f => simp [ofScript_of_error hload hcheck hne, refused] at hx
    | ok =>
      obtain ⟨past, y, stage, hl, ⟨-, hrun⟩ | ⟨fault, rfl, hrun⟩⟩ :=
        ofScript_reaches hload hcheck hne config input listener limit
      · rw [hrun] at hover
        cases hover
      · obtain rfl : y = x := by
          rw [hrun] at hx
          cases fault <;> exact Option.some.inj hx
        exact ⟨nodes, past, fault, rfl, hl, hrun⟩

end Run
end PromptChain
