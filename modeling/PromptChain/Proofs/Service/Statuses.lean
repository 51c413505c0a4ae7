/-
# The statuses of a run

A run of a script that can be read comes out in few ways (`closed_ofScript`), and the service has a
status for each of them (`Outcome.status?`): 200 for a completed run, 400 when models are not
offered, 409 for a deadlock and 502 for a node that failed.  So a request to run such a script is
answered with one of these, and with no other (`outcomes_closed`).

All texts here hold characters only: those of a client, and those that a body asks with, since one
that is torn there cannot be read.  And the answer to a completed run shows how long it took, so
there is none to be written when the clock has gone beyond the finite numbers (`Outcome.isTimely`).
-/
import PromptChain.Proofs.Run.Failures
import PromptChain.Service.Basic

namespace PromptChain

open Snapshot

/-- The status that stands for the outcome of a run, of those that the service has one for. -/
def Outcome.status? : Outcome → Option Nat
  | .completed _ => some 200
  | .stopped (.models _) => some 400
  | .stopped (.deadlock _) => some 409
  | .stopped (.node _) => some 502
  | _ => none

theorem Outcome.status_mem {outcome : Outcome} {status : Nat}
    (h : outcome.status? = some status) : status ∈ [200, 400, 409, 502] := by
  unfold Outcome.status? at h
  split at h <;> cases h <;> decide

/-- Whether the time that an outcome shows is a finite one. -/
def Outcome.isTimely : Outcome → Bool
  | .completed record => record.elapsed.isFinite
  | _ => true

namespace Service

/-- The path to run a script is known in every deployment. -/
theorem respond_execute (service : Service) (body : ByteArray) :
    service.respond ⟨"POST", "/v1/workflows/execute", body⟩ = service.execute body := by
  have hroute : ∀ d, route? d "/v1/workflows/execute" = some .execute := by
    intro d
    cases d <;> decide +kernel
  simp only [respond, hroute]
  rfl

theorem isWritable_texts (l : List String) : (texts l).isWritable = true := by
  simp [texts, Json.isWritable]

/-- Of what the service shows of a completed run, only the time can be without a written form. -/
theorem isWritable_runBody (record : RunRecord) (progress : List Event) :
    (runBody record progress).isWritable = record.elapsed.isFinite := by
  rw [Bool.eq_iff_iff]
  simp [runBody, Json.isWritable, isWritable_texts]

/-- The answer to a completed run. -/
theorem ofRun_completed {run : Run} {record : RunRecord} (h : run.outcome = .completed record) :
    (record.elapsed.isFinite = true → ∃ shown, ofRun run = .response ⟨200, some shown⟩) ∧
      (record.elapsed.isFinite = false → ofRun run = .unwritable) := by
  simp only [ofRun, h, writing, List.all_cons, List.all_nil, Bool.and_true, isWritable_runBody]
  refine ⟨fun hfinite => ?_, fun hfinite => ?_⟩
  · exact ⟨_, if_pos hfinite⟩
  · exact if_neg (by simp [hfinite])

/-- **A run that is not cancelled is answered with the status of its outcome**, when the time that
it took can be shown. -/
theorem ofRun_of_closed {s : Setup} {run : Run} (h : Closed s none run) :
    ∃ status, run.outcome.status? = some status ∧
      (run.outcome.isTimely = true → ∃ shown, ofRun run = .response ⟨status, some shown⟩) ∧
      (run.outcome.isTimely = false → ofRun run = .unwritable) := by
  cases h with
  | refused hsome hnone => exact ⟨400, rfl, fun _ => ⟨_, rfl⟩, nofun⟩
  | empty h => exact ⟨200, rfl, ofRun_completed rfl⟩
  | ended h =>
    cases h with
    | completed hrun hall => exact ⟨200, rfl, ofRun_completed rfl⟩
    | deadlock hrun hnone => exact ⟨409, rfl, fun _ => ⟨_, rfl⟩, nofun⟩
    | node hrun hn hllm hfailed h => exact ⟨502, rfl, fun _ => ⟨_, rfl⟩, nofun⟩
  | cancelled h => cases h

end Service

/-- **The outcomes of a script that can be read are closed.**  Under every schedule and whatever
the client raises, no static node fails, and every fault is a deadlock or a model node with an
excuse; so a run of the nodes comes to an end that is concluded.  A run of the script may besides be
refused for its models before it starts.  And the service answers a request to run it with the
status of its outcome, which is 200, 400, 409 or 502; only to a completed run whose time is no
finite number is there no answer that can be written. -/
theorem outcomes_closed {source : String} {nodes : List Node}
    (hload : Script.load source = .ok nodes) :
    (∀ s : Setup, s.nodes = nodes → (∀ n, ∃ models, (s.meets n).models = .ok models) →
      (∀ {past : List Snapshot} {m : Snapshot}, Leads s (Snapshot.initial s) past m →
        (∀ n ∈ nodes, n.isStatic = true → m.execution.phase? n.id ≠ some .failed) ∧
        (∀ f ∈ m.stage.faults, Foreseen s m.execution.outputs f) ∧
        ∀ fault, m.stage = .ended fault → Concluded s m.execution fault) ∧
      ∃ x fault, Run.ofNodes s = Run.ended s x fault ∧ Concluded s x fault) ∧
    (∀ client config input listener limit,
      Closed { nodes, client, config, input, listener } limit
        (Run.ofScript source client config input listener limit)) ∧
    ∀ (service : Service) (body : ByteArray) (r : Service.RunRequest),
      Service.readBody Service.RunRequest.ofFields body = .ok r → r.script = source →
      ∃ status ∈ [200, 400, 409, 502], (service.run r).outcome.status? = some status ∧
        ((service.run r).outcome.isTimely = true → ∃ shown,
          service.respond ⟨"POST", "/v1/workflows/execute", body⟩ =
            .response ⟨status, some shown⟩) ∧
        ((service.run r).outcome.isTimely = false →
          service.respond ⟨"POST", "/v1/workflows/execute", body⟩ = .unwritable) := by
  have hloaded := Script.loaded_of_load hload
  refine ⟨?_, closed_ofScript hload, fun service body r hbody hscript => ?_⟩
  · rintro s rfl hmodels
    have hvar : ∀ n ∈ s.nodes, n.modelVariable? ≠ some "" := fun n hn =>
      hloaded.modelVariable?_ne hn
    refine ⟨fun {past m} hl => ?_, ?_⟩
    · refine ⟨fun n hn => static_not_failed hloaded.distinct hvar hmodels hl hn,
        foreseen_of_leads hloaded.distinct hvar hmodels hl, ?_⟩
      rintro fault hstage
      obtain ⟨x, stage⟩ := m
      subst hstage
      exact concluded_of_leads hloaded.distinct hvar hmodels hl
    · obtain ⟨past, x, fault, hl, hrun⟩ := Run.ofNodes_eq_ended hloaded.distinct
      exact ⟨x, fault, hrun, concluded_of_leads hloaded.distinct hvar hmodels hl⟩
  · rw [Service.respond_execute]
    simp only [Service.execute, hbody]
    have hclosed := closed_ofScript hload service.client (service.schedule r) r.input
      (some fun _ _ => .ok ()) none
    rw [← hscript] at hclosed
    obtain ⟨status, hstatus, hanswer⟩ := Service.ofRun_of_closed hclosed
    exact ⟨status, Outcome.status_mem hstatus, hstatus, hanswer⟩

/-- A client that has a transcript but cannot be asked. -/
def silentClient : Client :=
  { echoClient with answer := fun _ => .error ⟨.connection, "refused"⟩ }

/-- A run of a script with that client. -/
def silence : Setup where
  nodes := Script.relayNodes
  client := silentClient
  config := {}
  input := "rain"
  listener := none

/-- A request to run that script. -/
def relayRequest : Service.RunRequest := ⟨Script.relayScript, "rain", none, none⟩

/-- A body with that request. -/
def relayBody : ByteArray :=
  ("\x7b\"script\": \"#model = flash\\n#draft model +history: About \x7b\x7bINPUT\x7d\x7d, by " ++
    "\x7b\x7b#model\x7d\x7d\\n  #note = short\", \"input\": \"rain\"\x7d").toUTF8

theorem readBody_relayBody : Service.readBody Service.RunRequest.ofFields relayBody =
    .ok relayRequest := by
  have heval : ((Service.readBody Service.RunRequest.ofFields relayBody).toOption.map fun r =>
      (r.script, r.input, r.sequential, r.delay.isNone)) =
      some (Script.relayScript, "rain", none, true) := by decide +kernel
  obtain ⟨⟨script, input, sequential, delay⟩, hread, heq⟩ := Option.map_eq_some_iff.1 heval
  simp only [Prod.mk.injEq, Option.isNone_iff_eq_none] at heq
  obtain ⟨rfl, rfl, rfl, rfl⟩ := heq
  exact Script.eq_ok_of_toOption hread

/-- The run is stopped by its model node, which has an excuse, and the service answers with 502;
with a client that can be asked it is completed, and answered with 200. -/
theorem outcomes_closed_silence :
    (∃ x, Run.ofNodes silence = Run.ended silence x
        (some (.node { node := "draft", cause := some (.client ⟨.connection, "refused"⟩) })) ∧
      Concluded silence x
        (some (.node { node := "draft", cause := some (.client ⟨.connection, "refused"⟩) }))) ∧
      (∃ shown, Service.respond ⟨{}, silentClient⟩ ⟨"POST", "/v1/workflows/execute", relayBody⟩ =
        .response ⟨502, some shown⟩) ∧
      ∃ shown, Service.respond ⟨{}, echoClient⟩ ⟨"POST", "/v1/workflows/execute", relayBody⟩ =
        .response ⟨200, some shown⟩ := by
  obtain ⟨hcourses, -, hservice⟩ := outcomes_closed Script.load_relayScript
  have hmodels : ∀ n, ∃ models, (silence.meets n).models = .ok models := fun _ =>
    ⟨silentClient.models, rfl⟩
  -- a status and a finite time of the run decide the answer
  have hanswered : ∀ client status,
      (Service.run ⟨{}, client⟩ relayRequest).outcome.status? = some status ∧
        (Service.run ⟨{}, client⟩ relayRequest).outcome.isTimely = true →
      ∃ shown, Service.respond ⟨{}, client⟩ ⟨"POST", "/v1/workflows/execute", relayBody⟩ =
        .response ⟨status, some shown⟩ := by
    rintro client status ⟨hstatus, htimely⟩
    obtain ⟨_, -, hstatus', hanswer, -⟩ :=
      hservice ⟨{}, client⟩ relayBody _ readBody_relayBody rfl
    obtain rfl := Option.some.inj (hstatus.symm.trans hstatus')
    exact hanswer htimely
  refine ⟨?_, hanswered silentClient 502 (by decide +kernel),
    hanswered echoClient 200 (by decide +kernel)⟩
  obtain ⟨x, fault, hrun, hconcluded⟩ := (hcourses silence rfl hmodels).2
  have hfault : (Run.ofNodes silence).outcome.fault? = some
      (.node { node := "draft", cause := some (.client ⟨.connection, "refused"⟩) }) := by
    decide +kernel
  rw [hrun] at hfault
  cases fault with
  | none => cases hfault
  | some f =>
    obtain rfl := Option.some.inj hfault
    exact ⟨x, hrun, hconcluded⟩

end PromptChain
