/-
# Settings

The settings of the service come from given fields, from the environment, and from defaults, in
this order of precedence.  They hold a schedule for runs; its fields come from an object under the
name `workflow`, given as a field or, as JSON, in the variable of that name, and each field that is
not there still comes from a variable of its own, whose name begins with `WORKFLOW_`.

The names of fields are told apart without regard to case.  Where an object is given and there is
one in the variable, the two are joined under the names they use; only the variable's object has
its names replaced by those of the fields before that.

Unknown fields are passed over in the settings and refused in the schedule.  When no object is
given for the schedule, its faults hide those of the other settings.

A service reads its settings once and keeps them, so later changes of the environment do not reach
it (`get_of_get`).
-/
import PromptChain.Form.Names
import PromptChain.Json.Reader
import PromptChain.Run.Config
import PromptChain.Settings.Variables
import PromptChain.Text.Quoted

namespace PromptChain

open PromptChain.Form

/-! ## 1. The schedule -/

namespace RunConfig

/-- The names of the fields of a schedule. -/
def fieldNames : List String :=
  ["sequential_requests", "request_delay", "round_pause", "deadlock_grace_ticks"]

/-- A fault for every field that a schedule does not have. -/
def unknownFields (fields : Fields) : List Fault :=
  (fields.filter fun f => (matching? fieldNames f.1).isNone).map fun f => ⟨[f.1], .notAllowed⟩

/-- Reads a schedule from given fields and the environment. -/
def ofSources (v : Variables) (fields : Fields) : Checked RunConfig :=
  (ofFields (fields.named fieldNames ++ v.fields "workflow_" fieldNames)).alsoFaults
    (unknownFields fields)

/-- A schedule with some of its fields given anew; null keeps a field as it is. -/
def override (c : RunConfig) (fields : Fields) : Checked RunConfig :=
  ofFieldsOr c <| fields.filter fun
    | (_, .null) => false
    | _ => true

end RunConfig

/-! ## 2. Deployments -/

/-- What the service is deployed for. -/
inductive Deployment where
  | development
  | testing
  | production
  deriving DecidableEq, Repr

namespace Deployment

/-- The short name of a deployment. -/
def name : Deployment → String
  | development => "dev"
  | testing => "test"
  | production => "prod"

/-- The deployment with a short name. -/
def ofName? (s : String) : Option Deployment :=
  [development, testing, production].find? fun d => d.name == s

/-- Reads a deployment from its short name in any case. -/
def read (s : String) : Checked Deployment :=
  orFail (.rule (Text.quoted (Text.lower s) ++ " is not a valid Environment"))
    (ofName? (Text.lower s))

end Deployment

/-! ## 3. The settings -/

/-- The settings of the service. -/
structure Settings where
  appName : String := "Prompt Workflow Engine"
  deployment : Deployment := .development
  debug : Bool := false
  logLevel : String := "INFO"
  workflow : RunConfig := {}

/-- Why settings cannot be read. -/
inductive SettingsFault where
  /-- Fields break their rules. -/
  | fields (faults : List Fault)
  /-- The deployment is given by something that is no text. -/
  | deploymentNotText (value : Json)
  /-- The variable for the schedule cannot be read as JSON. -/
  | unreadableSchedule (fault : Json.ReadFault Nat)

namespace Settings

/-- The names of the fields of settings. -/
def fieldNames : List String := ["app_name", "environment", "debug", "log_level", "workflow"]

/-- The schedule's object in the environment, with the names of its fields; null counts as none. -/
def scheduleVariable (v : Variables) : Except SettingsFault (Option Json) :=
  match v.get? "workflow" with
  | none => .ok none
  | some text => match Json.read text with
    | .error fault => .error (.unreadableSchedule fault)
    | .ok .null => .ok none
    | .ok (.obj fields) => .ok (some (.obj (Fields.renamed fields RunConfig.fieldNames)))
    | .ok j => .ok (some j)

/-- Two values for one field: objects are joined, the given field's members winning; of other
values the given field's counts. -/
def joinedValue (given fromVariable : Option Json) : Option Json :=
  match given, fromVariable with
  | some (.obj fields), some (.obj more) => some (.obj (Store.ofList (more ++ fields)).entries)
  | some j, _ => some j
  | none, j => j

/-- Reads the schedule from its object, if there is one. -/
def schedule (v : Variables) : Option Json → Checked RunConfig
  | none => RunConfig.ofSources v []
  | some (.obj fields) => (RunConfig.ofSources v fields).under "workflow"
  | some _ => (Checked.fail .notSettings).under "workflow"

/-- Reads the deployment, which has to be a text. -/
def deploymentField : Reader Deployment
  | .str s => Deployment.read s
  | .torn => .fail .tornText
  | _ => .fail .notText

/-- Reads the settings once it is known what they are read from. -/
def ofValues (fields : Fields) (workflow : Checked RunConfig) : Checked Settings :=
  let ok : Checked _ := .ok Settings.mk
  let ok := Checked.ap ok (field fields "app_name" (some "Prompt Workflow Engine") text)
  let ok := Checked.ap ok (field fields "environment" (some .development) deploymentField)
  let ok := Checked.ap ok (field fields "debug" (some false) truth)
  let ok := Checked.ap ok (field fields "log_level" (some "INFO") text)
  Checked.ap ok workflow

/-- Whether a deployment is given by something that is no text. -/
def badDeployment? (fields : Fields) : Option Json :=
  match fields.lookup "environment" with
  | some (.str _) | some .torn => none
  | other => other

/-- Reads the settings from given fields and the environment. -/
def ofSources (v : Variables) (fields : Fields) : Except SettingsFault Settings :=
  match scheduleVariable v with
  | .error f => .error f
  | .ok fromVariable =>
    let given := fields.named fieldNames
    let all := given ++ v.fields "" ["app_name", "environment", "debug", "log_level"]
    let object := joinedValue (given.lookup "workflow") fromVariable
    match badDeployment? all, object, schedule v object with
    | some j, _, _ => .error (.deploymentNotText j)
    | none, none, .error faults => .error (.fields faults)
    | none, _, workflow => match ofValues all workflow with
      | .ok s => .ok s
      | .error faults => .error (.fields faults)

end Settings

/-! ## 4. Settings that are kept -/

/-- Settings that are read from the environment once and then kept. -/
structure KeptSettings where
  kept : Option Settings := none

namespace KeptSettings

/-- The settings, which are read when none are kept yet. -/
def get (k : KeptSettings) (v : Variables) : Except SettingsFault (Settings × KeptSettings) :=
  match k.kept with
  | some s => .ok (s, k)
  | none => (Settings.ofSources v []).map fun s => (s, ⟨some s⟩)

/-- **Once read, the settings no longer depend on the environment.** -/
theorem get_of_get {k k' : KeptSettings} {v : Variables} {s : Settings}
    (h : k.get v = .ok (s, k')) (w : Variables) : k'.get w = .ok (s, k') := by
  simp only [get] at h
  split at h
  · rename_i t ht
    simp only [Except.ok.injEq, Prod.mk.injEq] at h
    obtain ⟨rfl, rfl⟩ := h
    simp [get, ht]
  · cases hr : Settings.ofSources v [] with
    | error f => simp [hr, Except.map] at h
    | ok t =>
      simp only [hr, Except.map, Except.ok.injEq, Prod.mk.injEq] at h
      obtain ⟨rfl, rfl⟩ := h
      rfl

end KeptSettings
end PromptChain
