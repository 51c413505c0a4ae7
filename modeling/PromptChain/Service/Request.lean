/-
# Requests to the service

A request has a method, a path and possibly a body.  The body of a request that reads or runs a
script is a JSON object; what is wrong with it is reported field by field, at a place that begins
with `body`.

A body that is not JSON has a single fault, at the offset where reading it failed.  A body whose
bytes are no text, or whose JSON goes beyond the limits of reading, has no fault with a place: it
is unreadable as a whole (`BodyFault`).

A body may hold torn texts.  Those under names that nothing is asked of are passed over like any
value there.  What is asked for holds none, since the texts of this library cannot be torn; a body
that asks with a torn text, or is torn outside its JSON texts, is set apart (`BodyFault.torn`).
-/
import PromptChain.Form.Field
import PromptChain.Json.Reader

namespace PromptChain.Service

open PromptChain.Form

/-- A request. -/
structure Request where
  method : String
  path : String
  body : ByteArray := .empty

/-! ## 1. The body as an object -/

/-- Why a body is refused. -/
inductive BodyFault where
  /-- Its bytes are no text, or it goes beyond a limit of JSON. -/
  | unreadable
  /-- It is torn itself, or has a torn name, or asks for something with a torn text. -/
  | torn
  /-- It breaks the rules for what is asked for; `given` is the value that was read, null when none
  was. -/
  | broken (given : Json) (faults : List Fault)

/-- The fault of a body that breaks rules: a torn text is looked at before all others. -/
def BodyFault.ofFaults (given : Json) (faults : List Fault) : BodyFault :=
  if faults.any fun f => f.problem == .tornText then .torn else .broken given faults

/-- The value that a body holds. -/
def bodyValue (body : ByteArray) : Except BodyFault Json :=
  if body.isEmpty then .error (.broken .null [⟨["body"], .missing⟩])
  else match Text.decode body with
    | .error .noText => .error .unreadable
    | .error .torn => .error .torn
    | .ok text => match Json.read text with
      | .ok j => .ok j
      | .error (.unexpected offset) =>
        .error (.broken .null [⟨["body", toString offset], .notJson⟩])
      | .error .tornName => .error .torn
      | .error _ => .error .unreadable

/-- Reads a body as an object of some type. -/
def readBody {α : Type} (ofFields : Fields → Checked α) (body : ByteArray) : Except BodyFault α :=
  match bodyValue body with
  | .error fault => .error fault
  | .ok (.obj fields) => ((ofFields fields).under "body").mapError (.ofFaults (.obj fields))
  | .ok j => .error (.broken j [⟨["body"], .notObject⟩])

/-- The part of a given value that a fault in it is about: the whole of it when a field is
missing. -/
def subject (given : Json) (fault : Fault) : Json :=
  match fault.problem, fault.place with
  | .missing, _ => given
  | _, [_, name] => (given.field? name).getD given
  | _, _ => given

/-! ## 2. What is asked for -/

/-- The script to be read. -/
def scriptField (fields : Fields) : Checked String := field fields "script" none text

/-- A script to be run, its input, and what is to differ from the configured schedule. -/
structure RunRequest where
  script : String
  input : String
  sequential : Option Bool
  delay : Option Float

/-- Reads what is to be run. -/
def RunRequest.ofFields (fields : Fields) : Checked RunRequest :=
  let ok : Checked _ := .ok RunRequest.mk
  let ok := Checked.ap ok (scriptField fields)
  let ok := Checked.ap ok (field fields "input" (some "") text)
  let ok := Checked.ap ok (field fields "sequential_requests" (some none) (nullable truth))
  Checked.ap ok (field fields "request_delay" (some none) (nullable duration))

end PromptChain.Service
