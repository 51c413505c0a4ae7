/-
# Responses of the service

A response has a status and, unless it is a page or a redirection, a JSON body.  A fault of a run
has a body with its sentence, its name, and what it is about; a refused body has one with all its
faults.

There is no response where the body of one would show a value that has no written form: the time
that a run took when that is not finite, or a part of a refused body (`writing`).
-/
import PromptChain.Graph.Report
import PromptChain.Run.Basic
import PromptChain.Service.Request

namespace PromptChain.Service

open PromptChain.Form

/-- A response. -/
structure Response where
  status : Nat
  body : Option Json := none

/-! ## 1. Parts of bodies -/

/-- A list of texts. -/
def texts (l : List String) : Json := .arr (l.map .str)

/-- A text that may be missing. -/
def nullableText : Option String → Json
  | some s => .str s
  | none => .null

/-- A node as the service shows it. -/
def nodeBody (n : Node) : Json :=
  .obj [("id", .str n.id), ("kind", .str (if n.isStatic then "static" else "llm")),
    ("model", nullableText n.model?), ("model_variable", nullableText n.modelVariable?),
    ("flags", texts n.flags), ("indent_level", .int n.indent), ("line_number", .int n.line),
    ("children", texts n.children), ("explicit_dependencies", texts n.references)]

/-- What an issue is about besides its node. -/
def issueDetails : Graph.Issue → List (String × Json)
  | .cycle ids => [("cycle_nodes", texts ids)]
  | .unknownReference _ ref => [("reference", .str ref)]
  | _ => []

/-- An issue as the service shows it. -/
def issueBody (i : Graph.Issue) : Json :=
  .obj [("code", .str i.code), ("message", .str i.message), ("node_id", nullableText i.node?),
    ("details", .obj (issueDetails i))]

/-- The nodes of a script and what was found out about their graph. -/
def scriptBody (nodes : List Node) : Json :=
  let g : Graph := ⟨nodes⟩
  let r := g.report
  .obj [("nodes", .arr (nodes.map nodeBody)), ("is_valid", .bool r.isValid),
    ("errors", .arr (r.errors.map issueBody)), ("warnings", .arr (r.warnings.map issueBody)),
    ("parallel_batches", .arr (g.batches.map texts))]

/-- What a completed run leaves, and what happened in it. -/
def runBody (r : RunRecord) (progress : List Event) : Json :=
  .obj [("result", .str r.result), ("state", .str Phase.completed.name),
    ("node_states", .obj (r.nodes.entries.map fun (id, p) => (id, .str p.name))),
    ("outputs", .obj (r.outputs.entries.map fun (id, s) => (id, .str s))),
    ("rounds", .int r.rounds), ("elapsed", .float r.elapsed),
    ("progress", texts (progress.map Event.text))]

/-! ## 2. Refusals -/

/-- A response that only says why. -/
def refusal (status : Nat) (detail : String) : Response :=
  ⟨status, some (.obj [("detail", .str detail)])⟩

/-- No such path. -/
def notFound : Response := refusal 404 "Not Found"

/-- A path that does not take the method. -/
def notAllowed : Response := refusal 405 "Method Not Allowed"

/-- A fault of a body as the service shows it. -/
def faultBody (f : Fault) : Json :=
  .obj [("loc", texts f.place), ("type", .str f.problem.code), ("msg", .str f.problem.message)]

/-- A response to a fault: its status, sentence and name, and what it is about. -/
def faultResponse (status : Nat) (message name : String) (about : List (String × Json)) :
    Response :=
  ⟨status, some (.obj ([("detail", .str message), ("error_type", .str name)] ++ about))⟩

/-- The answer to a request: a response, or a fault that the service has no response for. -/
inductive Answer where
  | response (r : Response)
  /-- A script has a node that breaks a rule for nodes. -/
  | badNode (faults : List Fault)
  /-- A model is to be named by a node that is not there. -/
  | noSuchNode (id : String)
  /-- The body of a response would show a value that cannot be written. -/
  | unwritable
  /-- A request asks for something with a torn text.  No such text is read or run here, so nothing
  is said of what comes of it: it may be a response, or a body that cannot be written. -/
  | untold

/-- A response that shows some values, if these can be written. -/
def writing (shown : List Json) (r : Response) : Answer :=
  if shown.all Json.isWritable then .response r else .unwritable

/-- The answer to a body that is refused.  A refusal shows, beside each fault, what it is about. -/
def ofBodyFault : BodyFault → Answer
  | .unreadable => .response (refusal 400 "There was an error parsing the body")
  | .torn => .untold
  | .broken given faults =>
    writing (faults.map (subject given))
      ⟨422, some (.obj [("detail", .arr (faults.map faultBody))])⟩

/-- The answer when a script is refused. -/
def ofRefusal : Script.Refusal → Answer
  | .line e => .response (faultResponse 400 e.message "ParseError" [("line_number", .int e.line)])
  | .node faults => .badNode faults

/-- The answer when something stops a run. -/
def ofRunFault : RunFault → Answer
  | .script r => ofRefusal r
  | .models m =>
    .response (faultResponse 400 m.message "ValidationError"
      [("missing_models", texts m.nicknames)])
  | .noSuchNode id => .noSuchNode id
  | .node f =>
    .response (faultResponse 502 f.message "NodeExecutionError" [("node_id", .str f.node)])
  | .deadlock d =>
    .response (faultResponse 409 d.message "DeadlockError"
      [("pending_nodes", texts d.pending), ("cycle_nodes", texts d.cycle)])
  | .rejected r => .response (faultResponse 500 r.message "InvalidStateTransitionError" [])

end PromptChain.Service
