/-
# Chat clients

A client knows models, keeps the transcript of a conversation, and answers requests.  A request
names a model and carries messages and flags.  What it answers, and how many seconds it takes to,
depend on the request alone; a client that answers at once takes zero seconds.

A client may fail: it raises a fault in place of a transcript or of an answer.

A client need not stay the same while a chain runs.  But a node turns to it only once, so all that
a run can notice of its changes is what every single node meets (`Encounter`).
-/
import PromptChain.Client.Model

namespace PromptChain

/-- A turn of a conversation. -/
structure Message where
  sender : String
  content : String := ""
  deriving DecidableEq, Repr

/-- What a client is asked. -/
structure Request where
  nickname : String
  messages : List Message
  flags : List String
  deriving DecidableEq, Repr

/-- The last message of a request, empty when there is none. -/
def Request.prompt (r : Request) : String :=
  match r.messages.getLast? with
  | some m => m.content
  | none => ""

/-- The kinds of faults a client raises. -/
inductive ClientFaultKind where
  | connection
  | lookup
  | runtime
  | timeout
  | value
  deriving DecidableEq, Repr

/-- What a client raises in place of an answer. -/
structure ClientFault where
  kind : ClientFaultKind
  message : String
  deriving DecidableEq, Repr

/-- A chat client as a run sees it. -/
structure Client where
  /-- The models it offers. -/
  models : List Model
  /-- The transcript of the conversation; there may be none. -/
  transcript : Except ClientFault (Option (List Message))
  /-- What it answers. -/
  answer : Request → Except ClientFault String
  /-- The seconds until it answers or raises. -/
  latency : Request → Float
  /-- The seconds until it gives the transcript or raises. -/
  recollection : Float := 0.0

/-- What one node meets when it turns to the client. -/
structure Encounter where
  /-- The models it is told of. -/
  models : Except ClientFault (List Model)
  transcript : Except ClientFault (Option (List Message))
  recollection : Float
  answer : Request → Except ClientFault String
  latency : Request → Float

/-- A request that was made, and when. -/
structure Call where
  request : Request
  started : Float
  /-- When it was answered, if it was. -/
  finished : Option Float := none

namespace Client

/-- Whether a nickname names one of the offered models. -/
def offers (c : Client) (nickname : String) : Bool := c.models.any (·.answersTo nickname)

/-- What every node meets when the client stays the same. -/
def encounter (c : Client) : Encounter where
  models := .ok c.models
  transcript := c.transcript
  recollection := c.recollection
  answer := c.answer
  latency := c.latency

/-- Makes one call at a moment: what comes of it, and the call as it is noted. -/
def ask (c : Client) (r : Request) (now : Float) : Except ClientFault String × Call :=
  let latency := c.latency r
  let ended := if 0 < latency then now + latency else now
  match c.answer r with
  | .ok text => (.ok text, ⟨r, now, some ended⟩)
  | .error f => (.error f, ⟨r, now, none⟩)

end Client
end PromptChain
