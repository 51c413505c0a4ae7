/-
# Canned clients

A canned client answers from a script of its own, so a chain can run without any model.  A reply
is kept per nickname, and a nickname that differs in case only finds it; a model without a reply
answers with the beginning of the prompt it was sent.

A request for a model that the client does not have is refused at once; every other takes the
client's latency, whether it is answered or fails.
-/
import PromptChain.Client.Basic
import PromptChain.Store
import PromptChain.Text.Lines

namespace PromptChain

/-- What a canned client does with a request. -/
inductive CannedReply where
  /-- Always the same text. -/
  | text (s : String)
  /-- The model's nickname with the prompt between brackets. -/
  | echo
  /-- The model's nickname with the flags and all messages. -/
  | everything
  /-- A fault. -/
  | fault (f : ClientFault)
  deriving DecidableEq, Repr

/-- A client with canned replies. -/
structure CannedClient where
  models : List Model
  /-- The models it claims to have, when these are others. -/
  advertised : Option (List Model) := none
  replies : Store CannedReply := {}
  latency : Float := 0.0
  /-- Latencies of single models, by nickname. -/
  latencies : List (String × Float) := []
  transcript : List Message := []
  /-- Whether it gives no transcript at all. -/
  withholdsTranscript : Bool := false
  /-- The fault it raises when asked for the transcript. -/
  transcriptFault : Option ClientFault := none

namespace CannedClient

open PromptChain.Text

/-- The models of a canned client that is given none. -/
def defaultModels : List Model :=
  ["flash-lite", "flash", "pro"].map fun name => {
    nickname := name
    endpoint := some ("https://generativelanguage.googleapis.com/v1beta/models/gemini-2.5-" ++
      name ++ ":generateContent") }

/-! ## 1. Replies -/

/-- The beginning of a prompt, with dots for the rest. -/
def preview (prompt : String) : String :=
  if 50 < prompt.length then String.ofList (prompt.toList.take 50) ++ "..." else prompt

/-- All that a request carries, in one line. -/
def everything (r : Request) : String :=
  "[" ++ joined "," r.flags ++ "]<" ++
    joined "|" (r.messages.map fun m => m.sender ++ ":" ++ m.content) ++ ">"

/-- What a model answers; `nickname` is the model's own spelling. -/
def replyText (nickname : String) (r : Request) : Option CannedReply → Except ClientFault String
  | some (.text s) => .ok s
  | some .echo => .ok (nickname ++ "(" ++ r.prompt ++ ")")
  | some .everything => .ok (nickname ++ everything r)
  | some (.fault f) => .error f
  | none => .ok ("[" ++ nickname ++ "] Mock response for prompt: '" ++ preview r.prompt ++ "'")

/-- The reply kept for a nickname. -/
def reply? (c : CannedClient) (nickname : String) : Option CannedReply :=
  (c.replies.entries.find? fun e => sameLower e.1 nickname).map (·.2)

/-- The model that a nickname names. -/
def model? (c : CannedClient) (nickname : String) : Option Model :=
  c.models.find? (·.answersTo nickname)

/-- The answer to a request. -/
def answer (c : CannedClient) (r : Request) : Except ClientFault String :=
  match c.model? r.nickname with
  | none => .error ⟨.lookup, "Model '" ++ r.nickname ++ "' is not configured"⟩
  | some m => replyText m.nickname r (c.reply? m.nickname)

/-- The seconds until a request is answered. -/
def latencyOf (c : CannedClient) (r : Request) : Float :=
  match c.model? r.nickname with
  | none => 0.0
  | some m =>
    match c.latencies.reverse.find? fun e => sameLower e.1 m.nickname with
    | some (_, seconds) => seconds
    | none => c.latency

/-! ## 2. The client -/

/-- A canned client as a run sees it. -/
def toClient (c : CannedClient) : Client where
  models := c.advertised.getD c.models
  transcript := match c.transcriptFault with
    | some f => .error f
    | none => .ok (if c.withholdsTranscript then none else some c.transcript)
  answer := c.answer
  latency := c.latencyOf

/-- Adds a turn to the conversation. -/
def addMessage (c : CannedClient) (m : Message) : CannedClient :=
  { c with transcript := c.transcript ++ [m] }

end CannedClient
end PromptChain
