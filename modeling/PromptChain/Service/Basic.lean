/-
# The service

The service reads and runs scripts over HTTP.

* `GET /` and `GET /v1/health` tell that it runs, `GET /v1/models` lists the models of its client.
* `POST /v1/workflows/parse` reads a script and reports on its graph.
* `POST /v1/workflows/execute` runs a script.
* In development there are pages with documentation.

A path that is known only with or without a slash at its end is redirected there; any other unknown
path is not found, and a known path refuses every method but its own.
-/
import PromptChain.Service.Response
import PromptChain.Settings.Basic
import PromptChain.Text.UpperCase

namespace PromptChain

/-- The service: its settings and the client it runs scripts against. -/
structure Service where
  settings : Settings
  client : Client

namespace Service

/-- The version that the service reports. -/
def version : String := "1.0.0"

/-! ## 1. Starting -/

/-- The levels of logging there are. -/
def logLevels : List String :=
  ["CRITICAL", "DEBUG", "ERROR", "FATAL", "INFO", "NOTSET", "WARN", "WARNING"]

/-- Starts the service, unless its level of logging is none there is; the error is that level. -/
def start (settings : Settings) (client : Client) : Except String Service :=
  let level := Text.upper settings.logLevel
  if logLevels.contains level then .ok ⟨settings, client⟩ else .error level

/-! ## 2. What the paths answer -/

/-- That the service runs. -/
def root (s : Service) : Response :=
  ⟨200, some (.obj [("name", .str s.settings.appName), ("version", .str version),
    ("status", .str "running")])⟩

/-- That the service is well, and the nicknames it knows. -/
def health (s : Service) : Response :=
  ⟨200, some (.obj [("status", .str "healthy"), ("version", .str version),
    ("models", texts (s.client.models.map (·.nickname)))])⟩

/-- The models of the client. -/
def models (s : Service) : Response :=
  ⟨200, some (.arr (s.client.models.map fun m =>
    .obj [("nickname", .str m.nickname), ("endpoint", nullableText m.endpoint)]))⟩

/-- Reads a script. -/
def parse (body : ByteArray) : Answer :=
  match readBody scriptField body with
  | .error fault => ofBodyFault fault
  | .ok script => match Script.load script with
    | .error r => ofRefusal r
    | .ok nodes => .response ⟨200, some (scriptBody nodes)⟩

/-- The schedule of a run: the configured one but for what the request asks for. -/
def schedule (s : Service) (r : RunRequest) : RunConfig :=
  { s.settings.workflow with
    sequential := r.sequential.getD s.settings.workflow.sequential
    delay := r.delay.getD s.settings.workflow.delay }

/-- The answer after a run. -/
def ofRun (run : Run) : Answer :=
  match run.outcome with
  | .completed record =>
    let body := runBody record ((run.execution.map (·.progress)).getD [])
    writing [body] ⟨200, some body⟩
  | .stopped f => ofRunFault f
  | .cancelled => .response ⟨500, none⟩

/-- The run that is asked for. -/
def run (s : Service) (r : RunRequest) : Run :=
  Run.ofScript r.script s.client (s.schedule r) r.input (some fun _ _ => .ok ())

/-- Runs a script. -/
def execute (s : Service) (body : ByteArray) : Answer :=
  match readBody RunRequest.ofFields body with
  | .error fault => ofBodyFault fault
  | .ok r => ofRun (s.run r)

/-! ## 3. Routes -/

/-- What a path leads to. -/
inductive Route where
  | root
  | health
  | models
  | parse
  | execute
  /-- A page, which has no JSON body. -/
  | page
  deriving DecidableEq, Repr

/-- The paths with pages. -/
def pages (d : Deployment) : List String :=
  if d = .development then ["/openapi.json", "/docs", "/docs/oauth2-redirect", "/redoc"]
  else ["/openapi.json"]

/-- The routes of a deployment. -/
def routes (d : Deployment) : List (String × Route) :=
  (pages d).map (fun path => (path, .page)) ++
    [("/v1/health", .health), ("/v1/models", .models), ("/v1/workflows/parse", .parse),
      ("/v1/workflows/execute", .execute), ("/", .root)]

/-- The methods that a route takes. -/
def Route.methods : Route → List String
  | .parse | .execute => ["POST"]
  | .page => ["GET", "HEAD"]
  | .root | .health | .models => ["GET"]

/-- Where a path leads; a line feed at its end does not count. -/
def route? (d : Deployment) (path : String) : Option Route :=
  ((routes d).find? fun r => path == r.1 || path == r.1 ++ "\n").map (·.2)

/-- A path with the slash at its end removed, or with one added. -/
def toggledSlash (path : String) : String :=
  if path.toList.getLast? == some '/' then
    String.ofList (path.toList.reverse.dropWhile (· == '/')).reverse
  else path ++ "/"

/-- The answer of a route. -/
def follow (s : Service) (route : Route) (body : ByteArray) : Answer :=
  match route with
  | .root => .response s.root
  | .health => .response s.health
  | .models => .response s.models
  | .parse => parse body
  | .execute => s.execute body
  | .page => .response ⟨200, none⟩

/-- The answer to a request.  Its method and path are taken as they are, with their case, and with
anything that follows the path. -/
def respond (s : Service) (r : Request) : Answer :=
  let d := s.settings.deployment
  match route? d r.path with
  | some route =>
    if route.methods.contains r.method then s.follow route r.body else .response notAllowed
  | none =>
    if (route? d (toggledSlash r.path)).isSome then .response ⟨307, none⟩ else .response notFound

end Service
end PromptChain
