import ClusterHealth.Collect.Section
import ClusterHealth.Json.Printer
import ClusterHealth.Web.Url

namespace ClusterHealth.Agent

open ClusterHealth.Collect ClusterHealth.Text ClusterHealth.Web

structure Node where
  address : String
  address_ne : address ≠ ""

inductive NodeError
  | blankAddress
  | missing
deriving DecidableEq

def NodeError.message : NodeError → String
  | .blankAddress => "node_address must not be blank"
  | .missing => "node_snapshot_service must not be None"

def Node.ofAddress (address : String) : Except NodeError Node :=
  if h : strip address = "" then .error .blankAddress else .ok ⟨strip address, h⟩

structure Api where
  node : Node
  environment : String

structure Response where
  status : Nat
  contentType : Option String
  body : String
deriving DecidableEq

namespace Response

def json (status : Nat) (v : Json) : Answer Response :=
  if v.isPlain then .ok ⟨status, some "application/json", v.render Json.compactRaw⟩
  else .error ⟨.unencodable, v.encodeError Json.compactRaw⟩

def detail (status : Nat) (text : String) : Answer Response :=
  json status (.obj [("detail", .str text)])

def redirect : Response := ⟨307, none, ""⟩

def withoutBody (r : Response) : Response := { r with body := "" }

end Response

inductive Route
  | index
  | health
  | sysInfo
deriving DecidableEq

def Route.path : Route → String
  | index => "/"
  | health => "/health"
  | sysInfo => "/sysinfo"

def Route.all : List Route := [index, health, sysInfo]

/-- A line feed at the end of a path does not count. -/
def Route.ofPath? (path : String) : Option Route :=
  all.find? fun r => r.path == path || r.path ++ "\n" == path

def otherSlash (path : String) : String :=
  if path.toList.getLast? = some '/' then stripRightChar '/' path else path ++ "/"

namespace Api

def selection (query : List (String × String)) : Except DataType.UnknownNames (List DataType) :=
  match (query.filter (·.1 == "types")).map (·.2) with
  | [] => .ok DataType.all
  | names => DataType.parse names

def index (api : Api) : Answer Response :=
  Response.json 200 (.obj [("service", .str "cluster-health-client"), ("environment", .str api.environment),
    ("health_info_version", .str "1")])

def health (api : Api) : Answer Response :=
  Response.json 200 (.obj [("status", .str "ok"), ("app", .str "up"), ("node", .str api.node.address)])

def sysInfo (api : Api) (h : Host) (query : List (String × String)) : Logged Response :=
  match selection query with
  | .error e =>
    .of (Response.json 400 (.obj [("status", .str "error"), ("message", .str e.message)]))
  | .ok types => do
    let collected ← sysSection api.node.address types h
    .of (Response.json 200 collected.toJson)

def get (api : Api) (h : Host) (query : List (String × String)) : Route → Logged Response
  | .index => .of api.index
  | .health => .of api.health
  | .sysInfo => api.sysInfo h query

def handle (api : Api) (h : Host) (method path query : String) : Logged Response :=
  let shown (r : Answer Response) := .of (if method = "HEAD" then r.map Response.withoutBody else r)
  match Route.ofPath? path with
  | some route =>
    if method = "GET" then get api h (parseForm query) route
    else shown (Response.detail 405 "Method Not Allowed")
  | none =>
    if path != "/" && (Route.ofPath? (otherSlash path)).isSome then pure .redirect
    else shown (Response.detail 404 "Not Found")

def localServer : String := "http://testserver"

/-- The answer to a request whose target is given as a reference to the agent's own address. Escapes in
its path are undone by the caller and again by the agent. -/
def call (api : Api) (h : Host) (method target : String) : Logged Response :=
  let address := do Url.resolve .plain (← Url.base .plain localServer) target
  match address with
  | .error e => ⟨.error ⟨.invalidUrl, e.message⟩, []⟩
  | .ok u => api.handle h (upper method) (percentDecode (percentDecode u.path)) (u.query.getD "")

end Api

end ClusterHealth.Agent
