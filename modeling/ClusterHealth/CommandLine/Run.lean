import ClusterHealth.Admin.Client
import ClusterHealth.Agent.Api
import ClusterHealth.CommandLine.Usage
import ClusterHealth.Log.Root
import ClusterHealth.Settings.Basic

namespace ClusterHealth.CommandLine

open ClusterHealth.Admin ClusterHealth.Agent ClusterHealth.Report ClusterHealth.Web

inductive Failure
  | settings (errors : List FieldError)
  | deadline (e : Duration.Error)
  | config (e : ConfigError)
  | node (e : NodeError)
  | report (e : HealthInfo.DumpError)
  | foreign (f : Fault)

def Failure.message : Failure → AnyText
  | settings es =>
    "Startup configuration validation failed. Update .env or environment variables. Details: " ++
      "; ".intercalate (es.map fun e => e.location ++ ": " ++ e.kind.text?.getD e.kind.name)
  | deadline e => e.message
  | config e => e.message
  | node e => e.message
  | report e => e.textMessage
  | foreign f => f.describe

structure Service where
  host : String
  port : Int
  api : Api

structure Outcome where
  status : Except Failure Nat
  stdout : String
  stderr : String
  root : LogRoot
  log : List LogRecord
  sent : List SentRequest
  service : Option Service

namespace Outcome

def silent (status : Except Failure Nat) : Outcome := ⟨status, "", "", .initial, [], [], none⟩

def failed (e : Failure) : Outcome := silent (.error e)

def misused (e : UsageError) : Outcome := { silent (.ok 2) with stderr := e.report }

def under (root : LogRoot) (o : Outcome) : Outcome :=
  { o with root := root, log := o.log.filter fun r => root.isEnabled r.level }

end Outcome

structure World where
  environment : Entries String
  settingsFile : Option String
  host : Host
  hosts : HostNames
  reply : Reply

def snapshot (s : Settings) (types : List DataType) (h : Host) : Outcome :=
  let r := Collect.sysSection s.nodeAddress types h
  match r.answer with
  | .error f => { Outcome.failed (.foreign f) with log := r.log }
  | .ok collected =>
    { Outcome.silent (.ok 0) with
      stdout := collected.toJson.render Json.indentedAscii ++ "\n"
      log := r.log }

def config (hosts : HostNames) (s : Settings) : Config :=
  ⟨hosts, s.endpoint, s.apiPrefix, s.accessToken, .decimal s.timeout⟩

/-- A request may take as long as its deadline, however long others may take. -/
def requestTimeout (s : Settings) (deadline : Duration) : Binary64 :=
  if s.timeout.lt deadline.toSeconds then deadline.toSeconds else s.timeout

structure Requested where
  outcome : Outcome
  body : Option Body
  transport : Option Transport

def failureLog (e : Error) : LogRecord :=
  ⟨.error, "healthinfo.main", "health info request failed: " ++ e.message⟩

def requestFailed (e : Error) (log : List LogRecord) (sent : List SentRequest) : Outcome :=
  match e.category? with
  | some _ => { Outcome.silent (.ok 1) with log := log ++ [failureLog e], sent := sent }
  | none => { Outcome.failed (.foreign e.fault) with log := log, sent := sent }

def reported (h : HealthInfo) (log : List LogRecord) (sent : List SentRequest) : Outcome :=
  match h.render with
  | .ok text => { Outcome.silent (.ok 0) with stdout := text ++ "\n", log := log, sent := sent }
  | .error e => { Outcome.failed (.report e) with log := log, sent := sent }

def requestReport (t : Transport) (s : Settings) (types : List DataType) (deadline : Duration)
    (reply : Reply) : Requested :=
  let timeout := requestTimeout s deadline
  let n := requestHealthInfo t (types.map DataType.name) deadline (some (.decimal timeout)) reply
  match n.result with
  | .error (e, body) => ⟨requestFailed e n.log n.sent, body, some t.close⟩
  | .ok stream =>
    let (result, log, stream) := stream.read
    let outcome := match result with
      | .ok h => reported h (n.log ++ log) n.sent
      | .error e => requestFailed e (n.log ++ log) n.sent
    ⟨outcome, some stream.close.body, some t.close⟩

def request (hosts : HostNames) (s : Settings) (types : List DataType) (deadline : Duration)
    (reply : Reply) : Requested :=
  match Transport.ofConfig (config hosts s) with
  | .error e => ⟨.failed (.config e), none, none⟩
  | .ok t => requestReport t s types deadline reply

def healthInfo (hosts : HostNames) (s : Settings) (types : List DataType) (seconds : Binary64)
    (reply : Reply) : Outcome :=
  match Duration.ofSeconds seconds with
  | .error e => .failed (.deadline e)
  | .ok deadline => (request hosts s types deadline reply).outcome

def service (s : Settings) : Outcome :=
  match Node.ofAddress s.nodeAddress with
  | .error e => .failed (.node e)
  | .ok node =>
    { Outcome.silent (.ok 0) with service := some ⟨s.host, s.port, ⟨node, s.environmentName⟩⟩ }

def execute (a : Arguments) (s : Settings) (w : World) : Outcome :=
  match DataType.resolve a.types with
  | .error e => .misused (.rejected e.message)
  | .ok types =>
    match a.command with
    | .snapshot => snapshot s types w.host
    | .healthInfo => healthInfo w.hosts s types (a.deadline.getD s.deadline) w.reply
    | .api => service s

def logRoot (s : Settings) : LogRoot :=
  (LogRoot.initial.configure s.logLevel.name (if s.logJson then .object else .console) false).2

def loadFailure : Settings.LoadError → Failure
  | .invalid es => .settings es
  | .namelessHost f => .foreign f

def run (argv : List String) (w : World) : Outcome :=
  match Arguments.parse argv with
  | .error .help => { Outcome.silent (.ok 0) with stdout := helpText }
  | .error (.error e) => .misused e
  | .ok a =>
    match Settings.load w.environment w.settingsFile w.host.hostname with
    | .error e => .failed (loadFailure e)
    | .ok s => (execute a s w).under (logRoot s)

end ClusterHealth.CommandLine
