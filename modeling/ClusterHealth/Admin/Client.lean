import ClusterHealth.Admin.Transport
import ClusterHealth.Report.Aggregate

/-!
Asking for health info. The first document of the answer says whether the rest can be read: an error
in it comes before its version, and only an answer that passes both is handed on, unread beyond that
document and open. The first document is then handed out again before those that follow it.
-/

namespace ClusterHealth.Admin

open ClusterHealth.Report ClusterHealth.Stream ClusterHealth.Text ClusterHealth.Web

/-- An answer that has passed negotiation; `first` is its first document until that is handed out. -/
structure HealthStream where
  version : AnyText
  body : Body
  reader : Reader
  first : Option Members

namespace HealthStream

def isClosed (s : HealthStream) : Bool := s.body.isClosed

def close (s : HealthStream) : HealthStream := { s with body := s.body.close }

def next (s : HealthStream) : Reading × HealthStream :=
  match s.first with
  | some d => (.document d, { s with first := none })
  | none =>
    let (reading, reader, body) := s.reader.next s.body
    (reading, { s with reader := reader, body := body })

/-- A bound on the steps to the end, of which each document takes a bracket of its own. -/
def stepsLeft (s : HealthStream) : Nat :=
  Chunk.sizes s.body.script + s.reader.pending.length + 4

def drain : Nat → HealthStream → List Members × Option ReadError × HealthStream
  | 0, s => ([], none, s)
  | steps + 1, s =>
    match s.next with
    | (.document d, s) =>
      let (ds, e, s) := drain steps s
      (d :: ds, e, s)
    | (.ended, s) => ([], none, s)
    | (.failed e, s) => ([], some e, s)

def readAll (s : HealthStream) : List Members × Option ReadError × HealthStream :=
  let (ds, e, s) := drain s.stepsLeft s
  (ds, e, s.close)

def read (s : HealthStream) : Except Error HealthInfo × List LogRecord × HealthStream :=
  let (ds, e, s) := s.readAll
  match e with
  | some e => (.error (.reading e), [], s)
  | none =>
    match ds.getLast? with
    | none => (.error .noDocuments, [], s)
    | some d =>
      let log : List LogRecord :=
        [⟨.debug, "healthinfo.adapters.health_stream",
          s!"health info stream consumed: documents={ds.length}"⟩]
      match HealthInfo.ofJson (.obj d) with
      | .ok h => (.ok h, log, s)
      | .error _ => (.error .report, log, s)

end HealthStream

structure Negotiation where
  result : Except (Error × Option Body) HealthStream
  sent : List SentRequest
  log : List LogRecord

def clientLogger : String := "healthinfo.adapters.admin_client"

def healthInfoPath : String := "/healthinfo"

def judge (d : Members) : Except Error AnyText :=
  match Envelope.ofMembers d with
  | .error _ => .error .envelope
  | .ok e =>
    match e.error with
    | some text =>
      if text ≠ "" then .error (.application text)
      else if isSupportedVersion e.version then .ok e.version
      else .error (.version e.version)
    | none => if isSupportedVersion e.version then .ok e.version else .error (.version e.version)

def negotiate (body : Body) : Except (Error × Body) HealthStream :=
  let (reading, reader, body) := Reader.initial.next body
  match reading with
  | .failed e => .error (.reading e, body.close)
  | .ended => .error (.emptyBody, body.close)
  | .document d =>
    match judge d with
    | .error e => .error (e, body.close)
    | .ok version => .ok ⟨version, body, reader, some d⟩

def negotiatedLog (version : AnyText) : LogRecord :=
  ⟨.info, clientLogger, "health info negotiated: version=" ++ version.quoted⟩

def rejectedLog (status : Nat) : LogRecord :=
  ⟨.warning, clientLogger, s!"health info request rejected: status={status}"⟩

def refusal (r : Response) : Error × Body :=
  match ServerError.ofResponse r with
  | (.ok e, r) => (.server e, r.body)
  | (.error f, r) => (.foreign f, r.body)

def requestHealthInfo (t : Transport) (types : List String) (deadline : Duration)
    (timeout : Option Quantity) (reply : Reply) : Negotiation :=
  match DataType.exactly types with
  | .error e => ⟨.error (.unknownType e, none), [], []⟩
  | .ok types =>
    let x := t.execute "GET" healthInfoPath (query types deadline) timeout reply
    match x.result with
    | .error e => ⟨.error (e, x.body), x.sent, x.log⟩
    | .ok r =>
      if r.status ≠ 200 then
        let (e, body) := refusal r
        ⟨.error (e, some body), x.sent, x.log ++ [rejectedLog r.status]⟩
      else
        match negotiate r.body with
        | .error (e, body) => ⟨.error (e, some body), x.sent, x.log⟩
        | .ok s => ⟨.ok s, x.sent, x.log ++ [negotiatedLog s.version]⟩

end ClusterHealth.Admin
