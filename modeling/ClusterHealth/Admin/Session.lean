import ClusterHealth.Admin.Client

/-!
A client in use: requests one after the other, each replacing the stream of the one before, and on the
current stream an iterator that may be started anew at any time.
-/

namespace ClusterHealth.Admin

open ClusterHealth.Report ClusterHealth.Stream ClusterHealth.Web

inductive Latest
  | nothing
  | stream
  | body (b : Body)

structure Session where
  transport : Transport
  stream : Option HealthStream
  iterating : Bool
  latest : Latest

namespace Session

def ofTransport (t : Transport) : Session := ⟨t, none, false, .nothing⟩

def latestBody? (s : Session) : Option Body :=
  match s.latest with
  | .nothing => none
  | .stream => s.stream.map (·.body)
  | .body b => some b

def forget (s : Session) : Session := ⟨s.transport, none, false, .nothing⟩

def latestOf : Option Body → Latest
  | none => .nothing
  | some b => .body b

def request (s : Session) (types : List String) (deadline : Duration) (timeout : Option Quantity)
    (reply : Reply) : Except Error AnyText × List SentRequest × Session :=
  let n := requestHealthInfo s.transport types deadline timeout reply
  match n.result with
  | .ok stream => (.ok stream.version, n.sent, ⟨s.transport, some stream, true, .stream⟩)
  | .error (e, body) => (.error e, n.sent, ⟨s.transport, none, false, latestOf body⟩)

def execute (s : Session) (method path : String) (params : List (String × String))
    (timeout : Option Quantity) (reply : Reply) : Except Error Nat × List SentRequest × Session :=
  let x := s.transport.execute method path params timeout reply
  (x.result.map (·.status), x.sent, { s with latest := latestOf x.body })

def next (s : Session) (stream : HealthStream) : Reading × Session :=
  if s.iterating then
    let (reading, stream) := stream.next
    let iterating := match reading with
      | .document _ => true
      | _ => false
    (reading, { s with stream := some stream, iterating := iterating })
  else (.ended, s)

def restart (s : Session) : Session := { s with iterating := true }

def read (s : Session) (stream : HealthStream) : Except Error HealthInfo × Session :=
  let (result, _, stream) := stream.read
  (result, { s with stream := some stream })

def close (s : Session) (stream : HealthStream) : Session :=
  { s with stream := some stream.close }

def closeClient (s : Session) : Session := { s with transport := s.transport.close }

/-- What the holder of a stream can do with it. A block that it is entered for closes it at the end. -/
inductive Use
  | next
  | restart
  | read
  | close
  | enter
  | leave
deriving DecidableEq

def handedOut (ds : List Members) (e : Option ReadError) : List Reading :=
  ds.map .document ++ e.toList.map .failed

def use (s : Session) (stream : HealthStream) : Use → List Reading × Session
  | .next =>
    let (reading, s) := s.next stream
    (reading.handed, s)
  | .restart => ([], s.restart)
  | .read =>
    let (ds, e, _) := stream.readAll
    (handedOut ds e, (s.read stream).2)
  | .close => ([], s.close stream)
  | .enter => ([], s)
  | .leave => ([], s.close stream)

end Session

end ClusterHealth.Admin
