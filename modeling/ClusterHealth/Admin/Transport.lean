import ClusterHealth.Admin.Error
import ClusterHealth.Log
import ClusterHealth.Number.Quantity
import ClusterHealth.Web.Redirect

namespace ClusterHealth.Admin

open ClusterHealth.Text ClusterHealth.Web

inductive ConfigError
  | blankEndpoint
  | blankPrefix
  | timeoutNotPositive
  | noTransport
  | unusable (f : Fault)
deriving DecidableEq

def ConfigError.message : ConfigError → AnyText
  | .blankEndpoint => "endpoint_url must not be blank"
  | .blankPrefix => "admin_api_prefix must not be blank"
  | .timeoutNotPositive => "request_timeout_seconds must be > 0"
  | .noTransport => "transport must not be None"
  | .unusable f => f.text

structure Config where
  hosts : HostNames
  endpoint : String
  apiPrefix : String
  token : Option String
  timeout : Quantity

structure Transport where
  hosts : HostNames
  server : Url
  apiPrefix : String
  authorization : Option String
  timeout : Quantity
  isOpen : Bool

/-- A request as it is handed to the network, which refuses it where its scheme has no transport. -/
structure SentRequest where
  method : String
  url : Url
  timeout : Quantity
  authorization : Option String

def userAgent : String := "cluster-health-client/1.0 (Python/httpx)"

inductive Reply
  | response (r : Response)
  | fault (f : Fault)

def base64Digit (n : Nat) : Char :=
  if n < 26 then Char.ofNat (65 + n)
  else if n < 52 then Char.ofNat (71 + n)
  else if n < 62 then Char.ofNat (n - 4)
  else if n = 62 then '+' else '/'

def base64 : List UInt8 → List Char
  | a :: b :: c :: rest =>
    let n := a.toNat * 65536 + b.toNat * 256 + c.toNat
    [n / 262144, n / 4096 % 64, n / 64 % 64, n % 64].map base64Digit ++ base64 rest
  | [a, b] =>
    let n := a.toNat * 65536 + b.toNat * 256
    [n / 262144, n / 4096 % 64, n / 64 % 64].map base64Digit ++ ['=']
  | [a] => [a.toNat * 65536 / 262144, a.toNat * 65536 / 4096 % 64].map base64Digit ++ ['=', '=']
  | [] => []

/-- The user of an address signs its requests, before any token does. -/
def userAuthorization? (u : Url) : Option String :=
  if u.userinfo = "" then none
  else
    let (name, password) := (splitAtFirst? ':' u.userinfo).getD (u.userinfo, "")
    let name := percentDecode name
    let password := percentDecode password
    if name = "" ∧ password = "" then none
    else some ("Basic " ++ String.ofList (base64 (octets (name ++ ":" ++ password))))

def trimSlashes (s : String) : String := stripRightChar '/' (stripLeftChar '/' s)

namespace Transport

def tokenHeader? (token : Option String) : Option String :=
  match token with
  | none => none
  | some t => if strip t = "" then none else some ("Bearer " ++ strip t)

def ofConfig (c : Config) : Except ConfigError Transport := do
  let endpoint := stripRightChar '/' (strip c.endpoint)
  let apiPrefix := "/" ++ trimSlashes (strip c.apiPrefix)
  if endpoint = "" then throw .blankEndpoint
  if apiPrefix = "/" then throw .blankPrefix
  if c.timeout.atMostZero then throw .timeoutNotPositive
  let server ← (Url.base c.hosts endpoint).mapError fun e => .unusable (urlFault e)
  let authorization := tokenHeader? c.token
  ((authorization.map checkAscii).getD (.ok ())).mapError .unusable
  return ⟨c.hosts, server, apiPrefix, authorization, c.timeout, true⟩

def close (t : Transport) : Transport := { t with isOpen := false }

def requestPath (t : Transport) (relPath : String) : String :=
  t.apiPrefix ++ "/" ++ stripLeftChar '/' relPath

def prepare (t : Transport) (method path : String) (params : List (String × String))
    (timeout : Option Quantity) : Except Fault SentRequest := do
  let url ← (t.server.resolve t.hosts path >>= fun u => u.withQuery params).mapError urlFault
  checkAscii url.netloc
  let authorization := (userAuthorization? url).orElse fun _ => t.authorization
  return ⟨upper method, url, timeout.getD t.timeout, authorization⟩

def closedFault : Fault :=
  ⟨.runtime, "Cannot send a request, as the client has been closed."⟩

def isRedirect (status : Nat) : Bool := [301, 302, 303, 307, 308].contains status

/-- A redirection is not followed, but the request that would follow it is made. -/
def checkLocation (hosts : HostNames) (request : Url) (r : Response) : Except Fault Unit := do
  match r.headers.get? "location" with
  | some place =>
    if isRedirect r.status then
      Url.checkFollowing hosts request (← Url.redirected hosts request place)
  | none => return

def networkError (path : String) (f : Fault) : Error :=
  match f.family with
  | .timeout => .requestTimedOut path
  | .transport => .requestFailed path f.text
  | _ => .foreign f

/-- The outcome of one request: the response with its body unread or the error, the body if there was
one all the same, and the request if it was handed to the network. -/
structure Execution where
  result : Except Error Response
  body : Option Body
  sent : List SentRequest
  log : List LogRecord

def receive (hosts : HostNames) (path : String) (sent : SentRequest) (log : List LogRecord) :
    Reply → Execution
  | .fault f => ⟨.error (networkError path f), none, [sent], log⟩
  | .response r =>
    match checkLocation hosts sent.url r with
    | .ok () => ⟨.ok r, some r.body, [sent], log⟩
    | .error f => ⟨.error (networkError path f), some r.body.close, [sent], log⟩

def execute (t : Transport) (method relPath : String) (params : List (String × String))
    (timeout : Option Quantity) (reply : Reply) : Execution :=
  let path := t.requestPath relPath
  match t.prepare method path (Entries.ofList params) timeout with
  | .error f => ⟨.error (.foreign f), none, [], []⟩
  | .ok request =>
    let log : List LogRecord :=
      [⟨.debug, "healthinfo.adapters.admin_transport",
        s!"admin request: method={method} path={path}"⟩]
    if t.isOpen then receive t.hosts path request log reply
    else ⟨.error (.foreign closedFault), none, [], log⟩

end Transport

end ClusterHealth.Admin
