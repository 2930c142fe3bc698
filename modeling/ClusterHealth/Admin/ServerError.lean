import ClusterHealth.Web.Response

namespace ClusterHealth.Admin

open ClusterHealth.Text ClusterHealth.Web

structure ServerError where
  message : AnyText
  status : Nat
  code : Option AnyText
  requestId : Option AnyText
deriving DecidableEq

namespace ServerError

def bodyLimit : Nat := 65536

def requestIdHeader : String := "x-amz-request-id"

def optionalText : Option Json → Option AnyText
  | none => none
  | some .null => none
  | some v => let s := v.display.strip; if s = "" then none else some s

def bodyText (r : Response) : Except Fault String × Response :=
  let (octets, body) := r.body.readOctets bodyLimit
  let text : Except Fault String :=
    match octets with
    | .ok bs => .ok (utf8Replacing bs)
    | .error f =>
      match f.family with
      | .timeout | .transport | .http => .ok ""
      | _ => .error f
  (text, { r with body := body.close })

/-- The error document in a text, if it is one. Only limits of the decoder are faults. -/
def document (text : String) : Except Fault (Option Members) :=
  if text = "" then .ok none
  else
    match Json.decode text with
    | .ok (.obj d) => .ok (some d)
    | .ok _ => .ok none
    | .error (.malformed ..) => .ok none
    | .error (.tooManyDigits n) => .error (.tooManyDigits n)
    | .error (.tooDeep c) => .error (.tooDeep c)

def statusText (r : Response) : String :=
  if r.reasonPhrase = "" then s!"HTTP {r.status}" else r.reasonPhrase

def ofText (r : Response) (text : String) : Except Fault ServerError := do
  let header := (r.headers.get? requestIdHeader).map .plain
  let orStatus (message : AnyText) : AnyText := if message = "" then statusText r else message
  match ← document text with
  | some d =>
    let message := (optionalText (d.get? "Message")).getD ""
    return {
      message := orStatus message
      status := r.status
      code := optionalText (d.get? "Code")
      requestId := (optionalText (d.get? "RequestId")).orElse fun _ => header }
  | none => return ⟨orStatus (strip text), r.status, none, header⟩

def ofResponse (r : Response) : Except Fault ServerError × Response :=
  let (text, closed) := bodyText r
  (text >>= ofText r, closed)

end ServerError

end ClusterHealth.Admin
