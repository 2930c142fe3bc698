import ClusterHealth.FieldError
import ClusterHealth.Host.Basic
import ClusterHealth.Log
import ClusterHealth.Number.Field
import ClusterHealth.Settings.EnvFile
import ClusterHealth.Text.LetterCase

namespace ClusterHealth

open ClusterHealth.Text

structure Settings where
  environmentName : String
  nodeAddress : String
  endpoint : String
  apiPrefix : String
  accessToken : Option String
  verifyTls : Bool
  deadline : Binary64
  timeout : Binary64
  host : String
  port : Int
  logLevel : LogLevel
  logJson : Bool

namespace Settings

def nonBlank (s : String) : Except FieldErrorKind String :=
  if s = "" then .error .stringTooShort
  else if strip s = "" then .error (.refused "value must not be blank")
  else .ok (strip s)

def rootedPath (s : String) : Except FieldErrorKind String :=
  let path := stripRightChar '/' (strip s)
  if startsWith "/" path then .ok path
  else .error (.refused "admin_api_prefix must start with '/'")

def yesWords : List String := ["true", "t", "yes", "y", "on", "1"]

def noWords : List String := ["false", "f", "no", "n", "off", "0"]

def switch (s : String) : Except FieldErrorKind Bool :=
  let word := s.map Char.toLower
  if yesWords.contains word then .ok true
  else if noWords.contains word then .ok false
  else .error .boolParsing

def decimal (s : String) : Except FieldErrorKind Binary64 :=
  match Numeral.fieldFloat? s with
  | some x => .ok x
  | none => .error .floatParsing

def whole (s : String) : Except FieldErrorKind Int :=
  match Numeral.fieldInt s with
  | .ok n => .ok n
  | .error .malformed => .error .intParsing
  | .error (.tooLong _) => .error .intParsingSize

def deadlineSeconds (s : String) : Except FieldErrorKind Binary64 := do
  let x ← decimal s
  if Binary64.le 0 x then return x else throw .greaterThanEqual

/-- Compared with the deadline, and with its default where that is not valid itself. -/
def timeoutSeconds (deadline : Checked Binary64) (s : String) : Except FieldErrorKind Binary64 := do
  let x ← decimal s
  if !Binary64.lt 0 x then throw .greaterThan
  if x.lt (deadline.toOption.getD 3600) then
    throw (.refused
      "admin_request_timeout_seconds must be greater than or equal to health_info_deadline_seconds")
  return x

def portNumber (s : String) : Except FieldErrorKind Int := do
  let n ← whole s
  if n < 1 then throw .greaterThanEqual
  if 65535 < n then throw .lessThanEqual
  return n

def levelName (s : String) : Except FieldErrorKind LogLevel :=
  match LogLevel.ofName? (upper (strip s)) with
  | some l => .ok l
  | none => .error (.refused "log_level must be one of CRITICAL, ERROR, WARNING, INFO, DEBUG")

def foldNames (es : Entries α) : Entries α := Entries.ofList (es.map fun (n, v) => (lower n, v))

/-- What is given for a name, in the environment before the file. -/
def given (environment : Entries String) (file : Option String) (name : String) : Option String :=
  match (foldNames environment).get? name with
  | some v => some v
  | none => (file.bind fun text => (foldNames (EnvFile.read environment text)).get? name).join

def ownAddress (given : Option String) (hostname : AnyText) : Except FieldErrorKind String :=
  match given, hostname with
  | some s, _ => nonBlank s
  | none, .plain s => nonBlank s
  | none, .broken .. => .error .stringUnicode

def ofTexts (given : String → Option String) (hostname : AnyText) : Checked Settings :=
  let field {α : Type} (name default : String) (check : String → Except FieldErrorKind α) : Checked α :=
    placed [name] (check ((given name).getD default))
  let deadline := field "health_info_deadline_seconds" "3600.0" deadlineSeconds
  (Except.ok Settings.mk : Checked _)
    |> alongside (field "environment_name" "development" .ok)
    |> alongside (placed ["node_address"] (ownAddress (given "node_address") hostname))
    |> alongside (field "admin_endpoint_url" "http://127.0.0.1:9000" nonBlank)
    |> alongside (field "admin_api_prefix" "/minio/admin/v3" rootedPath)
    |> alongside (.ok (given "admin_access_token"))
    |> alongside (field "admin_verify_tls" "true" switch)
    |> alongside deadline
    |> alongside (field "admin_request_timeout_seconds" "3900.0" (timeoutSeconds deadline))
    |> alongside (field "application_host" "0.0.0.0" .ok)
    |> alongside (field "application_port" "8080" portNumber)
    |> alongside (field "log_level" "INFO" levelName)
    |> alongside (field "log_json" "false" switch)

inductive LoadError
  | invalid (errors : List FieldError)
  | namelessHost (f : Fault)

/-- A host is asked for its name only if the node was given no address. -/
def load (environment : Entries String) (file : Option String) (hostname : Answer AnyText) :
    Except LoadError Settings :=
  let given := given environment file
  match given "node_address", hostname with
  | none, .error f => .error (.namelessHost f)
  | _, hostname => (ofTexts given (hostname.toOption.getD "")).mapError .invalid

end Settings

end ClusterHealth
