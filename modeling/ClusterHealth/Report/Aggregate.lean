import ClusterHealth.Json.Printer
import ClusterHealth.Report.Shape

namespace ClusterHealth.Report

structure Envelope where
  version : AnyText
  error : Option AnyText
deriving DecidableEq

namespace Envelope

def checkVersion : Json → Except FieldErrorKind AnyText
  | .null => .ok (.plain "")
  | v => checkText v

def checkError : Json → Except FieldErrorKind (Option AnyText)
  | .null => .ok none
  | v => (checkText v).map some

def ofMembers (d : Members) : Checked Envelope :=
  both (placed ["version"] (checkVersion ((d.get? "version").getD (.str ""))))
    (placed ["error"] (checkError ((d.get? "error").getD .null))) .mk

def ofJson : Json → Checked Envelope
  | .obj d => ofMembers d
  | _ => refuse [] .modelType

end Envelope

def field (name : String) (shape : Shape) : Field := (name, [], shape)

def latencyShape : Shape :=
  .object (["avg", "max", "min", "percentile_50", "percentile_90", "percentile_99"].map
    (field · .decimal))

def throughputShape : Shape :=
  .object (["avg", "max", "min", "percentile_50", "percentile_90", "percentile_99"].map
    (field · .whole))

def driveShape : Shape :=
  .object [field "error" .optionalText, field "path" .text, field "latency" latencyShape,
    field "throughput" throughputShape]

def nodeDrivesShape : Shape :=
  .object [field "addr" .text, field "error" .optionalText, field "serial_perf" (.list driveShape),
    field "parallel_perf" (.list driveShape)]

def peerShape : Shape :=
  .object [field "addr" .text, field "error" .optionalText, field "latency" latencyShape,
    field "throughput" throughputShape]

def nodeNetShape : Shape :=
  .object [field "addr" .text, field "error" .optionalText, field "remote_peers" (.list peerShape)]

def perfShape : Shape :=
  .object [field "drives" (.list nodeDrivesShape), field "net" (.list nodeNetShape),
    field "net_parallel" nodeNetShape]

def sysShape : Shape :=
  .object (["cpus", "partitions", "osinfo", "meminfo", "procinfo"].map (field · (.list .mapping)))

def configShape : Shape := .object [field "error" .optionalText, field "config" .free]

def serverShape : Shape :=
  .object [field "error" .optionalText, field "config" configShape, field "info" .mapping]

def serverKey : String := "minio"

def healthInfoShape : Shape :=
  .object [field "version" .text, field "error" .optionalText, field "timestamp" .optionalTime,
    field "sys" sysShape, field "perf" perfShape, (serverKey, ["server"], serverShape)]

structure HealthInfo where
  value : Value

namespace HealthInfo

def ofJson (v : Json) : Checked HealthInfo := (healthInfoShape.check [] v).map .mk

def depthLimit : Nat := 255

inductive DumpError
  | tooDeep
  | unencodable (t : AnyText)
deriving DecidableEq

namespace DumpError

def name : DumpError → String
  | tooDeep => "ValueError"
  | unencodable _ => "UnicodeEncodeError"

def message : DumpError → String
  | tooDeep => "Maximum serialization depth exceeded"
  | unencodable t => t.encodeError?.getD ""

def textMessage (e : DumpError) : String := "Error serializing to JSON: " ++ e.name ++ ": " ++ e.message

mutual

/-- The first thing that keeps a value from being written: a level too many, a broken name or, where it is
to become a text, a broken text. -/
def first? (asText : Bool) (levels : Nat) : Json → Option DumpError
  | .str t => if asText && !t.isPlain then some (.unencodable t) else none
  | .arr vs =>
    match levels with
    | 0 => some .tooDeep
    | levels + 1 => firstOfItems? asText levels vs
  | .obj ms =>
    match levels with
    | 0 => some .tooDeep
    | levels + 1 => firstOfMembers? asText levels ms
  | _ => none

def firstOfItems? (asText : Bool) (levels : Nat) : List Json → Option DumpError
  | [] => none
  | v :: rest => (first? asText levels v).or (firstOfItems? asText levels rest)

def firstOfMembers? (asText : Bool) (levels : Nat) : List (AnyText × Json) → Option DumpError
  | [] => none
  | (name, v) :: rest =>
    if !name.isPlain then some (.unencodable name)
    else (first? asText levels v).or (firstOfMembers? asText levels rest)

end

end DumpError

def dump (asText : Bool) (h : HealthInfo) : Except DumpError Json :=
  let v := h.value.toJson
  match DumpError.first? asText depthLimit v with
  | some e => .error e
  | none => .ok v

def toJson (h : HealthInfo) : Except DumpError Json := h.dump false

def render (h : HealthInfo) : Except DumpError String :=
  (h.dump true).map fun v => v.render Json.indentedRaw

end HealthInfo

end ClusterHealth.Report
