import ClusterHealth.Collect.Outcome
import ClusterHealth.Text.LetterCase
import ClusterHealth.Text.Basic

namespace ClusterHealth.Collect

open ClusterHealth.Metric ClusterHealth.Text

def stripMarks (s : String) : String := String.ofList (trimBy (· == '"') s.toList)

def parseRelease (text : String) : Entries String :=
  .ofList <| (lines text).filterMap fun line =>
    (splitAtFirst? '=' line).map fun (name, value) => (strip name, stripMarks (strip value))

def release (h : Host) : Answer (Entries String) := do
  let file := h.file "/etc/os-release"
  if ← file.present then return parseRelease (← file.text) else return []

def hostIdFrom (h : Host) : List String → Answer String
  | [] => .ok ""
  | path :: rest => do
    let file := h.file path
    if ← file.present then return strip (← file.text) else hostIdFrom h rest

def hostId (h : Host) : Answer String := hostIdFrom h ["/etc/machine-id", "/var/lib/dbus/machine-id"]

def hostInfo (h : Host) : Answer HostInfo := do
  let uname ← h.uname
  let fields ← release h
  let bootTime ← (← h.bootTime).toInt
  let hostname ← h.hostname
  let now ← h.time.toInt
  let procs ← h.pids
  let id := (fields.get? "ID").getD ""
  let hostId ← hostId h
  return {
    hostname := hostname
    uptime := max 0 (now - bootTime)
    bootTime := bootTime
    procs := procs
    os := uname.system.lower
    platform := id
    platformFamily := (fields.get? "ID_LIKE").getD id
    platformVersion := (fields.get? "VERSION_ID").getD ""
    kernelVersion := uname.release
    kernelArch := uname.machine
    hostId := hostId }

def sensorKey (chip label : AnyText) : AnyText := if label = "" then chip else chip ++ "_" ++ label

def temperature (chip : AnyText) (r : SensorReading) : Answer Temperature := do
  return ⟨sensorKey chip r.label, ← r.current.toBinary64, r.high, r.critical⟩

def temperatures (h : Host) : Answer (List Temperature) :=
  match h.sensors with
  | none => .ok []
  | some chips => do
    let readings ← (← chips).mapM fun (chip, readings) => readings.mapM (temperature chip)
    return readings.flatten

def os (address : String) (h : Host) : Answer (Collected OsInfo) :=
  onLinux address h <| settle "os" address do
    let info ← hostInfo h
    return ⟨info, ← temperatures h⟩

end ClusterHealth.Collect
