import ClusterHealth.Collect.Cpus
import ClusterHealth.Collect.Memory
import ClusterHealth.Collect.Os
import ClusterHealth.Collect.Partitions
import ClusterHealth.Collect.Process
import ClusterHealth.DataType
import ClusterHealth.Report.Shape

namespace ClusterHealth.Collect

open ClusterHealth.Metric

structure SysSection where
  cpus : List Members
  partitions : List Members
  osinfo : List Members
  meminfo : List Members
  procinfo : List Members

def SysSection.toJson (s : SysSection) : Json :=
  let list (rs : List Members) : Json := .arr (rs.map .obj)
  Report.finite <| .obj [("cpus", list s.cpus), ("partitions", list s.partitions),
    ("osinfo", list s.osinfo), ("meminfo", list s.meminfo), ("procinfo", list s.procinfo)]

def recordsOf [Record α] (types : List DataType) (t : DataType) (collect : Answer (Collected α)) :
    Logged (List Members) :=
  if types.contains t then
    match collect with
    | .ok c => ⟨.ok [c.snapshot.flatten], c.log⟩
    | .error f => ⟨.error f, []⟩
  else pure []

def sysSection (address : String) (types : List DataType) (h : Host) : Logged SysSection := do
  let cpus ← recordsOf types .sysCpu (cpus address h)
  let partitions ← recordsOf types .sysDriveHw (partitions address h)
  let osinfo ← recordsOf types .sysOsInfo (os address h)
  let meminfo ← recordsOf types .sysMem (memory address h)
  let procinfo ← recordsOf types .sysProcess (process address h)
  return ⟨cpus, partitions, osinfo, meminfo, procinfo⟩

end ClusterHealth.Collect
