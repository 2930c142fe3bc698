import ClusterHealth.Number.Quantity
import ClusterHealth.Text.Utf8

namespace ClusterHealth

abbrev Answer (α : Type) := Except Fault α

instance : Coe α (Answer α) := ⟨.ok⟩

structure File where
  present : Answer Bool
  octets : Answer (List UInt8)

namespace File

open ClusterHealth.Text

def missing (path : String) : File := ⟨.ok false, .error (.noSuchFile path)⟩

def ofOctets (bs : List UInt8) : File := ⟨.ok true, .ok bs⟩

def unreadable (f : Fault) : File := ⟨.ok true, .error f⟩

def untestable (f : Fault) : File := ⟨.error f, .error f⟩

def text (f : File) : Answer String := do
  match utf8? (← f.octets) with
  | .ok s => return String.ofList (unifyLineEnds s.toList)
  | .error e => throw ⟨.undecodable, e.message⟩

end File

structure Capacity where
  total : Quantity
  free : Quantity

structure Uname where
  system : AnyText
  release : AnyText
  machine : AnyText

structure Mount where
  device : AnyText
  mountpoint : AnyText
  fsType : AnyText
  options : AnyText

structure SensorReading where
  label : AnyText
  current : Quantity
  high : Option Quantity
  critical : Option Quantity

structure Ram where
  total : Quantity
  available : Quantity

/-- The CPU times of a process: the two that are added up, and all as they were reported. -/
structure CpuTimes where
  user : Answer Quantity
  system : Answer Quantity
  all : Members

structure HostProcess where
  pid : Int
  children : Answer (List Int)
  ppid : Answer Int
  cmdline : Answer (List AnyText)
  netConnections : Answer Int
  createTime : Answer Quantity
  cwd : Answer AnyText
  exe : Answer AnyText
  gids : Answer (List Int)
  ioCounters : Answer Members
  isRunning : Answer Bool
  memoryInfo : Answer Members
  memoryMaps : Answer (List Members)
  memoryPercent : Answer Quantity
  name : Answer AnyText
  nice : Answer Quantity
  numCtxSwitches : Answer Members
  numFds : Answer Int
  numThreads : Answer Int
  status : Answer AnyText
  cpuTimes : Answer CpuTimes
  uids : Answer (List Int)
  username : Answer AnyText
  limit : String → Answer (Quantity × Quantity)

structure Host where
  platform : String
  time : Quantity
  hostname : Answer AnyText
  uname : Answer Uname
  processor : Answer AnyText
  machine : Answer AnyText
  file : String → File
  inodes : AnyText → Answer Capacity
  cpuFrequency : Answer (Option Quantity)
  cpuCount : Answer (Option Int)
  bootTime : Answer Quantity
  pids : Answer Int
  mounts : Answer (List Mount)
  diskUsage : AnyText → Answer Capacity
  ram : Answer Ram
  swap : Answer Capacity
  /-- `none` on a system without sensors. -/
  sensors : Option (Answer (List (AnyText × List SensorReading)))
  netCounters : Answer (Entries Members AnyText)
  limitNames : List String
  process : Answer HostProcess

namespace Host

def missingProvider (name : String) : Fault :=
  ⟨.missingAttribute, s!"module 'psutil' has no attribute '{name}'"⟩

def missingMethod (name : String) : Fault :=
  ⟨.missingAttribute, s!"'Process' object has no attribute '{name}'"⟩

def isLinux (h : Host) : Bool := "linux".toList.isPrefixOf h.platform.toList

end Host

end ClusterHealth
