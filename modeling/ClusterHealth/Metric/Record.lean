import ClusterHealth.Number.Quantity

namespace ClusterHealth.Metric

class Record (α : Type) where
  members : α → Members

def texts (ss : List String) : Json := .arr (ss.map fun (s : String) => .str s)

def wholes (ns : List Int) : Json := .arr (ns.map .int)

def records [Record α] (rs : List α) : Json := .arr (rs.map fun r => .obj (Record.members r))

def optionalNumber : Option Quantity → Json
  | some q => q.toJson
  | none => .null

structure Cpu where
  vendorId : String
  family : String
  model : String
  stepping : Int
  physicalId : String
  modelName : AnyText
  mhz : Binary64
  cacheSize : Int
  flags : List String
  microcode : String
  cores : Int
deriving DecidableEq

instance : Record Cpu where
  members c :=
    [("vendor_id", .str c.vendorId), ("family", .str c.family), ("model", .str c.model),
      ("stepping", .int c.stepping), ("physical_id", .str c.physicalId),
      ("model_name", .str c.modelName), ("mhz", .float c.mhz), ("cache_size", .int c.cacheSize),
      ("flags", texts c.flags), ("microcode", .str c.microcode), ("cores", .int c.cores)]

structure Cpus where
  cpus : List Cpu
deriving DecidableEq

instance : Record Cpus where
  members s := [("cpus", records s.cpus)]

structure PartitionUsage where
  device : AnyText
  mountpoint : AnyText
  fsType : AnyText
  mountOptions : AnyText
  mountFsType : AnyText
  spaceTotal : Int
  spaceFree : Int
  inodeTotal : Int
  inodeFree : Int
deriving DecidableEq

instance : Record PartitionUsage where
  members p :=
    [("device", .str p.device), ("mountpoint", .str p.mountpoint), ("fs_type", .str p.fsType),
      ("mount_options", .str p.mountOptions), ("mount_fs_type", .str p.mountFsType),
      ("space_total", .int p.spaceTotal), ("space_free", .int p.spaceFree),
      ("inode_total", .int p.inodeTotal), ("inode_free", .int p.inodeFree)]

structure PartitionFailure where
  device : AnyText
  error : AnyText
deriving DecidableEq

instance : Record PartitionFailure where
  members p := [("device", .str p.device), ("error", .str p.error)]

inductive Partition
  | usage (p : PartitionUsage)
  | failure (p : PartitionFailure)
deriving DecidableEq

instance : Record Partition where
  members
    | .usage p => Record.members p
    | .failure p => Record.members p

structure Partitions where
  partitions : List Partition
deriving DecidableEq

instance : Record Partitions where
  members s := [("partitions", records s.partitions)]

structure HostInfo where
  hostname : AnyText
  uptime : Int
  bootTime : Int
  procs : Int
  os : AnyText
  platform : String
  platformFamily : String
  platformVersion : String
  kernelVersion : AnyText
  kernelArch : AnyText
  hostId : String
deriving DecidableEq

instance : Record HostInfo where
  members h :=
    [("hostname", .str h.hostname), ("uptime", .int h.uptime), ("boot_time", .int h.bootTime),
      ("procs", .int h.procs), ("os", .str h.os), ("platform", .str h.platform),
      ("platform_family", .str h.platformFamily), ("platform_version", .str h.platformVersion),
      ("kernel_version", .str h.kernelVersion), ("kernel_arch", .str h.kernelArch),
      ("host_id", .str h.hostId)]

structure Temperature where
  sensorKey : AnyText
  temperature : Binary64
  high : Option Quantity
  critical : Option Quantity
deriving DecidableEq

instance : Record Temperature where
  members t :=
    [("sensor_key", .str t.sensorKey), ("temperature", .float t.temperature),
      ("high", optionalNumber t.high), ("critical", optionalNumber t.critical)]

structure OsInfo where
  info : HostInfo
  sensors : List Temperature
deriving DecidableEq

instance : Record OsInfo where
  members o := [("info", .obj (Record.members o.info)), ("sensors", records o.sensors)]

structure Memory where
  total : Int
  available : Int
  swapSpaceTotal : Int
  swapSpaceFree : Int
deriving DecidableEq

instance : Record Memory where
  members m :=
    [("total", .int m.total), ("available", .int m.available),
      ("swap_space_total", .int m.swapSpaceTotal), ("swap_space_free", .int m.swapSpaceFree)]

structure ResourceLimit where
  resource : String
  soft : Int
  hard : Int
deriving DecidableEq

instance : Record ResourceLimit where
  members l := [("resource", .str l.resource), ("soft", .int l.soft), ("hard", .int l.hard)]

structure ProcessInfo where
  pid : Int
  isBackground : Bool
  cpuPercent : Binary64
  childrenPids : List Int
  cmdLine : AnyText
  numConnections : Int
  createTime : Int
  cwd : AnyText
  execPath : AnyText
  gids : List Int
  ioCounters : Members
  netIoCounters : List Members
  isRunning : Bool
  memInfo : Members
  memMaps : List Members
  memPercent : Binary64
  name : AnyText
  nice : Int
  numCtxSwitches : Members
  numFds : Int
  numThreads : Int
  pageFaults : Members
  ppid : Int
  status : AnyText
  tgid : Int
  times : Members
  uids : List Int
  username : AnyText
  rlimit : List ResourceLimit

instance : Record ProcessInfo where
  members p :=
    [("pid", .int p.pid), ("is_background", .bool p.isBackground),
      ("cpu_percent", .float p.cpuPercent), ("children_pids", wholes p.childrenPids),
      ("cmd_line", .str p.cmdLine), ("num_connections", .int p.numConnections),
      ("create_time", .int p.createTime), ("cwd", .str p.cwd), ("exec_path", .str p.execPath),
      ("gids", wholes p.gids), ("io_counters", .obj p.ioCounters),
      ("net_io_counters", .arr (p.netIoCounters.map .obj)), ("is_running", .bool p.isRunning),
      ("mem_info", .obj p.memInfo), ("mem_maps", .arr (p.memMaps.map .obj)),
      ("mem_percent", .float p.memPercent), ("name", .str p.name), ("nice", .int p.nice),
      ("num_ctx_switches", .obj p.numCtxSwitches), ("num_fds", .int p.numFds),
      ("num_threads", .int p.numThreads), ("page_faults", .obj p.pageFaults), ("ppid", .int p.ppid),
      ("status", .str p.status), ("tgid", .int p.tgid), ("times", .obj p.times),
      ("uids", wholes p.uids), ("username", .str p.username), ("rlimit", records p.rlimit)]

end ClusterHealth.Metric
