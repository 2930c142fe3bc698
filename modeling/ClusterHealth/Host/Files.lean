import ClusterHealth.Entries
import ClusterHealth.Host.Basic

namespace ClusterHealth

def Host.ofFiles (hostname : Answer AnyText) (uname : Uname) (time : Quantity)
    (files : Entries File) : Host where
  platform := "linux"
  time := time
  hostname := hostname
  uname := .ok uname
  processor := ""
  machine := uname.machine
  file := fun path => (files.get? path).getD (.missing path)
  inodes := fun path => .error (.noSuchFile path)
  cpuFrequency := .error (missingProvider "cpu_freq")
  cpuCount := .error (missingProvider "cpu_count")
  bootTime := .error (missingProvider "boot_time")
  pids := .error (missingProvider "pids")
  mounts := .error (missingProvider "disk_partitions")
  diskUsage := fun _ => .error (missingProvider "disk_usage")
  ram := .error (missingProvider "virtual_memory")
  swap := .error (missingProvider "swap_memory")
  sensors := none
  netCounters := .error (missingProvider "net_io_counters")
  limitNames := []
  process := .error (missingProvider "Process")

end ClusterHealth
