import ClusterHealth.Collect.Outcome

namespace ClusterHealth.Collect

open ClusterHealth.Metric

def inodeUsage (h : Host) (mountpoint : AnyText) : Answer (Int × Int) := do
  let c ← h.inodes mountpoint
  return (← c.total.toInt, ← c.free.toInt)

def partitionUsage (h : Host) (m : Mount) : Answer (Capacity × Int × Int) := do
  let usage ← h.diskUsage m.mountpoint
  let inodes ← inodeUsage h m.mountpoint
  return (usage, inodes)

def partitionEntry (h : Host) (m : Mount) : Answer Metric.Partition :=
  match partitionUsage h m with
  | .error f => if isExpected f then .ok (.failure ⟨m.device, f.text⟩) else .error f
  | .ok (usage, inodeTotal, inodeFree) => do
    return .usage ⟨m.device, m.mountpoint, m.fsType, m.options, m.fsType, ← usage.total.toInt,
      ← usage.free.toInt, inodeTotal, inodeFree⟩

def partitions (address : String) (h : Host) : Answer (Collected Partitions) :=
  onLinux address h <|
    match h.mounts with
    | .error f => settle "partition" address (.error f)
    | .ok mounts => do
      return ⟨.success address ⟨← mounts.mapM (partitionEntry h)⟩, []⟩

end ClusterHealth.Collect
