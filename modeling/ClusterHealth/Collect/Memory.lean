import ClusterHealth.Collect.Outcome

namespace ClusterHealth.Collect

open ClusterHealth.Metric

def memoryProviders (h : Host) : Answer (Ram × Capacity) := do
  return (← h.ram, ← h.swap)

def memory (address : String) (h : Host) : Answer (Collected Memory) :=
  match memoryProviders h with
  | .error f => settle "memory" address (.error f)
  | .ok (ram, swap) => do
    return ⟨.success address
      ⟨← ram.total.toInt, ← ram.available.toInt, ← swap.total.toInt, ← swap.free.toInt⟩, []⟩

end ClusterHealth.Collect
