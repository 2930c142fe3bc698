import ClusterHealth.Host.Basic
import ClusterHealth.Log
import ClusterHealth.Metric.Snapshot

namespace ClusterHealth.Collect

open ClusterHealth.Metric

structure Collected (α : Type) where
  snapshot : Snapshot α
  log : List LogRecord

def Collected.map (f : α → β) (c : Collected α) : Collected β := ⟨c.snapshot.map f, c.log⟩

structure Logged (α : Type) where
  answer : Answer α
  log : List LogRecord

def Logged.of (answer : Answer α) : Logged α := ⟨answer, []⟩

instance : Monad Logged where
  pure a := ⟨.ok a, []⟩
  bind x f :=
    match x.answer with
    | .error e => ⟨.error e, x.log⟩
    | .ok a => ⟨(f a).answer, x.log ++ (f a).log⟩

def isExpected (f : Fault) : Bool :=
  match f.family with
  | .provider | .system | .missingAttribute => true
  | _ => false

def warning (domain address : String) (f : Fault) : LogRecord :=
  ⟨.warning, "healthinfo.collectors.snapshots",
    s!"{domain} collection failed on {address}: " ++ f.text⟩

def failed (domain address : String) (f : Fault) : Collected α :=
  ⟨.failure address f.describe, [warning domain address f]⟩

def settle (domain address : String) : Answer α → Answer (Collected α)
  | .ok payload => .ok ⟨.success address payload, []⟩
  | .error f => if isExpected f then .ok (failed domain address f) else .error f

/-- Some collections are made on one system only; elsewhere they fail without a trace in the log. -/
def onLinux (address : String) (h : Host) (collect : Answer (Collected α)) : Answer (Collected α) :=
  if h.isLinux then collect
  else .ok ⟨.failure address s!"unsupported operating system {h.platform}", []⟩

end ClusterHealth.Collect
