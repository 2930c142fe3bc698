import ClusterHealth.Metric.Record

namespace ClusterHealth.Metric

inductive Snapshot (α : Type)
  | success (address : String) (payload : α)
  | failure (address : String) (error : AnyText)
deriving DecidableEq

namespace Snapshot

def address : Snapshot α → String
  | success a _ => a
  | failure a _ => a

def isSuccess : Snapshot α → Bool
  | success .. => true
  | failure .. => false

def flatten [Record α] : Snapshot α → Members
  | success a p => ("addr", .str a) :: Record.members p
  | failure a e => [("addr", .str a), ("error", .str e)]

def map (f : α → β) : Snapshot α → Snapshot β
  | success a p => success a (f p)
  | failure a e => failure a e

end Snapshot

inductive FlattenError
  | notASnapshot (v : Json)
  | notARecord

def typeName : Json → String
  | .null => "NoneType"
  | .bool _ => "bool"
  | .int _ => "int"
  | .float _ => "float"
  | .str _ => "str"
  | .arr _ => "list"
  | .obj _ => "dict"

def FlattenError.message : FlattenError → String
  | .notASnapshot v => s!"unsupported metric snapshot type: {typeName v}"
  | .notARecord => "asdict() should be called on dataclass instances"

end ClusterHealth.Metric
