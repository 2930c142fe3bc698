import ClusterHealth.Fault

namespace ClusterHealth

inductive Quantity
  | whole (n : Int)
  | decimal (x : Binary64)
deriving DecidableEq

namespace Quantity

def toJson : Quantity → Json
  | whole n => .int n
  | decimal x => .float x

def infiniteFault : Fault := ⟨.overflow, "cannot convert float infinity to integer"⟩

def notANumberFault : Fault := ⟨.value, "cannot convert float NaN to integer"⟩

def tooLargeFault : Fault := ⟨.overflow, "int too large to convert to float"⟩

def toInt : Quantity → Except Fault Int
  | whole n => .ok n
  | decimal x =>
    match x.truncate? with
    | some n => .ok n
    | none => .error (if x.isNaN then notANumberFault else infiniteFault)

def toBinary64 : Quantity → Except Fault Binary64
  | whole n =>
    let x := Binary64.ofInt n
    if x.isFinite then .ok x else .error tooLargeFault
  | decimal x => .ok x

def combine (onWhole : Int → Int → Int) (onDecimal : Binary64 → Binary64 → Binary64) :
    Quantity → Quantity → Except Fault Quantity
  | whole m, whole n => .ok (whole (onWhole m n))
  | x, y => do return decimal (onDecimal (← x.toBinary64) (← y.toBinary64))

def add : Quantity → Quantity → Except Fault Quantity := combine (· + ·) (· + ·)

def sub : Quantity → Quantity → Except Fault Quantity := combine (· - ·) (· - ·)

def mul : Quantity → Quantity → Except Fault Quantity := combine (· * ·) (· * ·)

/-- Whether the number is at most zero, which a value that is no number is not either. -/
def atMostZero : Quantity → Bool
  | whole n => decide (n ≤ 0)
  | decimal x => Binary64.le x 0

end Quantity

end ClusterHealth
