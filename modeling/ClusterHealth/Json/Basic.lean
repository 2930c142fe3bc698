import ClusterHealth.Entries
import ClusterHealth.Number.Binary64
import ClusterHealth.Text.AnyText

/-!
JSON values. Whole numbers and decimals stay apart, since they are written and read back differently,
and the members of an object keep the order in which they came.
-/

namespace ClusterHealth

inductive Json
  | null
  | bool (b : Bool)
  | int (n : Int)
  | float (x : Binary64)
  | str (s : AnyText)
  | arr (items : List Json)
  | obj (members : List (AnyText × Json))
deriving Inhabited

abbrev Members := Entries Json AnyText

mutual

def Json.depth : Json → Nat
  | .arr items => Json.itemsDepth items + 1
  | .obj members => Json.membersDepth members + 1
  | _ => 0

def Json.itemsDepth : List Json → Nat
  | [] => 0
  | v :: rest => max (Json.depth v) (Json.itemsDepth rest)

def Json.membersDepth : List (AnyText × Json) → Nat
  | [] => 0
  | (_, v) :: rest => max (Json.depth v) (Json.membersDepth rest)

end

mutual

def Json.isPlain : Json → Bool
  | .str t => t.isPlain
  | .arr items => Json.itemsPlain items
  | .obj members => Json.membersPlain members
  | _ => true

def Json.itemsPlain : List Json → Bool
  | [] => true
  | v :: rest => v.isPlain && Json.itemsPlain rest

def Json.membersPlain : List (AnyText × Json) → Bool
  | [] => true
  | (name, v) :: rest => name.isPlain && (v.isPlain && Json.membersPlain rest)

end

end ClusterHealth
