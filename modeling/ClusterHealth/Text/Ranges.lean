namespace ClusterHealth.Text

abbrev Ranges := List (Nat × Nat)

def Ranges.has (rs : Ranges) (c : Char) : Bool :=
  rs.any fun (a, b) => decide (a ≤ c.toNat) && decide (c.toNat ≤ b)

end ClusterHealth.Text
