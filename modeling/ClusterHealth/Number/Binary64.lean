/-!
Binary64 numbers by rank: the nonnegative ones are counted upwards from zero, infinity comes last,
and the sign stands beside the rank. Comparing is comparing ranks, and every operation takes an exact
quotient and rounds it once, to the nearest number and to the even one of two.
-/

namespace ClusterHealth

namespace Binary64

abbrev binade : Nat := 4503599627370496

abbrev infinityRank : Nat := 2047 * binade

end Binary64

inductive Binary64
  | nan
  | signed (negative : Bool) (rank : Fin (Binary64.infinityRank + 1))
deriving DecidableEq

namespace Binary64

instance : Inhabited Binary64 := ⟨.signed false ⟨0, by decide⟩⟩

def roundDiv (n d : Nat) : Nat :=
  let q := n / d
  let r := n % d
  if 2 * r < d ∨ (2 * r = d ∧ q % 2 = 0) then q else q + 1

def scaleOf (n d : Nat) : Int :=
  let guess : Int := n.log2 - d.log2
  let reached := if 0 ≤ guess then d * Nat.pow 2 guess.toNat ≤ n else d ≤ n * Nat.pow 2 (-guess).toNat
  max (-1074) ((if reached then guess else guess - 1) - 52)

/-- A carry out of the significand lands on the next rank, so that the sum needs no second case. -/
def rankOf (n d : Nat) : Nat :=
  if n = 0 then 0 else
    let e := scaleOf n d
    let q := if 0 ≤ e then roundDiv n (d * Nat.pow 2 e.toNat) else roundDiv (n * Nat.pow 2 (-e).toNat) d
    (e + 1074).toNat * binade + q

def ofRank (negative : Bool) (rank : Nat) : Binary64 :=
  .signed negative ⟨min rank infinityRank, Nat.lt_succ_of_le (Nat.min_le_right ..)⟩

def ofRatio (negative : Bool) (n d : Nat) : Binary64 := ofRank negative (rankOf n d)

def ofIntRatio (n : Int) (d : Nat) : Binary64 := ofRatio (decide (n < 0)) n.natAbs d

def ofInt (n : Int) : Binary64 := ofIntRatio n 1

instance : OfNat Binary64 n := ⟨ofInt n⟩

def infinity (negative : Bool) : Binary64 := ofRank negative infinityRank

def isNegative : Binary64 → Bool
  | nan => false
  | signed s _ => s

def isNaN : Binary64 → Bool
  | nan => true
  | signed .. => false

def isFinite : Binary64 → Bool
  | nan => false
  | signed _ r => decide (r.val < infinityRank)

def significand (rank : Nat) : Nat := if rank < binade then rank else binade + rank % binade

def scale (rank : Nat) : Int := max (rank / binade : Nat) 1 - 1075

def ratio (rank : Nat) : Nat × Nat :=
  let m := significand rank
  let e := scale rank
  if 0 ≤ e then (m * Nat.pow 2 e.toNat, 1) else (m, Nat.pow 2 (-e).toNat)

def toRatio? : Binary64 → Option (Int × Nat)
  | nan => none
  | signed s r =>
    if r.val < infinityRank then
      let (n, d) := ratio r.val
      some (if s then -n else n, d)
    else none

/-- Ordered by position on the line, where both zeros stand at the same place. -/
def position : Bool → Nat → Int
  | true, r => -r
  | false, r => r

def lt : Binary64 → Binary64 → Bool
  | signed s r, signed t u => decide (position s r < position t u)
  | _, _ => false

def le : Binary64 → Binary64 → Bool
  | signed s r, signed t u => decide (position s r ≤ position t u)
  | _, _ => false

def same : Binary64 → Binary64 → Bool
  | signed s r, signed t u => decide (position s r = position t u)
  | _, _ => false

def neg : Binary64 → Binary64
  | nan => nan
  | signed s r => signed (!s) r

def isZero : Binary64 → Bool
  | nan => false
  | signed _ r => decide (r.val = 0)

def add (x y : Binary64) : Binary64 :=
  match x, y with
  | nan, _ => nan
  | _, nan => nan
  | signed s r, signed t u =>
    match toRatio? (signed s r), toRatio? (signed t u) with
    | some (a, b), some (c, d) =>
      let n := a * d + c * b
      if n = 0 then ofRank (s && t) 0 else ofIntRatio n (b * d)
    | some _, none => signed t u
    | none, some _ => signed s r
    | none, none => if s = t then signed s r else nan

def sub (x y : Binary64) : Binary64 := add x (neg y)

def mul (x y : Binary64) : Binary64 :=
  match x, y with
  | nan, _ => nan
  | _, nan => nan
  | signed s r, signed t u =>
    match toRatio? (signed s r), toRatio? (signed t u) with
    | some (a, b), some (c, d) => ofRatio (s != t) (a * c).natAbs (b * d)
    | _, _ => if r.val = 0 ∨ u.val = 0 then nan else infinity (s != t)

def div (x y : Binary64) : Binary64 :=
  match x, y with
  | nan, _ => nan
  | _, nan => nan
  | signed s r, signed t u =>
    match toRatio? (signed s r), toRatio? (signed t u) with
    | some (a, b), some (c, d) =>
      if c = 0 then (if a = 0 then nan else infinity (s != t))
      else ofRatio (s != t) (a.natAbs * d) (b * c.natAbs)
    | some _, none => ofRank (s != t) 0
    | none, some _ => infinity (s != t)
    | none, none => nan

instance : Add Binary64 := ⟨add⟩
instance : Sub Binary64 := ⟨sub⟩
instance : Mul Binary64 := ⟨mul⟩
instance : Div Binary64 := ⟨div⟩

def truncate? (x : Binary64) : Option Int :=
  x.toRatio?.map fun (n, d) => n.tdiv d

def toInt? (x : Binary64) : Option Int :=
  x.toRatio?.bind fun (n, d) => if n % d = 0 then some (n / d) else none

/-- `digits · 10 ^ exponent`. Exponents out of reach are settled before a power is taken. -/
def ofDecimal (negative : Bool) (digits : Nat) (exponent : Int) : Binary64 :=
  if digits = 0 then ofRank negative 0
  else if 400 < exponent then infinity negative
  else if exponent + digits.log2 / 3 < -400 then ofRank negative 0
  else if 0 ≤ exponent then ofRatio negative (digits * Nat.pow 10 exponent.toNat) 1
  else ofRatio negative digits (Nat.pow 10 (-exponent).toNat)

end Binary64

end ClusterHealth
