import ClusterHealth.Number.Binary64

/-!
The shortest decimal that reads back as a given binary64 number. A grid of decimals that has a point
near enough to read back has one beside the number itself, so that two candidates are tried for each
count of digits; where both read back the nearer one is taken.
-/

namespace ClusterHealth

structure Decimal where
  digits : Nat
  exponent : Int
deriving DecidableEq, Inhabited

namespace Decimal

structure Layout where
  fixedFrom : Int
  exponentWidth : Nat

def ofDigitCount (n : Nat) : Nat := (Nat.toDigits 10 n).length

def leadingExponent (n d : Nat) : Int :=
  if d ≤ n then ofDigitCount (n / d) - 1
  else -(ofDigitCount ((d + n - 1) / n - 1) : Int)

def toBinary64 (x : Decimal) : Binary64 := .ofDecimal false x.digits x.exponent

def readsBack (rank : Nat) (x : Decimal) : Bool :=
  match x.toBinary64 with
  | .signed false r => r.val == rank
  | _ => false

def onGrid? (rank n d : Nat) (e : Int) : Option Decimal :=
  let (a, b) := if 0 ≤ e then (n, d * Nat.pow 10 e.toNat) else (n * Nat.pow 10 (-e).toNat, d)
  let low : Decimal := ⟨a / b, e⟩
  let high : Decimal := ⟨a / b + 1, e⟩
  let r := a % b
  let lowFirst := decide (2 * r < b) || (decide (2 * r = b) && decide (a / b % 2 = 0))
  match readsBack rank low, readsBack rank high with
  | true, true => some (if lowFirst then low else high)
  | true, false => some low
  | false, true => some high
  | false, false => none

def trimZeros : Nat → Decimal → Decimal
  | 0, x => x
  | fuel + 1, x =>
    if x.digits ≠ 0 ∧ x.digits % 10 = 0 then trimZeros fuel ⟨x.digits / 10, x.exponent + 1⟩ else x

/-- The exact value, which has finitely many digits because the denominator is a power of two. -/
def exact (rank : Nat) : Decimal :=
  let m := Binary64.significand rank
  let e := Binary64.scale rank
  if 0 ≤ e then ⟨m * Nat.pow 2 e.toNat, 0⟩ else ⟨m * Nat.pow 5 (-e).toNat, e⟩

def shortest (rank : Nat) : Decimal :=
  if rank = 0 then ⟨0, 0⟩ else
    let (n, d) := Binary64.ratio rank
    let k := leadingExponent n d
    let found := (List.range 17).findSome? fun (i : Nat) => onGrid? rank n d (k - i)
    let x := found.getD (exact rank)
    trimZeros (ofDigitCount x.digits) x

def padLeft (width : Nat) (cs : List Char) : List Char :=
  List.replicate (width - cs.length) '0' ++ cs

def Layout.render (l : Layout) (x : Decimal) : String :=
  let ds := Nat.toDigits 10 x.digits
  let n := ds.length
  let k : Int := if x.digits = 0 then 0 else x.exponent + n - 1
  if l.fixedFrom ≤ k ∧ k < 16 then
    if k < 0 then String.ofList ('0' :: '.' :: (List.replicate (-k - 1).toNat '0' ++ ds))
    else if (n : Int) ≤ k + 1 then
      String.ofList (ds ++ List.replicate (k + 1 - n).toNat '0' ++ ['.', '0'])
    else String.ofList (ds.take (k + 1).toNat ++ '.' :: ds.drop (k + 1).toNat)
  else
    let fraction := if n ≤ 1 then [] else '.' :: ds.drop 1
    let sign := if k < 0 then '-' else '+'
    String.ofList
      (ds.take 1 ++ fraction ++ 'e' :: sign :: padLeft l.exponentWidth (Nat.toDigits 10 k.natAbs))

end Decimal

/-- The text of a finite number; `none` for the others, which each format spells in its own way. -/
def Binary64.finiteText? (l : Decimal.Layout) : Binary64 → Option String
  | .nan => none
  | .signed s r =>
    if r.val < Binary64.infinityRank then
      some ((if s then "-" else "") ++ l.render (Decimal.shortest r.val))
    else none

end ClusterHealth
