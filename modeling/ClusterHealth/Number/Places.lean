import ClusterHealth.Number.Shortest

namespace ClusterHealth.Decimal

def roundAt (n d : Nat) (e : Int) : Nat :=
  if 0 ≤ e then Binary64.roundDiv n (d * Nat.pow 10 e.toNat)
  else Binary64.roundDiv (n * Nat.pow 10 (-e).toNat) d

/-- `n / d` with `count` digits in all, where a carry makes room for itself. -/
def roundTo (count n d : Nat) : Decimal :=
  if n = 0 then ⟨0, 1 - count⟩
  else
    let e := leadingExponent n d - (count - 1 : Nat)
    let ds := roundAt n d e
    if ofDigitCount ds ≤ count then ⟨ds, e⟩ else ⟨ds / 10, e + 1⟩

def withPoint (whole fraction : List Char) (point : Bool) : List Char :=
  if fraction.isEmpty && !point then whole else whole ++ '.' :: fraction

def fixedText (places : Nat) (point : Bool) (n d : Nat) : List Char :=
  let ds := padLeft (places + 1) (Nat.toDigits 10 (roundAt n d (-places)))
  let whole := ds.length - places
  withPoint (ds.take whole) (ds.drop whole) point

def exponentText (e : Int) : List Char :=
  'e' :: (if e < 0 then '-' else '+') :: padLeft 2 (Nat.toDigits 10 e.natAbs)

def leading (x : Decimal) : Int := x.exponent + (Nat.toDigits 10 x.digits).length - 1

def scientificText (places : Nat) (point : Bool) (n d : Nat) : List Char :=
  let x := roundTo (places + 1) n d
  let ds := padLeft (places + 1) (Nat.toDigits 10 x.digits)
  let e := if n = 0 then 0 else x.leading
  withPoint (ds.take 1) (ds.drop 1) point ++ exponentText e

def dropZeros (cs : List Char) : List Char :=
  let cs := cs.reverse.dropWhile (· == '0')
  (match cs with
    | '.' :: rest => rest
    | cs => cs).reverse

def generalText (count : Nat) (point : Bool) (n d : Nat) : List Char :=
  let count := max count 1
  let e := if n = 0 then 0 else (roundTo count n d).leading
  if -4 ≤ e ∧ e < count then
    let cs := fixedText (count - 1 - e).toNat point n d
    if point || !cs.contains '.' then cs else dropZeros cs
  else
    let cs := scientificText (count - 1) point n d
    let number := cs.takeWhile (· != 'e')
    (if point || !number.contains '.' then number else dropZeros number) ++ cs.dropWhile (· != 'e')

end ClusterHealth.Decimal
