import ClusterHealth.Number.Binary64
import ClusterHealth.Text.Basic
import ClusterHealth.Text.Digit

namespace ClusterHealth.Numeral

open ClusterHealth.Text

inductive Error
  | malformed
  | tooLong (digits : Nat)
deriving DecidableEq

def digitLimit : Nat := 4300

def asciiDigit? (c : Char) : Option Nat :=
  if '0' ≤ c ∧ c ≤ '9' then some (c.toNat - 48) else none

def ofDigits (ds : List Nat) : Nat := ds.foldl (fun n d => n * 10 + d) 0

def underscoresPlaced : List Char → Bool
  | [] => true
  | ['_'] => false
  | '_' :: '_' :: _ => false
  | _ :: rest => underscoresPlaced rest

def digitRun? (digit : Char → Option Nat) (cs : List Char) : Option (List Nat × List Char) :=
  let inRun (c : Char) := c == '_' || (digit c).isSome
  let run := cs.takeWhile inRun
  if run.head? = some '_' ∨ !underscoresPlaced run then none
  else some (run.filterMap digit, cs.dropWhile inRun)

def sign : List Char → Bool × List Char
  | '-' :: rest => (true, rest)
  | '+' :: rest => (false, rest)
  | rest => (false, rest)

def int (s : String) : Except Error Int :=
  let (negative, rest) := sign (trimBy isSpace s.toList)
  match digitRun? digitValue? rest with
  | none => .error .malformed
  | some ([], _) => .error .malformed
  | some (ds, rest) =>
    if digitLimit < ds.length then .error (.tooLong ds.length)
    else if rest.isEmpty then .ok (if negative then -(ofDigits ds : Int) else ofDigits ds)
    else .error .malformed

def asciiLower (cs : List Char) : List Char := cs.map Char.toLower

def exponent? (digit : Char → Option Nat) : List Char → Option Int
  | [] => some 0
  | e :: rest =>
    if e = 'e' ∨ e = 'E' then
      let (negative, rest) := sign rest
      match digitRun? digit rest with
      | some (d :: ds, []) =>
        some (if negative then -(ofDigits (d :: ds) : Int) else ofDigits (d :: ds))
      | _ => none
    else none

def fraction? (digit : Char → Option Nat) : List Char → Option (List Nat × List Char)
  | '.' :: rest => digitRun? digit rest
  | rest => some ([], rest)

def bareFloat? (digit : Char → Option Nat) (cs : List Char) : Option Binary64 := do
  let (negative, body) := sign cs
  let name := String.ofList (asciiLower body)
  if name = "inf" ∨ name = "infinity" then return .infinity negative
  if name = "nan" then return .nan
  let (whole, rest) ← digitRun? digit body
  let (fraction, rest) ← fraction? digit rest
  if whole.isEmpty ∧ fraction.isEmpty then none
  let e ← exponent? digit rest
  return .ofDecimal negative (ofDigits (whole ++ fraction)) (e - fraction.length)

def float? (s : String) : Option Binary64 := bareFloat? digitValue? (trimBy isSpace s.toList)

end ClusterHealth.Numeral
