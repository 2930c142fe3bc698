import ClusterHealth.FieldError
import ClusterHealth.Json.Basic
import ClusterHealth.Number.Numeral

namespace ClusterHealth.Report

/-- `offset` is in minutes. -/
structure Timestamp where
  year : Nat
  month : Nat
  day : Nat
  hour : Nat
  minute : Nat
  second : Nat
  micro : Nat
  offset : Option Int
deriving DecidableEq

namespace Timestamp

def isLeap (year : Nat) : Bool := (year % 4 == 0 && year % 100 != 0) || year % 400 == 0

def daysIn (year month : Nat) : Nat :=
  match month with
  | 2 => if isLeap year then 29 else 28
  | 4 | 6 | 9 | 11 => 30
  | _ => 31

def number (digits : List Char) : Option Nat :=
  if digits.all Char.isDigit then some (Numeral.ofDigits (digits.filterMap Numeral.asciiDigit?))
  else none

def date? : List Char → Option ((Nat × Nat × Nat) × List Char)
  | y1 :: y2 :: y3 :: y4 :: '-' :: m1 :: m2 :: '-' :: d1 :: d2 :: rest => do
    let year ← number [y1, y2, y3, y4]
    let month ← number [m1, m2]
    let day ← number [d1, d2]
    if 1 ≤ month ∧ month ≤ 12 ∧ 1 ≤ day ∧ day ≤ daysIn year month then
      some ((year, month, day), rest)
    else none
  | _ => none

def micros (digits : List Char) : Nat :=
  let ds := (digits.take 6).filterMap Numeral.asciiDigit?
  Numeral.ofDigits ds * Nat.pow 10 (6 - ds.length)

def seconds? : List Char → Option ((Nat × Nat) × List Char)
  | ':' :: a :: b :: rest => do
    let second ← number [a, b]
    if 59 < second then none
    else
      match rest with
      | '.' :: tail | ',' :: tail =>
        let ds := tail.takeWhile Char.isDigit
        if ds.isEmpty then none else some ((second, micros ds), tail.dropWhile Char.isDigit)
      | rest => some ((second, 0), rest)
  | ':' :: _ => none
  | rest => some ((0, 0), rest)

def offsetDigits? (negative : Bool) (digits : List Char) : Option (Option Int) := do
  let (hours, minutes) ←
    match digits with
    | [a, b, ':', c, d] | [a, b, c, d] => do some (← number [a, b], ← number [c, d])
    | _ => none
  if 59 < minutes ∨ 23 < hours then none
  else
    let n : Int := hours * 60 + minutes
    some (some (if negative then -n else n))

def offset? : List Char → Option (Option Int)
  | [] => some none
  | ['Z'] | ['z'] => some (some 0)
  | '+' :: rest => offsetDigits? false rest
  | '-' :: rest | '−' :: rest => offsetDigits? true rest
  | _ => none

def isSeparator (c : Char) : Bool := c == 'T' || c == 't' || c == ' ' || c == '_'

def ofCalendar? (s : String) : Option Timestamp := do
  let ((year, month, day), rest) ← date? s.toList
  match rest with
  | [] => some ⟨year, month, day, 0, 0, 0, 0, none⟩
  | sep :: h1 :: h2 :: ':' :: m1 :: m2 :: rest =>
    let hour ← number [h1, h2]
    let minute ← number [m1, m2]
    if !isSeparator sep ∨ 23 < hour ∨ 59 < minute then none
    let ((second, micro), rest) ← seconds? rest
    let offset ← offset? rest
    some ⟨year, month, day, hour, minute, second, micro, offset⟩
  | _ => none

def epochDay : Int := 719468

/-- The calendar date of a day counted from 1970, in years that begin with March. -/
def ofDay (day : Int) : Int × Nat × Nat :=
  let z := day + epochDay
  let era := z / 146097
  let doe := (z % 146097).toNat
  let yoe := (doe - doe / 1460 + doe / 36524 - doe / 146096) / 365
  let doy := doe - (365 * yoe + yoe / 4 - yoe / 100)
  let mp := (5 * doy + 2) / 153
  let month := if mp < 10 then mp + 3 else mp - 9
  let year : Int := yoe + era * 400 + (if month ≤ 2 then 1 else 0)
  (year, month, doy - (153 * mp + 2) / 5 + 1)

/-- Counts beyond this are milliseconds. -/
def secondsLimit : Nat := 20000000000

def ofCount? (count : Int) (micro : Nat) : Option Timestamp :=
  let (seconds, micro) : Int × Nat :=
    if count.natAbs ≤ secondsLimit then (count, micro)
    else (count / 1000, micro + (count % 1000).toNat * 1000)
  let seconds := seconds + (micro / 1000000 : Nat)
  let (year, month, day) := ofDay (seconds / 86400)
  let second := (seconds % 86400).toNat
  if 1 ≤ year ∧ year ≤ 9999 then
    some ⟨year.toNat, month, day, second / 3600, second / 60 % 60, second % 60, micro % 1000000, some 0⟩
  else none

/-- Half a unit rounds up. -/
def roundUp (x : Binary64) : Nat :=
  match x.toRatio? with
  | some (n, d) => ((2 * n.toNat + d) / (2 * d))
  | none => 0

def floor? (x : Binary64) : Option Int := x.toRatio?.map fun (n, d) => n / d

def abs (x : Binary64) : Binary64 := if x.isNegative then x.neg else x

def fraction (x : Binary64) : Binary64 :=
  match x.truncate? with
  | some n => abs (x - .ofInt n)
  | none => .nan

/-- The integer part is rounded down, and the digits after the point are added to it. -/
def ofNumber? (x : Binary64) : Option Timestamp := do
  ofCount? (← floor? x) (roundUp (fraction x * 1000000))

/-- A count with digits after the point, added up from the left as the text is read. -/
def decimalFrom (sum weight : Binary64) : List Char → Option Binary64
  | [] => some sum
  | c :: rest =>
    (Numeral.asciiDigit? c).bind fun d => decimalFrom (sum + .ofInt d / weight) (weight * 10) rest

/-- Whole numbers of this size or more are not read as counts. -/
def countBound : Nat := 9223372036854775808

def ofCountText? (s : String) : Option Timestamp := do
  let (negative, body) := Numeral.sign s.toList
  let whole := body.takeWhile Char.isDigit
  let n := Numeral.ofDigits (whole.filterMap Numeral.asciiDigit?)
  if whole.isEmpty ∨ countBound ≤ n then none
  match body.dropWhile Char.isDigit with
  | [] => ofCount? (if negative then -n else n) 0
  | '.' :: rest =>
    let x ← decimalFrom (.ofInt n) 10 rest
    let x := if negative then x.neg else x
    let x := if Binary64.lt (.ofInt secondsLimit) (abs x) then x / 1000 else x
    let seconds ← floor? x
    ofCount? seconds (roundUp ((x - .ofInt seconds) * 1000000))
  | _ => none

def ofText (s : String) : Except FieldErrorKind Timestamp :=
  match (ofCalendar? s).orElse fun _ => ofCountText? s with
  | some t => if t.year = 0 then .error .datetimeParsing else .ok t
  | none => .error .datetimeFromDateParsing

def ofJson : Json → Except FieldErrorKind Timestamp
  | .str (.plain s) => ofText s
  | .str (.broken ..) => .error .stringUnicode
  | .int n =>
    if n.natAbs < countBound then (ofCount? n 0).elim (.error .datetimeParsing) .ok
    else .error .datetimeParsing
  | .float x => (ofNumber? x).elim (.error .datetimeParsing) .ok
  | _ => .error .datetimeType

def padded (width n : Nat) : String :=
  let ds := Nat.toDigits 10 n
  String.ofList (List.replicate (width - ds.length) '0' ++ ds)

def offsetText : Option Int → String
  | none => ""
  | some n =>
    if n = 0 then "Z"
    else (if n < 0 then "-" else "+") ++ padded 2 (n.natAbs / 60) ++ ":" ++ padded 2 (n.natAbs % 60)

def render (t : Timestamp) : String :=
  padded 4 t.year ++ "-" ++ padded 2 t.month ++ "-" ++ padded 2 t.day ++ "T" ++
  padded 2 t.hour ++ ":" ++ padded 2 t.minute ++ ":" ++ padded 2 t.second ++
  (if t.micro = 0 then "" else "." ++ padded 6 t.micro) ++ offsetText t.offset

end Timestamp

end ClusterHealth.Report
