import ClusterHealth.Json.Decoder
import ClusterHealth.Text.Basic
import ClusterHealth.Text.Utf8

namespace ClusterHealth.Web

open ClusterHealth.Text

def upperHex (n : Nat) : Char := Char.ofNat (if n < 10 then 48 + n else 55 + n)

def octetEscape (b : UInt8) : List Char :=
  ['%', upperHex (b.toNat / 16), upperHex (b.toNat % 16)]

def escapeChar (c : Char) : List Char := (octets c.toString).flatMap octetEscape

/-- Every character that is not admitted is escaped; escapes that are there already stay. -/
def percentEncode (admitted : Char → Bool) (s : String) : String :=
  String.ofList (s.toList.flatMap fun c => if admitted c then [c] else escapeChar c)

def isAlphanumeric (c : Char) : Bool := c.isAlphanum

def isUnreserved (c : Char) : Bool := isAlphanumeric c || "-._~".toList.contains c

def isPrintableAscii (c : Char) : Bool := decide (0x20 ≤ c.toNat) && decide (c.toNat < 0x7f)

def admittedExcept (refused : String) (c : Char) : Bool :=
  isPrintableAscii c && !refused.toList.contains c

def formEncode (s : String) : String :=
  String.ofList (s.toList.flatMap fun c =>
    if isUnreserved c then [c] else if c = ' ' then ['+'] else escapeChar c)

def formOf (pairs : List (String × String)) : String :=
  "&".intercalate (pairs.map fun (name, v) => formEncode name ++ "=" ++ formEncode v)

def hexOctet? : List Char → Option UInt8
  | a :: b :: _ => do some ((← Json.hexValue? a) * 16 + (← Json.hexValue? b)).toUInt8
  | _ => none

def percentOctets : Nat → List Char → List UInt8
  | _, [] => []
  | skip + 1, _ :: rest => percentOctets skip rest
  | 0, c :: rest =>
    match if c = '%' then hexOctet? rest else none with
    | some b => b :: percentOctets 2 rest
    | none => octets c.toString ++ percentOctets 0 rest

def percentDecode (s : String) : String := utf8Replacing (percentOctets 0 s.toList)

def formDecode (s : String) : String :=
  percentDecode (String.ofList (s.toList.map fun c => if c = '+' then ' ' else c))

def parseForm (s : String) : List (String × String) :=
  ((pieces '&' s).filter (· ≠ "")).map fun piece =>
    match splitAtFirst? '=' piece with
    | some (name, v) => (formDecode name, formDecode v)
    | none => (formDecode piece, "")

end ClusterHealth.Web
