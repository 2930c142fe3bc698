import ClusterHealth.Json.Basic
import ClusterHealth.Number.Shortest
import ClusterHealth.Text.Quoted

namespace ClusterHealth.Json

open ClusterHealth.Text

structure NonFinite where
  nan : String
  infinity : String
  negativeInfinity : String

structure Format where
  /-- The first code point that is always written as an escape. -/
  escapedFrom : Nat
  /-- What stands for a surrogate that is not written as an escape. -/
  standIn : Fin 0x800 → Char
  indent : Option Nat
  layout : Decimal.Layout
  nonFinite : NonFinite

/-- Fixed notation from `0.0001` on, and exponents of two digits. -/
def wideLayout : Decimal.Layout := ⟨-4, 2⟩

/-- Fixed notation from `0.00001` on, and exponents as short as they are. -/
def narrowLayout : Decimal.Layout := ⟨-5, 1⟩

def nonFiniteNames : NonFinite := ⟨"NaN", "Infinity", "-Infinity"⟩

def nonFiniteNull : NonFinite := ⟨"null", "null", "null"⟩

def replacement : Fin 0x800 → Char := fun _ => Char.ofNat 0xFFFD

def compact : Format := ⟨0x7f, replacement, none, wideLayout, nonFiniteNames⟩

def compactRaw : Format := ⟨0x110000, replacement, none, wideLayout, nonFiniteNull⟩

def indentedAscii : Format := ⟨0x7f, replacement, some 4, wideLayout, nonFiniteNames⟩

def indentedRaw : Format := ⟨0x110000, replacement, some 4, narrowLayout, nonFiniteNull⟩

def floatText (l : Decimal.Layout) (names : NonFinite) (x : Binary64) : String :=
  match x.finiteText? l with
  | some t => t
  | none =>
    if x.isNaN then names.nan else if x.isNegative then names.negativeInfinity else names.infinity

def unitEscape (n : Nat) : List Char := '\\' :: 'u' :: hexDigits 4 n

def escapeChar (escapedFrom : Nat) (c : Char) : List Char :=
  if c = '"' then ['\\', '"']
  else if c = '\\' then ['\\', '\\']
  else if c = '\n' then ['\\', 'n']
  else if c = '\r' then ['\\', 'r']
  else if c = '\t' then ['\\', 't']
  else if c = '\x08' then ['\\', 'b']
  else if c = '\x0c' then ['\\', 'f']
  else if c.toNat < 0x20 then unitEscape c.toNat
  else if c.toNat < escapedFrom then [c]
  else if c.toNat < 0x10000 then unitEscape c.toNat
  else
    let n := c.toNat - 0x10000
    unitEscape (0xD800 + n / 0x400) ++ unitEscape (0xDC00 + n % 0x400)

def pointChars (f : Format) : Point → List Char
  | .char c => escapeChar f.escapedFrom c
  | .surrogate n =>
    if (Point.surrogate n).code < f.escapedFrom then [f.standIn n]
    else unitEscape (Point.surrogate n).code

def textChars (f : Format) : AnyText → List Char
  | .plain s => s.toList.flatMap (escapeChar f.escapedFrom)
  | .broken front n rest => (AnyText.broken front n rest).points.flatMap (pointChars f)

def stringChars (f : Format) (t : AnyText) : List Char := '"' :: (textChars f t ++ ['"'])

def Format.newline (f : Format) (level : Nat) : List Char :=
  match f.indent with
  | none => []
  | some n => '\n' :: List.replicate (level * n) ' '

def Format.colon (f : Format) : List Char :=
  match f.indent with
  | none => [':']
  | some _ => [':', ' ']

mutual

def chars (f : Format) (level : Nat) (rest : List Char) : Json → List Char
  | .null => "null".toList ++ rest
  | .bool true => "true".toList ++ rest
  | .bool false => "false".toList ++ rest
  | .int n => (toString n).toList ++ rest
  | .float x => (floatText f.layout f.nonFinite x).toList ++ rest
  | .str s => stringChars f s ++ rest
  | .arr [] => '[' :: ']' :: rest
  | .arr (v :: vs) =>
    '[' :: (f.newline (level + 1) ++
      chars f (level + 1) (itemChars f level (f.newline level ++ ']' :: rest) vs) v)
  | .obj [] => '\x7b' :: '\x7d' :: rest
  | .obj ((name, v) :: ms) =>
    '\x7b' :: (f.newline (level + 1) ++ stringChars f name ++ f.colon ++
      chars f (level + 1) (memberChars f level (f.newline level ++ '\x7d' :: rest) ms) v)

def itemChars (f : Format) (level : Nat) (rest : List Char) : List Json → List Char
  | [] => rest
  | v :: vs =>
    ',' :: (f.newline (level + 1) ++ chars f (level + 1) (itemChars f level rest vs) v)

def memberChars (f : Format) (level : Nat) (rest : List Char) : List (AnyText × Json) → List Char
  | [] => rest
  | (name, v) :: ms =>
    ',' :: (f.newline (level + 1) ++ stringChars f name ++ f.colon ++
      chars f (level + 1) (memberChars f level rest ms) v)

end

def render (f : Format) (v : Json) : String := String.ofList (chars f 0 [] v)

/-- Why what is written cannot be encoded. Written with two stand-ins it differs where a surrogate is. -/
def encodeError (f : Format) (v : Json) : String :=
  let marked (base : Nat) := chars { f with standIn := fun n => Char.ofNat (base + n) } 0 [] v
  let pairs := (marked 0xF0000).zip (marked 0x100000)
  let place := (pairs.takeWhile fun p => p.1 == p.2).length
  let run := (pairs.drop place).takeWhile fun p => p.1 != p.2
  let first := (run.head?.map fun p => p.1.toNat - 0xF0000).getD 0
  AnyText.encodeMessage place run.length (0xD800 + first)

end ClusterHealth.Json
