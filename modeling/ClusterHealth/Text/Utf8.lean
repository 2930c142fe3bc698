import ClusterHealth.Text.Quoted

/-!
Octets read as text. A decoder keeps the octets of an unfinished character between two pieces of
input, so that how the input is cut does not show; what cannot be read is one fault for each longest
piece that could have begun a character.
-/

namespace ClusterHealth.Text

inductive Charset
  | utf8
  | latin1
  | ascii
deriving DecidableEq

inductive Utf8Fault
  | start
  | continuation
  | ended
deriving DecidableEq

/-- A character, or `length` octets that are none and the last octet that was read for them. -/
inductive Decoded
  | char (c : Char)
  | fault (length : Nat) (first : UInt8) (cause : Utf8Fault)
deriving DecidableEq

/-- A character of which `seen` octets have come and `need` follow, the next from `low` to `high`. -/
structure Partial where
  first : UInt8
  seen : Nat
  need : Nat
  low : Nat
  high : Nat
  value : Nat
deriving DecidableEq

abbrev DecoderState := Option Partial

def beginChar (b : UInt8) : List Decoded × DecoderState :=
  let n := b.toNat
  let wait (need low high value : Nat) : List Decoded × DecoderState :=
    ([], some ⟨b, 1, need, low, high, value⟩)
  if n < 0x80 then ([.char (Char.ofNat n)], none)
  else if n < 0xC2 then ([.fault 1 b .start], none)
  else if n < 0xE0 then wait 1 0x80 0xBF (n - 0xC0)
  else if n = 0xE0 then wait 2 0xA0 0xBF 0
  else if n = 0xED then wait 2 0x80 0x9F 0xD
  else if n < 0xF0 then wait 2 0x80 0xBF (n - 0xE0)
  else if n = 0xF0 then wait 3 0x90 0xBF 0
  else if n < 0xF4 then wait 3 0x80 0xBF (n - 0xF0)
  else if n = 0xF4 then wait 3 0x80 0x8F 4
  else ([.fault 1 b .start], none)

def decodeOctet (s : DecoderState) (b : UInt8) : List Decoded × DecoderState :=
  match s with
  | none => beginChar b
  | some p =>
    if p.low ≤ b.toNat ∧ b.toNat ≤ p.high then
      let value := p.value * 64 + (b.toNat - 0x80)
      if p.need ≤ 1 then ([.char (Char.ofNat value)], none)
      else ([], some ⟨p.first, p.seen + 1, p.need - 1, 0x80, 0xBF, value⟩)
    else
      let (out, next) := beginChar b
      (.fault p.seen p.first .continuation :: out, next)

def decodeFrom (s : DecoderState) (out : List Decoded) : List UInt8 → List Decoded × DecoderState
  | [] => (out.reverse, s)
  | b :: rest =>
    let (now, s') := decodeOctet s b
    decodeFrom s' (now.reverse ++ out) rest

def decodeOctets (s : DecoderState) (bs : List UInt8) : List Decoded × DecoderState :=
  decodeFrom s [] bs

def decodeEnd : DecoderState → List Decoded
  | none => []
  | some p => [.fault p.seen p.first .ended]

def Decoded.replaced : Decoded → Char
  | .char c => c
  | .fault .. => Char.ofNat 0xFFFD

structure Utf8Error where
  position : Nat
  length : Nat
  first : UInt8
  cause : Utf8Fault
deriving DecidableEq

def Utf8Fault.reason : Utf8Fault → String
  | .start => "invalid start byte"
  | .continuation => "invalid continuation byte"
  | .ended => "unexpected end of data"

def Utf8Error.message (e : Utf8Error) : String :=
  let subject :=
    if e.length = 1 then
      s!"byte 0x{String.ofList (hexDigits 2 e.first.toNat)} in position {e.position}"
    else s!"bytes in position {e.position}-{e.position + e.length - 1}"
  s!"'utf-8' codec can't decode {subject}: {e.cause.reason}"

def strictly (position : Nat) (out : List Char) : List Decoded → Except Utf8Error (List Char)
  | [] => .ok out.reverse
  | .char c :: rest => strictly (position + c.utf8Size) (c :: out) rest
  | .fault n first cause :: _ => .error ⟨position, n, first, cause⟩

def decodeAll (bs : List UInt8) : List Decoded :=
  let (out, s) := decodeOctets none bs
  out ++ decodeEnd s

def utf8? (bs : List UInt8) : Except Utf8Error String :=
  (strictly 0 [] (decodeAll bs)).map String.ofList

def utf8Replacing (bs : List UInt8) : String :=
  String.ofList ((decodeAll bs).map Decoded.replaced)

/-- The characters that a piece of input completes. Only UTF-8 keeps a state between pieces. -/
def Charset.decode (cs : Charset) (s : DecoderState) (bs : List UInt8) : List Char × DecoderState :=
  match cs with
  | .utf8 => let (out, s') := decodeOctets s bs; (out.map Decoded.replaced, s')
  | .latin1 => (bs.map fun b => Char.ofNat b.toNat, s)
  | .ascii => (bs.map fun b => Char.ofNat (if b.toNat < 0x80 then b.toNat else 0xFFFD), s)

def octets (s : String) : List UInt8 := s.toUTF8.toList

end ClusterHealth.Text
