import ClusterHealth.Json.Basic
import ClusterHealth.Number.Numeral

/-!
Reading JSON. Each function takes the text that is left and gives back what it leaves, so that a place
in the text is the length of what is left there. `NaN` and the infinities are accepted, an object keeps
the last value of a name at the place of the first, and nesting is bounded.
-/

namespace ClusterHealth.Json

open ClusterHealth.Text

inductive Cause
  | value
  | comma
  | colon
  | name
  | control
  | escape
  | unicodeEscape
  | unterminated
  | extra
  | byteOrderMark
deriving DecidableEq

def Cause.message : Cause → String
  | .value => "Expecting value"
  | .comma => "Expecting ',' delimiter"
  | .colon => "Expecting ':' delimiter"
  | .name => "Expecting property name enclosed in double quotes"
  | .control => "Invalid control character at"
  | .escape => "Invalid \\escape"
  | .unicodeEscape => "Invalid \\uXXXX escape"
  | .unterminated => "Unterminated string starting at"
  | .extra => "Extra data"
  | .byteOrderMark => "Unexpected UTF-8 BOM (decode using utf-8-sig)"

inductive Container
  | array
  | object
deriving DecidableEq

/-- Why a text is refused, and for a malformed one how much of it was left at that place. -/
inductive Refusal
  | malformed (cause : Cause) (left : Nat)
  | tooManyDigits (digits : Nat)
  | tooDeep (container : Container)
deriving DecidableEq

def isBlank (c : Char) : Bool := c == ' ' || c == '\t' || c == '\r' || c == '\n'

def skipBlanks (s : List Char) : List Char := s.dropWhile isBlank

def nestingLimit : Nat := 990

def hexValue? (c : Char) : Option Nat :=
  if '0' ≤ c ∧ c ≤ '9' then some (c.toNat - 48)
  else if 'a' ≤ c ∧ c ≤ 'f' then some (c.toNat - 87)
  else if 'A' ≤ c ∧ c ≤ 'F' then some (c.toNat - 55)
  else none

def hex4? (a b c d : Char) : Option Nat := do
  return (((← hexValue? a) * 16 + (← hexValue? b)) * 16 + (← hexValue? c)) * 16 + (← hexValue? d)

def isHighSurrogate (n : Nat) : Bool := decide (0xD800 ≤ n) && decide (n < 0xDC00)

def isLowSurrogate (n : Nat) : Bool := decide (0xDC00 ≤ n) && decide (n < 0xE000)

structure StringState where
  out : List Point
  high : Option Nat

def StringState.settle (s : StringState) : List Point :=
  match s.high with
  | none => s.out
  | some h => .ofCode h :: s.out

def StringState.push (s : StringState) (c : Char) : StringState := ⟨.char c :: s.settle, none⟩

def StringState.pushUnit (s : StringState) (n : Nat) : StringState :=
  match s.high with
  | some h =>
    if isLowSurrogate n then ⟨.ofCode (0x10000 + (h - 0xD800) * 0x400 + (n - 0xDC00)) :: s.out, none⟩
    else if isHighSurrogate n then ⟨.ofCode h :: s.out, some n⟩
    else ⟨.ofCode n :: .ofCode h :: s.out, none⟩
  | none => if isHighSurrogate n then ⟨s.out, some n⟩ else ⟨.ofCode n :: s.out, none⟩

def escaped? (c : Char) : Option Char :=
  if c = '"' ∨ c = '\\' ∨ c = '/' then some c
  else if c = 'b' then some '\x08'
  else if c = 'f' then some '\x0c'
  else if c = 'n' then some '\n'
  else if c = 'r' then some '\r'
  else if c = 't' then some '\t'
  else none

/-- The rest of a string whose opening quote stood where `opened` characters were left. -/
def stringFrom (opened : Nat) (state : StringState) :
    List Char → Except Refusal (AnyText × List Char)
  | [] => .error (.malformed .unterminated opened)
  | '"' :: rest => .ok (.ofPoints state.settle.reverse, rest)
  | '\\' :: rest =>
    match rest with
    | [] => .error (.malformed .unterminated opened)
    | 'u' :: tail =>
      match tail with
      | a :: b :: c :: d :: tail' =>
        match hex4? a b c d with
        | some n =>
          if tail'.isEmpty then .error (.malformed .unicodeEscape rest.length)
          else stringFrom opened (state.pushUnit n) tail'
        | none => .error (.malformed .unicodeEscape rest.length)
      | _ => .error (.malformed .unicodeEscape rest.length)
    | e :: tail =>
      match escaped? e with
      | some c => stringFrom opened (state.push c) tail
      | none => .error (.malformed .escape (rest.length + 1))
  | c :: rest =>
    if c.toNat ≤ 0x1f then .error (.malformed .control (rest.length + 1))
    else stringFrom opened (state.push c) rest

def string (s : List Char) : Except Refusal (AnyText × List Char) :=
  stringFrom (s.length + 1) ⟨[], none⟩ s

def isDigit (c : Char) : Bool := decide ('0' ≤ c) && decide (c ≤ '9')

def wholePart? : List Char → Option (List Char × List Char)
  | '0' :: rest => some (['0'], rest)
  | c :: rest =>
    if isDigit c then some (c :: rest.takeWhile isDigit, rest.dropWhile isDigit) else none
  | [] => none

def fractionPart : List Char → List Char × List Char
  | '.' :: rest =>
    let ds := rest.takeWhile isDigit
    if ds.isEmpty then ([], '.' :: rest) else (ds, rest.dropWhile isDigit)
  | rest => ([], rest)

def exponentPart (s : List Char) : Option Int × List Char :=
  match s with
  | e :: rest =>
    if e = 'e' ∨ e = 'E' then
      let (negative, rest) := Numeral.sign rest
      let ds := rest.takeWhile isDigit
      let n : Int := Numeral.ofDigits (ds.filterMap Numeral.asciiDigit?)
      if ds.isEmpty then (none, s) else (some (if negative then -n else n), rest.dropWhile isDigit)
    else (none, s)
  | [] => (none, s)

def number (s : List Char) : Except Refusal (Json × List Char) :=
  let (negative, body) :=
    match s with
    | '-' :: rest => (true, rest)
    | rest => (false, rest)
  match wholePart? body with
  | none => .error (.malformed .value s.length)
  | some (whole, rest) =>
    let (fraction, rest) := fractionPart rest
    let (exponent, rest) := exponentPart rest
    let digits := Numeral.ofDigits ((whole ++ fraction).filterMap Numeral.asciiDigit?)
    if fraction.isEmpty ∧ exponent.isNone then
      if Numeral.digitLimit < whole.length then .error (.tooManyDigits whole.length)
      else .ok (.int (if negative then -(digits : Int) else digits), rest)
    else .ok (.float (.ofDecimal negative digits (exponent.getD 0 - fraction.length)), rest)

def wordValues : List (List Char × Json) :=
  [("null".toList, .null), ("true".toList, .bool true), ("false".toList, .bool false),
   ("NaN".toList, .float .nan), ("Infinity".toList, .float (.infinity false)),
   ("-Infinity".toList, .float (.infinity true))]

def word? (s : List Char) : Option (Json × List Char) :=
  wordValues.findSome? fun (w, v) => if w.isPrefixOf s then some (v, s.drop w.length) else none

def scalar (s : List Char) : Except Refusal (Json × List Char) :=
  match s with
  | '"' :: rest => (string rest).map fun (t, left) => (.str t, left)
  | _ =>
    match word? s with
    | some r => .ok r
    | none => number s

mutual

/-- A value at the front of the text. `steps` bounds the calls and `levels` the nesting that is left. -/
def value (steps levels : Nat) (s : List Char) : Except Refusal (Json × List Char) :=
  match steps with
  | 0 => .error (.malformed .value s.length)
  | steps + 1 =>
    match s with
    | '[' :: rest =>
      match levels with
      | 0 => .error (.tooDeep .array)
      | levels + 1 =>
        match skipBlanks rest with
        | ']' :: left => .ok (.arr [], left)
        | first => items steps levels [] first
    | '\x7b' :: rest =>
      match levels with
      | 0 => .error (.tooDeep .object)
      | levels + 1 =>
        match skipBlanks rest with
        | '\x7d' :: left => .ok (.obj [], left)
        | first => members steps levels [] first
    | s => scalar s

def items (steps levels : Nat) (out : List Json) (s : List Char) :
    Except Refusal (Json × List Char) :=
  match steps with
  | 0 => .error (.malformed .value s.length)
  | steps + 1 =>
    match value steps levels s with
    | .error e => .error e
    | .ok (v, left) =>
      match skipBlanks left with
      | ']' :: left => .ok (.arr (v :: out).reverse, left)
      | ',' :: left => items steps levels (v :: out) (skipBlanks left)
      | left => .error (.malformed .comma left.length)

def members (steps levels : Nat) (out : Members) (s : List Char) :
    Except Refusal (Json × List Char) :=
  match steps with
  | 0 => .error (.malformed .value s.length)
  | steps + 1 =>
    match s with
    | '"' :: rest =>
      match string rest with
      | .error e => .error e
      | .ok (name, left) =>
        match skipBlanks left with
        | ':' :: left =>
          match value steps levels (skipBlanks left) with
          | .error e => .error e
          | .ok (v, left) =>
            let out := out.put name v
            match skipBlanks left with
            | '\x7d' :: left => .ok (.obj out, left)
            | ',' :: left => members steps levels out (skipBlanks left)
            | left => .error (.malformed .comma left.length)
        | left => .error (.malformed .colon left.length)
    | s => .error (.malformed .name s.length)

end

def document (s : List Char) : Except Refusal Json :=
  match value (2 * s.length + 2) nestingLimit (skipBlanks s) with
  | .error e => .error e
  | .ok (v, left) =>
    match skipBlanks left with
    | [] => .ok v
    | left => .error (.malformed .extra left.length)

structure Position where
  line : Nat
  column : Nat
  offset : Nat
deriving DecidableEq

/-- Lines and columns count from one, offsets from zero. -/
def Position.after (before : List Char) : Position :=
  ⟨before.count '\n' + 1, (before.reverse.takeWhile (· != '\n')).length + 1, before.length⟩

inductive DecodeError
  | malformed (cause : Cause) (position : Position)
  | tooManyDigits (digits : Nat)
  | tooDeep (container : Container)
deriving DecidableEq

def Refusal.place (s : List Char) : Refusal → DecodeError
  | .malformed cause left => .malformed cause (.after (s.take (s.length - left)))
  | .tooManyDigits n => .tooManyDigits n
  | .tooDeep c => .tooDeep c

def decode (text : String) : Except DecodeError Json :=
  let s := text.toList
  if s.head? = some (Char.ofNat 0xFEFF) then .error (.malformed .byteOrderMark (.after []))
  else
    match document s with
    | .ok v => .ok v
    | .error e => .error (e.place s)

def tooManyDigitsMessage (n : Nat) : String :=
  s!"Exceeds the limit ({Numeral.digitLimit} digits) for integer string conversion: value has {n} "
    ++ "digits; use sys.set_int_max_str_digits() to increase the limit"

def Container.name : Container → String
  | .array => "array"
  | .object => "object"

def DecodeError.message : DecodeError → String
  | .malformed cause p => s!"{cause.message}: line {p.line} column {p.column} (char {p.offset})"
  | .tooManyDigits n => tooManyDigitsMessage n
  | .tooDeep c =>
    s!"maximum recursion depth exceeded while decoding a JSON {c.name} from a unicode string"

end ClusterHealth.Json
