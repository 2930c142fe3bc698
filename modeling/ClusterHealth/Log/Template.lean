import ClusterHealth.Json.Display
import ClusterHealth.Number.Places

namespace ClusterHealth.Template

open ClusterHealth.Text

inductive Size
  | none
  | number (n : Nat)
  | fromValues
deriving DecidableEq

structure Place where
  name : Option (List Char)
  flags : List Char
  width : Size
  precision : Size
  conversion : Char

inductive Part
  | char (c : Char)
  | place (p : Place)

inductive Stage
  | start
  | name (depth : Nat)
  | flags
  | width
  | point
  | precision
  | size

inductive Step
  | more (p : Place) (s : Stage)
  | done (p : Place)
  | malformed

def Size.push : Size → Char → Option Size
  | .none, '*' => some .fromValues
  | .none, c => if c.isDigit then some (.number (c.toNat - 48)) else Option.none
  | .number n, c => if c.isDigit then some (.number (n * 10 + (c.toNat - 48))) else Option.none
  | .fromValues, _ => Option.none

namespace Place

def empty : Place := ⟨none, [], .none, .none, 's'⟩

def conversions : List Char := "diuoxXeEfFgGcrsa".toList

def finish (p : Place) (c : Char) : Step :=
  if conversions.contains c then .done { p with conversion := c } else .malformed

def stepSize (p : Place) (c : Char) : Step :=
  if ['h', 'l', 'L'].contains c then .more p .size else p.finish c

def stepPrecision (p : Place) (c : Char) : Step :=
  match p.precision.push c with
  | some s => .more { p with precision := s } .precision
  | none => stepSize p c

/-- A point alone asks for a precision of zero. -/
def stepPoint (p : Place) (c : Char) : Step :=
  if c = '*' then .more { p with precision := .fromValues } .precision else stepPrecision p c

def stepWidth (p : Place) (c : Char) : Step :=
  match p.width.push c with
  | some s => .more { p with width := s } .width
  | none => if c = '.' then .more { p with precision := .number 0 } .point else stepSize p c

def stepFlags (p : Place) (c : Char) : Step :=
  if ['#', '0', '-', ' ', '+'].contains c then .more { p with flags := c :: p.flags } .flags
  else stepWidth p c

def stepName (p : Place) (depth : Nat) (c : Char) : Step :=
  if c = ')' ∧ depth = 0 then .more p .flags
  else
    let depth := if c = '(' then depth + 1 else if c = ')' then depth - 1 else depth
    .more { p with name := some (p.name.getD [] ++ [c]) } (.name depth)

def step (p : Place) (s : Stage) (c : Char) : Step :=
  match s with
  | .start =>
    if c = '%' then .done { p with conversion := c }
    else if c = '(' then .more { p with name := some [] } (.name 0)
    else stepFlags p c
  | .name depth => stepName p depth c
  | .flags => stepFlags p c
  | .width => stepWidth p c
  | .point => stepPoint p c
  | .precision => stepPrecision p c
  | .size => p.finish c

end Place

def parts (reading : Option (Place × Stage)) : List Char → Option (List Part)
  | [] => if reading.isNone then some [] else none
  | c :: rest =>
    match reading with
    | none =>
      if c = '%' then parts (some (.empty, .start)) rest
      else (parts none rest).map (.char c :: ·)
    | some (p, s) =>
      match p.step s c with
      | .more p s => parts (some (p, s)) rest
      | .done p => (parts none rest).map (.place p :: ·)
      | .malformed => none

structure Layout where
  alternate : Bool
  zeros : Bool
  left : Bool
  sign : Option Char
  width : Nat
  precision : Option Nat

namespace Layout

def pad (l : Layout) (blank : α) (xs : List α) : List α :=
  let fill := List.replicate (l.width - xs.length) blank
  if l.left then xs ++ fill else fill ++ xs

def padNumber (l : Layout) (negative : Bool) (mark digits : List Char) : List Char :=
  let start := (if negative then ['-'] else l.sign.toList) ++ mark
  if l.zeros && !l.left then
    start ++ List.replicate (l.width - start.length - digits.length) '0' ++ digits
  else l.pad ' ' (start ++ digits)

def text (l : Layout) (t : AnyText) : List Point :=
  l.pad (.char ' ') (match l.precision with
    | some n => t.points.take n
    | none => t.points)

def whole (l : Layout) (base : Nat) (mark : List Char) (n : Int) : List Char :=
  let digits := Decimal.padLeft (l.precision.getD 1) (Nat.toDigits base n.natAbs)
  l.padNumber (decide (n < 0)) (if l.alternate then mark else []) digits

def decimal (l : Layout) (conversion : Char) (x : Binary64) : List Char :=
  let precision := l.precision.getD 6
  match x.toRatio? with
  | none => l.padNumber x.isNegative [] (if x.isNaN then "nan" else "inf").toList
  | some (n, d) =>
    let write := match conversion with
      | 'f' => Decimal.fixedText precision
      | 'e' => Decimal.scientificText precision
      | _ => Decimal.generalText precision
    l.padNumber x.isNegative [] (write l.alternate n.natAbs d)

end Layout

def wholeValue? : Json → Option Int
  | .int n => some n
  | .bool b => some (if b then 1 else 0)
  | _ => none

def truncatedValue? : Json → Option Int
  | .float x => x.truncate?
  | v => wholeValue? v

def decimalValue? : Json → Option Binary64
  | .float x => some x
  | v => (wholeValue? v).bind fun n =>
    let x := Binary64.ofInt n
    if x.isFinite then some x else none

def charValue? : Json → Option Point
  | .str t => match t.points with
    | [p] => some p
    | _ => none
  | v => (wholeValue? v).bind fun n =>
    if 0 ≤ n ∧ n < 0x110000 then some (.ofCode n.toNat) else none

def write? (l : Layout) (conversion : Char) (v : Json) : Option (List Point) :=
  let chars (cs : Option (List Char)) : Option (List Point) := cs.map (·.map .char)
  match conversion with
  | 's' => some (l.text v.display)
  | 'r' => some (l.text v.quotedDisplay)
  | 'a' => some (l.text (asciiOnly v.quotedDisplay))
  | 'c' => (charValue? v).map fun p => l.pad (.char ' ') [p]
  | 'd' | 'i' | 'u' => chars <| (truncatedValue? v).map ({ l with alternate := false }.whole 10 [])
  | 'x' => chars <| (wholeValue? v).map (l.whole 16 ['0', 'x'])
  | 'X' => chars <| (wholeValue? v).map fun n => (l.whole 16 ['0', 'x'] n).map Char.toUpper
  | 'o' => chars <| (wholeValue? v).map (l.whole 8 ['0', 'o'])
  | 'e' | 'f' | 'g' => chars <| (decimalValue? v).map (l.decimal conversion)
  | 'E' | 'F' | 'G' =>
    chars <| (decimalValue? v).map fun x => (l.decimal conversion.toLower x).map Char.toUpper
  | _ => none
where
  asciiOnly (s : String) : String :=
    String.ofList (s.toList.flatMap fun c =>
      if c.toNat < 0x80 then [c]
      else if c.toNat < 0x100 then '\\' :: 'x' :: hexDigits 2 c.toNat
      else if c.toNat < 0x10000 then '\\' :: 'u' :: hexDigits 4 c.toNat
      else '\\' :: 'U' :: hexDigits 8 c.toNat)

def sizeLimit : Nat := 2147483648

/-- A size and the values left after it. A negative width aligns to the left. -/
def takeSize (s : Size) (values : List Json) : Option (Option Int × List Json) :=
  match s with
  | .none => some (none, values)
  | .number n => if n < sizeLimit then some (some n, values) else none
  | .fromValues =>
    match values with
    | v :: rest => (wholeValue? v).bind fun n =>
      if n.natAbs < sizeLimit then some (some n, rest) else none
    | [] => none

def layout (p : Place) (width precision : Option Int) : Layout where
  alternate := p.flags.contains '#'
  zeros := p.flags.contains '0'
  left := p.flags.contains '-' || decide (width.getD 0 < 0)
  sign := if p.flags.contains '+' then some '+' else if p.flags.contains ' ' then some ' ' else none
  width := (width.getD 0).natAbs
  precision := precision.map Int.toNat

def fillPlace (mapping : Option Members) (p : Place) (values : List Json) :
    Option (List Point × List Json) := do
  let named ← match p.name with
    | none => some none
    | some name => (mapping.bind (·.get? (String.ofList name))).map some
  let (width, values) ← takeSize p.width values
  let (precision, values) ← takeSize p.precision values
  let l := layout p width precision
  if p.conversion = '%' then return ([.char '%'], values)
  match named, values with
  | some v, values => return (← write? l p.conversion v, values)
  | none, v :: values => return (← write? l p.conversion v, values)
  | none, [] => none

/-- All values of a list have to be used, while those of a mapping need not be. -/
def fillParts (mapping : Option Members) (values : List Json) : List Part → Option (List Point)
  | [] => if values.isEmpty || mapping.isSome then some [] else none
  | .char c :: rest => (fillParts mapping values rest).map (.char c :: ·)
  | .place p :: rest => do
    let (cs, values) ← fillPlace mapping p values
    return cs ++ (← fillParts mapping values rest)

def mapping? : List Json → Option Members
  | [.obj (m :: ms)] => some (m :: ms)
  | _ => none

/-- The message; without values the template is the message, and `none` stands for values that do not
suit the template. -/
def fill (template : String) (values : List Json) : Option AnyText :=
  if values.isEmpty then some template
  else do
    let parts ← parts none template.toList
    return .ofPoints (← fillParts (mapping? values) values parts)

end ClusterHealth.Template
