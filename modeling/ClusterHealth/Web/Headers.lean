import ClusterHealth.Fault
import ClusterHealth.Text.Basic
import ClusterHealth.Text.Utf8

namespace ClusterHealth.Web

open ClusterHealth.Text

abbrev Headers := List (String × String)

def asciiLower (s : String) : String := String.ofList (s.toList.map Char.toLower)

def characterCode (c : Char) : String :=
  let n := c.toNat
  if n < 0x100 then "\\x" ++ String.ofList (hexDigits 2 n)
  else if n < 0x10000 then "\\u" ++ String.ofList (hexDigits 4 n)
  else "\\U" ++ String.ofList (hexDigits 8 n)

/-- A header holds ASCII alone; the fault names the first run of other characters. -/
def checkAscii (s : String) : Except Fault Unit :=
  let before := s.toList.takeWhile (·.toNat < 0x80)
  let run := (s.toList.drop before.length).takeWhile fun c => !decide (c.toNat < 0x80)
  let first := before.length
  match run with
  | [] => .ok ()
  | [c] => .error ⟨.unencodable, "'ascii' codec can't encode character '" ++ characterCode c ++
      s!"' in position {first}: ordinal not in range(128)"⟩
  | _ => .error ⟨.unencodable, "'ascii' codec can't encode characters in position " ++
      s!"{first}-{first + run.length - 1}: ordinal not in range(128)"⟩

inductive Coding
  | gzip
  | deflate
deriving DecidableEq

namespace Headers

def values (name : String) (hs : Headers) : List String :=
  (hs.filter fun h => asciiLower h.1 == name).map (·.2)

def get? (name : String) (hs : Headers) : Option String :=
  match values name hs with
  | [] => none
  | vs => some (", ".intercalate vs)

def parametersFrom (inQuotes : Bool) (parameter : List Char) : List Char → List String
  | [] => [String.ofList parameter.reverse]
  | '"' :: rest => parametersFrom (!inQuotes) ('"' :: parameter) rest
  | ';' :: rest =>
    if inQuotes then parametersFrom inQuotes (';' :: parameter) rest
    else String.ofList parameter.reverse :: parametersFrom false [] rest
  | c :: rest => parametersFrom inQuotes (c :: parameter) rest

def withoutQuotes (s : String) : String :=
  match s.toList with
  | '"' :: rest => if 1 ≤ rest.length ∧ rest.getLast? = some '"' then String.ofList rest.dropLast else s
  | _ => s

def parameter? (name value : String) : Option String :=
  (parametersFrom false [] value.toList).findSome? fun p =>
    match splitAtFirst? '=' p with
    | some (n, v) => if asciiLower (strip n) = name then some (withoutQuotes (strip v)) else none
    | none => none

/-- A charset as it is looked up: in lower case, with one underscore for each run of other characters
between letters and digits. -/
def codecName (s : String) : String :=
  let step (read : List Char × Bool) (c : Char) : List Char × Bool :=
    let (out, gap) := read
    if c.isAlphanum || c == '.' then
      (c.toLower :: (if gap && !out.isEmpty then '_' :: out else out), false)
    else (out, true)
  String.ofList (s.toList.foldl step ([], false)).1.reverse

def charsetNames : List (String × Charset) :=
  (["utf_8", "utf8", "u8", "utf", "utf8_ucs2", "utf8_ucs4", "cp65001"].map fun s => (s, .utf8)) ++
  (["latin_1", "latin1", "latin", "l1", "iso_8859_1", "iso8859_1", "iso8859", "8859",
    "iso_8859_1_1987", "iso_ir_100", "cp819", "ibm819", "csisolatin1"].map fun s => (s, .latin1)) ++
  (["ascii", "us_ascii", "us", "646", "iso646_us", "iso_646.irv_1991", "iso_ir_6", "cp367", "ibm367",
    "csascii", "ansi_x3.4_1968", "ansi_x3_4_1968", "ansi_x3.4_1986"].map fun s => (s, .ascii))

/-- The name of the charset that the fields give. One that is not ASCII is none. -/
def charsetName? (hs : Headers) : Option String := do
  let name ← parameter? "charset" (← get? "content-type" hs)
  if name.toList.all (·.toNat < 0x80) then return codecName name else none

/-- The codings that the body was given, in order; others than these are passed over. -/
def codings (hs : Headers) : List Coding :=
  ((values "content-encoding" hs).flatMap (pieces ',')).filterMap fun v =>
    [("gzip", Coding.gzip), ("deflate", Coding.deflate)].lookup (asciiLower (strip v))

end Headers

end ClusterHealth.Web
