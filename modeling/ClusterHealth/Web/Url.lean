import ClusterHealth.Fault
import ClusterHealth.Number.Numeral
import ClusterHealth.Text.LetterCase
import ClusterHealth.Web.Percent

namespace ClusterHealth.Web

open ClusterHealth.Text

inductive UrlError
  | tooLong
  | componentTooLong (name : String)
  | control (component : Option String) (c : Char) (position : Nat)
  | ipv4 (host : String)
  | ipv6 (host : String)
  | hostname (host : String)
  | port (text : String)
  | relativeAfterAuthority
  | doubleSlash
  | leadingColon
deriving DecidableEq

def UrlError.message : UrlError → String
  | .tooLong => "URL too long"
  | .componentTooLong name => s!"URL component '{name}' too long"
  | .control none c i =>
    s!"Invalid non-printable ASCII character in URL, {quoted c.toString} at position {i}."
  | .control (some name) c i =>
    s!"Invalid non-printable ASCII character in URL {name} component, {quoted c.toString} " ++
      s!"at position {i}."
  | .ipv4 host => s!"Invalid IPv4 address: {quoted host}"
  | .ipv6 host => s!"Invalid IPv6 address: {quoted host}"
  | .hostname host => s!"Invalid IDNA hostname: {quoted host}"
  | .port text => s!"Invalid port: {quoted text}"
  | .relativeAfterAuthority => "For absolute URLs, path must be empty or begin with '/'"
  | .doubleSlash => "Relative URLs cannot have a path starting with '//'"
  | .leadingColon => "Relative URLs cannot have a path starting with ':'"

def isAsciiHostChar (c : Char) : Bool := c.isLower || c.isDigit || c == '-' || c == '.'

structure AsciiHost where
  text : String
  ne : text ≠ ""
  ascii : ∀ c ∈ text.toList, isAsciiHostChar c

/-- How names of hosts beyond ASCII are written in it, if they can be, what is made of one that was written
so, and the form of a text in which its characters stand for those that they are compatible with. -/
structure HostNames where
  toAscii : String → Option AsciiHost
  ofAscii : String → Except Fault String
  compatible : String → String

def HostNames.plain : HostNames := ⟨fun _ => none, .ok, id⟩

def urlFault (e : UrlError) : Fault := ⟨.invalidUrl, e.message⟩

structure Url where
  scheme : String
  userinfo : String
  host : String
  port : Option Int
  path : String
  query : Option String
  fragment : Option String
deriving DecidableEq

namespace Url

def lengthLimit : Nat := 65536

def isControl (c : Char) : Bool := decide (c.toNat < 0x20) || decide (c.toNat = 0x7f)

def checkControls (component : Option String) (s : String) : Except UrlError Unit :=
  match s.toList.find? isControl with
  | some c => .error (.control component c (s.toList.takeWhile (!isControl ·)).length)
  | none => .ok ()

def checkComponent (name s : String) : Except UrlError Unit := do
  if lengthLimit < s.length then throw (.componentTooLong name)
  checkControls (some name) s

def inPath : Char → Bool := admittedExcept " \"#<>?`\x7b\x7d"

def inQuery : Char → Bool := admittedExcept " \"#<>"

def inFragment : Char → Bool := admittedExcept " \"<>`"

def inUserinfo : Char → Bool := admittedExcept " \"#<>?`\x7b\x7d/:;=@[\\]^|"

def inHost (c : Char) : Bool := isUnreserved c || "!$&'()*+,;=\"`\x7b\x7d%|\\".toList.contains c

/-- Where a match of four runs of digits with one character between them may stand: an even place
awaits a digit and an odd one has seen it. -/
def quadPlaces (places : List Nat) (c : Char) : List Nat :=
  places.flatMap fun n =>
    let digit := c.isDigit
    if n % 2 = 0 then (if digit then [n + 1] else [])
    else (if digit then [n] else []) ++ (if n < 7 then [n + 1] else [])

def looksLikeIpv4 (host : String) : Bool := (host.toList.foldl quadPlaces [0]).contains 7

def isIpv4Part (s : String) : Bool :=
  let cs := s.toList
  !cs.isEmpty && cs.all Char.isDigit && decide (cs.length ≤ 3) &&
    (decide (cs.length = 1) || cs.head? != some '0') &&
    decide (Numeral.ofDigits (cs.filterMap Numeral.asciiDigit?) ≤ 255)

def isIpv4 (host : String) : Bool :=
  let parts := pieces '.' host
  decide (parts.length = 4) && parts.all isIpv4Part

def isHexGroup (s : String) : Bool :=
  let cs := s.toList
  !cs.isEmpty && decide (cs.length ≤ 4) && cs.all fun c => (Json.hexValue? c).isSome

/-- How many of the eight groups a part takes; the last part may be an address of the older kind. -/
def groupCount? (parts : List String) : Option Nat :=
  match parts.reverse with
  | [] => some 0
  | last :: before =>
    if !before.all isHexGroup then none
    else if isHexGroup last then some (before.length + 1)
    else if isIpv4 last then some (before.length + 2)
    else none

def splitAtGap (before : List Char) : List Char → Option (List Char × List Char)
  | ':' :: ':' :: rest => some (before.reverse, rest)
  | c :: rest => splitAtGap (c :: before) rest
  | [] => none

def partsOf (cs : List Char) : List String :=
  if cs.isEmpty then [] else pieces ':' (String.ofList cs)

def isZone : List Char → Bool
  | [] => true
  | _ :: zone => !zone.isEmpty && !zone.contains '%'

def isIpv6Address (address : List Char) : Bool :=
  match splitAtGap [] address with
  | none => groupCount? (partsOf address) == some 8
  | some (before, after) =>
    match groupCount? (partsOf before), groupCount? (partsOf after) with
    | some m, some n => (partsOf before).all isHexGroup && decide (m + n ≤ 7)
    | _, _ => false

def isIpv6 (s : String) : Bool :=
  isZone (s.toList.dropWhile (· != '%')) && isIpv6Address (s.toList.takeWhile (· != '%'))

def isBracketed (s : String) : Bool :=
  decide (2 ≤ s.length) && s.toList.head? == some '[' && s.toList.getLast? == some ']'

section Making

variable (names : HostNames)

def encodeHost (host : String) : Except UrlError String :=
  if host = "" then .ok ""
  else if looksLikeIpv4 host then
    if isIpv4 host then .ok host else .error (.ipv4 host)
  else if isBracketed host then
    let address := String.ofList (host.toList.drop 1).dropLast
    if isIpv6 address then .ok address else .error (.ipv6 host)
  else if host.toList.all (·.toNat < 0x80) then
    .ok (percentEncode inHost (String.ofList (host.toList.map Char.toLower)))
  else
    match names.toAscii (lower host) with
    | some ascii => .ok ascii.text
    | none => .error (.hostname host)

def defaultPort? (scheme : String) : Option Int :=
  [("ftp", 21), ("http", 80), ("https", 443), ("ws", 80), ("wss", 443)].lookup scheme

def normalizePort (text scheme : String) : Except UrlError (Option Int) :=
  if text = "" then .ok none
  else
    match Numeral.int text with
    | .ok n => .ok (if some n = defaultPort? scheme then none else some n)
    | .error _ => .error (.port text)

def normalizePath (path : String) : String :=
  let parts := pieces '/' path
  if parts.contains "." || parts.contains ".." then
    let kept := parts.foldl (fun out part =>
      if part = "." then out
      else if part = ".." then (if out.isEmpty ∨ out = [""] then out else out.dropLast)
      else out ++ [part]) []
    "/".intercalate kept
  else path

def checkPath (path : String) (hasScheme hasAuthority : Bool) : Except UrlError Unit := do
  if hasAuthority && path != "" && path.toList.head? != some '/' then throw .relativeAfterAuthority
  if !hasScheme && !hasAuthority then
    if startsWith "//" path then throw .doubleSlash
    if startsWith ":" path then throw .leadingColon

def splitAuthority (s : String) : String × String × String :=
  let cs := s.toList
  let userinfo := (cs.reverse.dropWhile (· != '@')).drop 1 |>.reverse
  let rest := (cs.reverse.takeWhile (· != '@')).reverse
  let host :=
    if rest.head? = some '[' ∧ rest.contains ']' then (rest.reverse.dropWhile (· != ']')).reverse
    else rest.takeWhile (· != ':')
  let after := rest.drop host.length
  let port := if after.head? = some ':' then after.drop 1 else after
  (String.ofList userinfo, String.ofList host, String.ofList port)

/-- An address from its parts, each checked and put into its normal form. Another host may stand for that
of the authority. -/
def ofParts (scheme authority : String) (other : Option String) (path : String)
    (query fragment : Option String) : Except UrlError Url := do
  let (userinfo, host, port) := splitAuthority authority
  let host ← encodeHost names (other.getD host)
  let port ← normalizePort port scheme
  let hasScheme := scheme != ""
  let hasAuthority := userinfo != "" || host != "" || port.isSome
  checkPath path hasScheme hasAuthority
  let path := if hasScheme || hasAuthority then normalizePath path else path
  return {
    scheme := String.ofList (scheme.toList.map Char.toLower)
    userinfo := percentEncode inUserinfo userinfo
    host := host
    port := port
    path := percentEncode inPath path
    query := query.map (percentEncode inQuery)
    fragment := fragment.map (percentEncode inFragment) }

def isSchemeChar (c : Char) : Bool := c.isAlphanum || c == '+' || c == '.' || c == '-'

def splitScheme (cs : List Char) : List Char × List Char :=
  let front := cs.takeWhile isSchemeChar
  match cs.dropWhile isSchemeChar with
  | ':' :: rest => if front.isEmpty ∨ front.head?.any Char.isAlpha then (front, rest) else ([], cs)
  | _ => ([], cs)

def splitOptional (sep : Char) (cs : List Char) : List Char × Option (List Char) :=
  match cs.dropWhile (· != sep) with
  | [] => (cs, none)
  | _ :: rest => (cs.takeWhile (· != sep), some rest)

def endsAuthority (c : Char) : Bool := c == '/' || c == '?' || c == '#'

def cutAuthority : List Char → List Char × List Char
  | '/' :: '/' :: rest => (rest.takeWhile (!endsAuthority ·), rest.dropWhile (!endsAuthority ·))
  | rest => ([], rest)

def parse (s : String) : Except UrlError Url := do
  if lengthLimit < s.length then throw .tooLong
  checkControls none s
  let (scheme, rest) := splitScheme s.toList
  let (authority, rest) := cutAuthority rest
  let (rest, fragment) := splitOptional '#' rest
  let (path, query) := splitOptional '?' rest
  ofParts names (String.ofList scheme) (String.ofList authority) none (String.ofList path)
    (query.map String.ofList) (fragment.map String.ofList)

def hostText (host : String) : String := if host.toList.contains ':' then "[" ++ host ++ "]" else host

def netloc (u : Url) : String :=
  hostText u.host ++ (match u.port with | some n => s!":{n}" | none => "")

def authority (u : Url) : String := (if u.userinfo = "" then "" else u.userinfo ++ "@") ++ u.netloc

def target (u : Url) : String :=
  (if u.path = "" then "/" else u.path) ++
    (match u.query with | some q => "?" ++ q | none => "")

def render (u : Url) : String :=
  (if u.scheme = "" then "" else u.scheme ++ ":") ++
  (if u.authority = "" then "" else "//" ++ u.authority) ++ u.path ++
  (match u.query with | some q => "?" ++ q | none => "") ++
  (match u.fragment with | some f => "#" ++ f | none => "")

/-- An address made again with other parts. All of them are checked as they are written. -/
def remade (u : Url) (host : Option String) (path : String) (query fragment : Option String) :
    Except UrlError Url := do
  checkComponent "scheme" u.scheme
  checkComponent "authority" u.authority
  checkComponent "path" path
  (query.map (checkComponent "query")).getD (.ok ())
  (fragment.map (checkComponent "fragment")).getD (.ok ())
  (host.map (checkComponent "host")).getD (.ok ())
  ofParts names u.scheme u.authority host path query fragment

def withTarget (u : Url) (target : String) : Except UrlError Url :=
  let (path, query) := splitOptional '?' target.toList
  remade names u none (String.ofList path) (query.map String.ofList) u.fragment

def isRelative (u : Url) : Bool := u.scheme == "" || u.host == ""

def base (s : String) : Except UrlError Url := do
  let u ← parse names s
  if u.target.toList.getLast? = some '/' then return u else u.withTarget names (u.target ++ "/")

/-- A relative reference is appended to the server's own path. -/
def resolve (server : Url) (reference : String) : Except UrlError Url := do
  let r ← parse names reference
  if r.isRelative then server.withTarget names (server.target ++ stripLeftChar '/' r.target) else return r

def hostName (u : Url) : Except Fault String :=
  if startsWith "xn--" u.host then names.ofAscii u.host else .ok u.host

end Making

def withQuery (u : Url) (params : List (String × String)) : Except UrlError Url := do
  if params.isEmpty then return { u with query := none }
  let form := formOf params
  checkComponent "query" form
  return { u with query := some form }

end Url

end ClusterHealth.Web
