import ClusterHealth.Web.Headers
import ClusterHealth.Web.Url

namespace ClusterHealth.Web

open ClusterHealth.Text

structure Reference where
  scheme : String
  netloc : String
  path : String
  params : String
  query : String
  fragment : String

namespace Reference

def relativeSchemes : List String :=
  ["", "ftp", "http", "gopher", "nntp", "imap", "wais", "file", "https", "shttp", "mms", "prospero",
    "rtsp", "rtsps", "rtspu", "sftp", "svn", "svn+ssh", "ws", "wss"]

def netlocSchemes : List String :=
  ["", "ftp", "http", "gopher", "nntp", "telnet", "imap", "wais", "file", "mms", "https", "shttp",
    "snews", "prospero", "rtsp", "rtsps", "rtspu", "rsync", "svn", "svn+ssh", "sftp", "nfs", "git",
    "git+ssh", "ws", "wss"]

def paramsSchemes : List String :=
  ["", "ftp", "hdl", "prospero", "http", "imap", "https", "shttp", "rtsp", "rtsps", "rtspu", "sip",
    "sips", "mms", "sftp", "tel"]

/-- Brackets hold an address of the newer kind, and no character of the host stands for one that would
end it. -/
def checkNetloc (names : HostNames) (netloc : String) : Except Fault Unit :=
  let cs := netloc.toList
  let host := String.ofList (((cs.dropWhile (· != '[')).drop 1).takeWhile (· != ']'))
  let plain := String.ofList (cs.filter (!"@:#?".toList.contains ·))
  let folded := names.compatible plain
  if cs.contains '[' != cs.contains ']' then .error ⟨.value, "Invalid IPv6 URL"⟩
  else if cs.contains '[' && !Url.isIpv6 host then
    .error ⟨.value, quoted host ++ " does not appear to be an IPv4 or IPv6 address"⟩
  else if !cs.all (·.toNat < 0x80) && folded != plain &&
      folded.toList.any ("/?#@:".toList.contains ·) then
    .error ⟨.value, "netloc '" ++ netloc ++
      "' contains invalid characters under NFKC normalization"⟩
  else .ok ()

def splitParams (path : List Char) : List Char × List Char :=
  let last := (path.reverse.takeWhile (· != '/')).reverse
  let (last, params) := Url.splitOptional ';' last
  ((path.reverse.dropWhile (· != '/')).reverse ++ last, params.getD [])

def ofText (names : HostNames) (scheme s : String) : Except Fault Reference := do
  let (front, rest) := Url.splitScheme s.toList
  let (scheme, rest) :=
    if front.isEmpty then (scheme, s.toList) else (asciiLower (String.ofList front), rest)
  let (netloc, rest) := Url.cutAuthority rest
  checkNetloc names (String.ofList netloc)
  let (rest, fragment) := Url.splitOptional '#' rest
  let (path, query) := Url.splitOptional '?' rest
  let (path, params) := if paramsSchemes.contains scheme then splitParams path else (path, [])
  return ⟨scheme, String.ofList netloc, String.ofList path, String.ofList params,
    String.ofList (query.getD []), String.ofList (fragment.getD [])⟩

def render (r : Reference) : String :=
  let path := if r.params = "" then r.path else r.path ++ ";" ++ r.params
  let hasNetloc := r.netloc != "" || (r.scheme != "" && netlocSchemes.contains r.scheme) ||
    startsWith "//" path
  (if r.scheme = "" then "" else r.scheme ++ ":") ++
  (if hasNetloc then "//" ++ r.netloc else "") ++
  (if hasNetloc && path != "" && !startsWith "/" path then "/" ++ path else path) ++
  (if r.query = "" then "" else "?" ++ r.query) ++
  (if r.fragment = "" then "" else "#" ++ r.fragment)

def joinPath (base path : String) : String :=
  let steps := pieces '/' base
  let directory := if steps.getLast? = some "" then steps else steps.dropLast
  let whole := directory ++ pieces '/' path
  let segments :=
    if startsWith "/" path then pieces '/' path
    else whole.take 1 ++ ((whole.drop 1).dropLast.filter (· ≠ "")) ++ (whole.drop 1).getLast?.toList
  let kept := segments.foldl (fun out s =>
    if s = ".." then out.dropLast else if s = "." then out else out ++ [s]) []
  let closed := if segments.getLast? = some "." ∨ segments.getLast? = some ".." then kept ++ [""] else kept
  let joined := "/".intercalate closed
  if joined = "" then "/" else joined

def join (names : HostNames) (base reference : String) : Except Fault String := do
  if base = "" then return reference
  if reference = "" then return base
  let b ← ofText names "" base
  let r ← ofText names b.scheme reference
  if r.scheme ≠ b.scheme ∨ !relativeSchemes.contains r.scheme then return reference
  let isNetloc := netlocSchemes.contains r.scheme
  if isNetloc && r.netloc != "" then return r.render
  let netloc := if isNetloc then b.netloc else r.netloc
  if r.path = "" ∧ r.params = "" then
    let query := if r.query = "" then b.query else r.query
    return { r with netloc := netloc, path := b.path, params := b.params, query := query }.render
  return { r with netloc := netloc, path := joinPath b.path r.path }.render

end Reference

namespace Url

def portOrDefault (u : Url) : Option Int :=
  u.port.orElse fun _ => [("http", 80), ("https", 443)].lookup u.scheme

/-- Hosts are told apart as they are written outside ASCII, where writing them so may fail. -/
def isSameOrigin (names : HostNames) (u other : Url) : Except Fault Bool := do
  if u.scheme ≠ other.scheme then return false
  let host ← u.hostName names
  return host == (← other.hostName names) && u.portOrDefault == other.portOrDefault

/-- The request that would follow a redirection names its host, unless it is the same one. -/
def checkFollowing (names : HostNames) (request next : Url) : Except Fault Unit := do
  if ← next.isSameOrigin names request then return
  let _ ← request.hostName names
  let _ ← next.hostName names
  checkAscii next.netloc

section Following

variable (names : HostNames) (request : Url)

def withHostOf (u : Url) : Except Fault Url := do
  if u.scheme = "" then return u
  if (← u.hostName names) ≠ "" then return u
  -- a place such as `mailto:foo` gets the host of the request, before a path that cannot follow one
  let host ← request.hostName names
  (u.remade names (some (hostText host)) u.path u.query u.fragment).mapError urlFault

def joinedTo (u : Url) : Except Fault Url := do
  if !u.isRelative then return u
  (parse names (← Reference.join names request.render u.render)).mapError urlFault

def withFragmentOf (u : Url) : Except Fault Url :=
  let fragment := percentDecode (request.fragment.getD "")
  if fragment = "" ∨ percentDecode (u.fragment.getD "") ≠ "" then .ok u
  else (u.remade names none u.path u.query (some fragment)).mapError urlFault

def redirected (place : String) : Except Fault Url := do
  let u ← (parse names place).mapError fun e =>
    ⟨.remoteProtocol, s!"Invalid URL in location header: {e.message}."⟩
  withFragmentOf names request (← joinedTo names request (← withHostOf names request u))

end Following

end Url

end ClusterHealth.Web
