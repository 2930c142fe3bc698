import ClusterHealth.Json.Decoder
import ClusterHealth.Json.Display

namespace ClusterHealth

open ClusterHealth.Text

inductive FaultKind
  | system
  | blocked
  | brokenPipe
  | childProcess
  | connection
  | connectionAborted
  | connectionRefused
  | connectionReset
  | fileExists
  | fileNotFound
  | interrupted
  | isDirectory
  | notDirectory
  | permission
  | processLookup
  | systemTimeout
  | missingAttribute
  | value
  | undecodable
  | unencodable
  | index
  | key
  | runtime
  | type
  | notImplemented
  | zeroDivision
  | overflow
  | recursion
  | provider
  | noSuchProcess
  | accessDenied
  | zombieProcess
  | timeoutExpired
  | http
  | request
  | transport
  | timeout
  | connectTimeout
  | readTimeout
  | writeTimeout
  | poolTimeout
  | network
  | connect
  | read
  | write
  | close
  | protocol
  | localProtocol
  | remoteProtocol
  | proxy
  | unsupportedProtocol
  | decoding
  | tooManyRedirects
  | stream
  | streamConsumed
  | streamClosed
  | responseNotRead
  | requestNotRead
  | invalidUrl
  | cookieConflict
deriving DecidableEq

inductive FaultFamily
  | system
  | missingAttribute
  | value
  | index
  | provider
  | timeout
  | transport
  | http
  | stream
  | other
deriving DecidableEq

namespace FaultKind

def name : FaultKind → String
  | system => "OSError"
  | blocked => "BlockingIOError"
  | brokenPipe => "BrokenPipeError"
  | childProcess => "ChildProcessError"
  | connection => "ConnectionError"
  | connectionAborted => "ConnectionAbortedError"
  | connectionRefused => "ConnectionRefusedError"
  | connectionReset => "ConnectionResetError"
  | fileExists => "FileExistsError"
  | fileNotFound => "FileNotFoundError"
  | interrupted => "InterruptedError"
  | isDirectory => "IsADirectoryError"
  | notDirectory => "NotADirectoryError"
  | permission => "PermissionError"
  | processLookup => "ProcessLookupError"
  | systemTimeout => "TimeoutError"
  | missingAttribute => "AttributeError"
  | value => "ValueError"
  | undecodable => "UnicodeDecodeError"
  | unencodable => "UnicodeEncodeError"
  | index => "IndexError"
  | key => "KeyError"
  | runtime => "RuntimeError"
  | type => "TypeError"
  | notImplemented => "NotImplementedError"
  | zeroDivision => "ZeroDivisionError"
  | overflow => "OverflowError"
  | recursion => "RecursionError"
  | provider => "Error"
  | noSuchProcess => "NoSuchProcess"
  | accessDenied => "AccessDenied"
  | zombieProcess => "ZombieProcess"
  | timeoutExpired => "TimeoutExpired"
  | http => "HTTPError"
  | request => "RequestError"
  | transport => "TransportError"
  | timeout => "TimeoutException"
  | connectTimeout => "ConnectTimeout"
  | readTimeout => "ReadTimeout"
  | writeTimeout => "WriteTimeout"
  | poolTimeout => "PoolTimeout"
  | network => "NetworkError"
  | connect => "ConnectError"
  | read => "ReadError"
  | write => "WriteError"
  | close => "CloseError"
  | protocol => "ProtocolError"
  | localProtocol => "LocalProtocolError"
  | remoteProtocol => "RemoteProtocolError"
  | proxy => "ProxyError"
  | unsupportedProtocol => "UnsupportedProtocol"
  | decoding => "DecodingError"
  | tooManyRedirects => "TooManyRedirects"
  | stream => "StreamError"
  | streamConsumed => "StreamConsumed"
  | streamClosed => "StreamClosed"
  | responseNotRead => "ResponseNotRead"
  | requestNotRead => "RequestNotRead"
  | invalidUrl => "InvalidURL"
  | cookieConflict => "CookieConflict"

def all : List FaultKind :=
  [system, blocked, brokenPipe, childProcess, connection, connectionAborted, connectionRefused,
    connectionReset, fileExists, fileNotFound, interrupted, isDirectory, notDirectory, permission,
    processLookup, systemTimeout, missingAttribute, value, undecodable, unencodable, index, key,
    runtime, type, notImplemented, zeroDivision, overflow, recursion, provider, noSuchProcess,
    accessDenied, zombieProcess, timeoutExpired, http, request, transport, timeout, connectTimeout,
    readTimeout, writeTimeout, poolTimeout, network, connect, read, write, close, protocol,
    localProtocol, remoteProtocol, proxy, unsupportedProtocol, decoding, tooManyRedirects, stream,
    streamConsumed, streamClosed, responseNotRead, requestNotRead, invalidUrl, cookieConflict]

def ofName? (s : String) : Option FaultKind := all.find? (·.name == s)

theorem ofName?_name (k : FaultKind) : ofName? k.name = some k := by
  cases k <;> decide

def family : FaultKind → FaultFamily
  | system | blocked | brokenPipe | childProcess | connection | connectionAborted
  | connectionRefused | connectionReset | fileExists | fileNotFound | interrupted | isDirectory
  | notDirectory | permission | processLookup | systemTimeout => .system
  | missingAttribute => .missingAttribute
  | value | undecodable | unencodable => .value
  | index => .index
  | provider | noSuchProcess | accessDenied | zombieProcess | timeoutExpired => .provider
  | timeout | connectTimeout | readTimeout | writeTimeout | poolTimeout => .timeout
  | transport | network | connect | read | write | close | protocol | localProtocol
  | remoteProtocol | proxy | unsupportedProtocol => .transport
  | http | request | decoding | tooManyRedirects => .http
  | stream | streamConsumed | streamClosed | responseNotRead | requestNotRead => .stream
  | key | runtime | type | notImplemented | zeroDivision | overflow | recursion | invalidUrl
  | cookieConflict => .other

def ofErrorNumber : Int → FaultKind
  | 1 | 13 => permission
  | 2 => fileNotFound
  | 3 => processLookup
  | 4 => interrupted
  | 10 => childProcess
  | 11 | 114 | 115 => blocked
  | 17 => fileExists
  | 20 => notDirectory
  | 21 => isDirectory
  | 32 | 108 => brokenPipe
  | 103 => connectionAborted
  | 104 => connectionReset
  | 110 => systemTimeout
  | 111 => connectionRefused
  | _ => system

end FaultKind

structure Fault where
  kind : FaultKind
  text : AnyText
deriving DecidableEq

namespace Fault

def family (f : Fault) : FaultFamily := f.kind.family

def describe (f : Fault) : AnyText := if f.text = "" then f.kind.name else f.text

def plainText : List Json → AnyText
  | [] => ""
  | [v] => v.display
  | vs => "(" ++ ", ".intercalate (Json.displayItems vs) ++ ")"

def keyText : List Json → AnyText
  | [v] => v.quotedDisplay
  | vs => plainText vs

def numberedText (number reason : Json) : List Json → AnyText
  | [] => "[Errno " ++ number.display ++ "] " ++ reason.display
  | file :: _ => "[Errno " ++ number.display ++ "] " ++ reason.display ++ (": " ++ file.quotedDisplay)

/-- A number and a reason, then perhaps the file, and perhaps after a fourth argument a second file. -/
def systemText : List Json → AnyText
  | [number, reason] => numberedText number reason []
  | [number, reason, .null] => numberedText number reason []
  | [number, reason, file] => numberedText number reason [file]
  | [number, reason, .null, _] => numberedText number reason []
  | [number, reason, file, _] => numberedText number reason [file]
  | [number, reason, file, _, .null] => numberedText number reason [file]
  | [number, reason, file, _, other] =>
    numberedText number reason [file] ++ (" -> " ++ other.quotedDisplay)
  | vs => plainText vs

/-- The kind of a plain system error follows from its number. -/
def systemKind : List Json → FaultKind
  | .int n :: _ :: _ => .ofErrorNumber n
  | _ => .system

/-- Whether an argument was given: absent, null, empty and zero ones do not show. -/
def given : Json → Bool
  | .null => false
  | .bool b => b
  | .int n => n != 0
  | .float x => !x.isZero
  | .str s => s != ""
  | .arr vs => !vs.isEmpty
  | .obj ms => !ms.isEmpty

def isZero : Json → Bool
  | .bool b => !b
  | .int n => n == 0
  | .float x => x.isZero
  | _ => false

def argument (args : List Json) (i : Nat) : Json := (args[i]?).getD .null

def processText (message : AnyText) (pid ppid name : Json) : AnyText :=
  let details :=
    (if given pid || isZero pid then ["pid=" ++ pid.quotedDisplay] else []) ++
    (if given ppid then ["ppid=" ++ ppid.quotedDisplay] else []) ++
    (if given name then ["name=" ++ name.quotedDisplay] else [])
  let shown := if details.isEmpty then "" else "(" ++ ", ".intercalate details ++ ")"
  AnyText.intercalate " " (([message, shown] : List AnyText).filter (· ≠ ""))

def messageOr (default : String) (v : Json) : AnyText := if given v then v.display else default

def notReadText (side : String) : String :=
  "Attempted to access streaming " ++ side ++ " content, without having called `read()`."

def streamClosedText : String :=
  "Attempted to read or stream content, but the stream has been closed."

def streamConsumedText : String :=
  "Attempted to read or stream some content, but the content has already been streamed. " ++
  "For requests, this could be due to passing a generator as request content, and then receiving " ++
  "a redirect response or a secondary request as part of an authentication flow." ++
  "For responses, this could be due to attempting to stream the response content more than once."

def raised (kind : FaultKind) (args : List Json) : Fault :=
  match kind with
  | .system => ⟨systemKind args, systemText args⟩
  | .key => ⟨kind, keyText args⟩
  | .provider => ⟨kind, ""⟩
  | .noSuchProcess =>
    ⟨kind, processText (messageOr "process no longer exists" (argument args 2))
      (argument args 0) .null (argument args 1)⟩
  | .accessDenied =>
    ⟨kind, processText (messageOr "" (argument args 2)) (argument args 0) .null (argument args 1)⟩
  | .zombieProcess =>
    ⟨kind, processText (messageOr "PID still exists but it's a zombie" (argument args 3))
      (argument args 0) (argument args 2) (argument args 1)⟩
  | .timeoutExpired =>
    ⟨kind, processText ("timeout after " ++ (argument args 0).display ++ " seconds")
      (argument args 1) .null (argument args 2)⟩
  | .streamConsumed => ⟨kind, streamConsumedText⟩
  | .streamClosed => ⟨kind, streamClosedText⟩
  | .responseNotRead => ⟨kind, notReadText "response"⟩
  | .requestNotRead => ⟨kind, notReadText "request"⟩
  | _ => ⟨kind, if kind.family = .system then systemText args else plainText args⟩

def noSuchFile (path : AnyText) : Fault :=
  raised .system [.int 2, .str "No such file or directory", .str path]

def tooManyDigits (n : Nat) : Fault := ⟨.value, Json.tooManyDigitsMessage n⟩

def tooDeep (c : Json.Container) : Fault :=
  ⟨.recursion, (Json.DecodeError.tooDeep c).message⟩

end Fault

end ClusterHealth
