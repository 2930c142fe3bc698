import ClusterHealth.Collect.Outcome
import ClusterHealth.Number.Numeral
import ClusterHealth.Text.Basic

/-!
The running process. Its children and its parent are looked up as well as may be; any other question
that it does not answer is the answer to all of them.
-/

namespace ClusterHealth.Collect

open ClusterHealth.Metric ClusterHealth.Text

/-- The fields of a process's stat file after its command name, which may hold anything but ends at the
last parenthesis. -/
def statFields? (text : String) : Option (List String) :=
  match text.toList.reverse.dropWhile (· != ')') with
  | [] => none
  | _ :: _ =>
    let after := (text.toList.reverse.takeWhile (· != ')')).reverse
    some (words (String.ofList (after.drop 1)))

def statPath (pid : Int) : String := s!"/proc/{pid}/stat"

def statusPath (pid : Int) : String := s!"/proc/{pid}/status"

def noParenthesis : Fault := ⟨.value, "substring not found"⟩

def noField : Fault := ⟨.index, "list index out of range"⟩

def readStat (h : Host) (pid : Int) : Answer (List String) := do
  match statFields? (← (h.file (statPath pid)).text) with
  | some fields => return fields
  | none => throw noParenthesis

def statField (fields : List String) (i : Nat) : Answer String :=
  match fields[i]? with
  | some s => .ok s
  | none => .error noField

def notANumeral (s : String) : Fault :=
  ⟨.value, "invalid literal for int() with base 10: " ++
    String.ofList ((quoted s).toList.take 200)⟩

def intOfText (s : String) : Answer Int :=
  match Numeral.int s with
  | .ok n => .ok n
  | .error .malformed => .error (notANumeral s)
  | .error (.tooLong n) => .error (.tooManyDigits n)

def statInt (fields : List String) (i : Nat) : Answer Int := do
  intOfText (← statField fields i)

def noTgid (pid : Int) : Fault := .raised .system [.str s!"Tgid missing from {statusPath pid}"]

def tgidOf (pid : Int) : List String → Answer Int
  | [] => .error (noTgid pid)
  | line :: rest =>
    if startsWith "Tgid:" line then intOfText (String.ofList (line.toList.drop 5))
    else tgidOf pid rest

def tgid (h : Host) (pid : Int) : Answer Int := do
  tgidOf pid (lines (← (h.file (statusPath pid)).text))

def cpuPercent (h : Host) (p : HostProcess) : Answer Binary64 := do
  let times ← p.cpuTimes
  let elapsed ← Quantity.sub h.time (← p.createTime)
  if elapsed.atMostZero then return 0
  let busy ← Quantity.add (← times.user) (← times.system)
  return 100 * (← busy.toBinary64) / (← elapsed.toBinary64)

def limitNames : List String :=
  ["RLIMIT_AS", "RLIMIT_CORE", "RLIMIT_CPU", "RLIMIT_DATA", "RLIMIT_FSIZE", "RLIMIT_LOCKS",
    "RLIMIT_MEMLOCK", "RLIMIT_MSGQUEUE", "RLIMIT_NICE", "RLIMIT_NOFILE", "RLIMIT_NPROC",
    "RLIMIT_RSS", "RLIMIT_RTPRIO", "RLIMIT_RTTIME", "RLIMIT_SIGPENDING", "RLIMIT_STACK"]

def resourceLimit (p : HostProcess) (name : String) : Answer ResourceLimit := do
  let (soft, hard) ← p.limit name
  return ⟨name, ← soft.toInt, ← hard.toInt⟩

def resourceLimits (h : Host) (p : HostProcess) : Answer (List ResourceLimit) :=
  (limitNames.filter h.limitNames.contains).mapM (resourceLimit p)

def netCounters (h : Host) : Answer (List Members) := do
  let counters := (← h.netCounters).mergeSort fun a b => a.1.le b.1
  return counters.map fun (name, fields) => .ofList ((.plain "name", .str name) :: fields)

def orElse (default : α) : Answer α → Answer α
  | .ok a => .ok a
  | .error f => if f.family = .provider then .ok default else .error f

def processInfo (h : Host) (p : HostProcess) : Answer ProcessInfo := do
  let stat ← readStat h p.pid
  let children ← orElse [] p.children
  let ppid ← orElse 0 p.ppid
  let group ← statField stat 2
  let foreground ← statField stat 5
  let cpuPercent ← cpuPercent h p
  let cmdline ← p.cmdline
  let numConnections ← p.netConnections
  let createTime ← (← Quantity.mul (← p.createTime) (.whole 1000)).toInt
  let cwd ← p.cwd
  let exe ← p.exe
  let gids ← p.gids
  let ioCounters ← p.ioCounters
  let netIoCounters ← netCounters h
  let isRunning ← p.isRunning
  let memInfo ← p.memoryInfo
  let memMaps ← p.memoryMaps
  let memPercent ← (← p.memoryPercent).toBinary64
  let name ← p.name
  let nice ← (← p.nice).toInt
  let numCtxSwitches ← p.numCtxSwitches
  let numFds ← p.numFds
  let numThreads ← p.numThreads
  let minor ← statInt stat 7
  let major ← statInt stat 9
  let childMinor ← statInt stat 8
  let childMajor ← statInt stat 10
  let status ← p.status
  let tgid ← tgid h p.pid
  let times ← p.cpuTimes
  let uids ← p.uids
  let username ← p.username
  let rlimit ← resourceLimits h p
  return {
    pid := p.pid
    isBackground := group != foreground
    cpuPercent := cpuPercent
    childrenPids := children
    cmdLine := .intercalate " " cmdline
    numConnections := numConnections
    createTime := createTime
    cwd := cwd
    execPath := exe
    gids := gids
    ioCounters := ioCounters
    netIoCounters := netIoCounters
    isRunning := isRunning
    memInfo := memInfo
    memMaps := memMaps
    memPercent := memPercent
    name := name
    nice := nice
    numCtxSwitches := numCtxSwitches
    numFds := numFds
    numThreads := numThreads
    pageFaults := [("minor_faults", .int minor), ("major_faults", .int major),
      ("child_minor_faults", .int childMinor), ("child_major_faults", .int childMajor)]
    ppid := ppid
    status := status
    tgid := tgid
    times := times.all
    uids := uids
    username := username
    rlimit := rlimit }

/-- A file of the process that cannot be understood is a fault of the system. -/
def asSystemFault (f : Fault) : Fault :=
  match f.family with
  | .value | .index => .raised .system [.str ("unreadable process stat: " ++ f.text)]
  | _ => f

def process (address : String) (h : Host) : Answer (Collected ProcessInfo) :=
  settle "process" address <|
    (h.process >>= processInfo h).mapError asSystemFault

end ClusterHealth.Collect
