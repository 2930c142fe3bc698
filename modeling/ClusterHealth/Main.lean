import ClusterHealth.CommandLine.Run
import ClusterHealth.Host.Files
import ClusterHealth.Report.Timestamp
import Std.Time.DateTime.Timestamp

namespace ClusterHealth.Main

open ClusterHealth.CommandLine ClusterHealth.Text

def readFile (path : String) : IO File := do
  try
    return .ofOctets (← IO.FS.readBinFile path).toList
  catch
    | .noFileOrDirectory .. => return .missing path
    | e => return .unreadable ⟨.system, toString e⟩

def readText (path : String) : IO (Answer String) := do return (← readFile path).text

def readLine (path : String) : IO (Answer String) := do return (← readText path).map strip

def readEnvironment : IO (Entries String) := do
  let text := utf8Replacing (← IO.FS.readBinFile "/proc/self/environ").toList
  return Entries.ofList ((pieces '\x00' text).filterMap (splitAtFirst? '='))

def filePaths : List String :=
  ["/proc/cpuinfo", "/etc/os-release", "/etc/machine-id", "/var/lib/dbus/machine-id"]

def readHost (now : Int) : IO Host := do
  let files ← filePaths.mapM fun path => do return (path, ← readFile path)
  let system ← readLine "/proc/sys/kernel/ostype"
  let release ← readLine "/proc/sys/kernel/osrelease"
  let hostname ← readLine "/proc/sys/kernel/hostname"
  let uname : Uname := ⟨system.toOption.getD "", release.toOption.getD "", ""⟩
  return .ofFiles (hostname.map .plain) uname (.decimal (.ofIntRatio now 1000000000)) files

def timeText (now : Int) : String :=
  ((Report.Timestamp.ofCount? (now / 1000000000) (now / 1000 % 1000000).toNat).map (·.render)).getD ""

def readReply (argv : List String) : IO Admin.Reply := do
  match Arguments.parse argv with
  | .ok ⟨.healthInfo, _, _⟩ =>
    let octets ← (← IO.getStdin).readToEnd
    return .response ⟨200, [], none, .ofChunks .plain [] [.octets octets.toUTF8.toList]⟩
  | _ => return .fault ⟨.connect, "no request was expected"⟩

def writeLog (time : String) (o : Outcome) : IO Unit := do
  for r in o.log do
    for w in o.root.write r.level r.text time do
      match w with
      | .text s => IO.eprintln s.lossy
      | .object ms => IO.eprintln ((Json.obj ms).render Json.compact)

partial def serve (h : Host) (s : Service) (input : IO.FS.Stream) : IO Unit := do
  let line ← input.getLine
  if line.isEmpty then return
  match words line with
  | method :: target :: _ =>
    match (s.api.call h method target).answer with
    | .ok r => IO.println s!"{r.status} {r.body}"
    | .error f => IO.println s!"500 {f.describe.lossy}"
  | _ => pure ()
  serve h s input

def run (argv : List String) : IO UInt32 := do
  let now := (← Std.Time.Timestamp.now).toNanosecondsSinceUnixEpoch.val
  let host ← readHost now
  let settingsFile := (← readText ".env").toOption
  let o := CommandLine.run argv ⟨← readEnvironment, settingsFile, host, .plain, ← readReply argv⟩
  writeLog (timeText now) o
  IO.print o.stdout
  IO.eprint o.stderr
  if let some s := o.service then serve host s (← IO.getStdin)
  match o.status with
  | .ok n => return n.toUInt32
  | .error e =>
    IO.eprintln e.message.lossy
    return 1

end ClusterHealth.Main

def main (argv : List String) : IO UInt32 := ClusterHealth.Main.run argv
