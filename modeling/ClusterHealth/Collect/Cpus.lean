import ClusterHealth.Collect.Outcome
import ClusterHealth.Number.Numeral
import ClusterHealth.Text.LetterCase

namespace ClusterHealth.Collect

open ClusterHealth.Metric ClusterHealth.Text

abbrev Processor := Entries String

namespace Processor

def field (p : Processor) (name : String) : String := (p.get? name).getD ""

def addLine (p : Processor) (line : String) : Processor :=
  match splitAtFirst? ':' line with
  | none => p
  | some (name, value) => Entries.put (lower (strip name)) (strip value) p

def blocks (block : Processor) : List String → List Processor
  | [] => if block.isEmpty then [] else [block]
  | line :: rest =>
    if strip line = "" then
      if block.isEmpty then blocks [] rest else block :: blocks [] rest
    else blocks (block.addLine line) rest

def parse (text : String) : List Processor :=
  (blocks [] (lines text)).filter (·.has "processor")

def leadingInt (value : String) : Int :=
  match words value with
  | [] => 0
  | w :: _ => match Numeral.int w with | .ok n => n | .error _ => 0

def decimal (value : String) : Binary64 := (Numeral.float? value).getD 0

def toCpu (first : Processor) (cores : Nat) : Cpu where
  vendorId := first.field "vendor_id"
  family := first.field "cpu family"
  model := first.field "model"
  stepping := leadingInt (first.field "stepping")
  physicalId := first.field "physical id"
  modelName := first.field "model name"
  mhz := decimal (first.field "cpu mhz")
  cacheSize := leadingInt (first.field "cache size")
  flags := words (first.field "flags")
  microcode := first.field "microcode"
  cores := cores

end Processor

abbrev Package := Processor × Nat

def packages (ps : List Processor) : Entries Package :=
  ps.foldl (fun es p =>
    let id := p.field "physical id"
    match es.get? id with
    | none => Entries.put id (p, 1) es
    | some (first, n) => Entries.put id (first, n + 1) es) []

def modelName (h : Host) : Answer AnyText := do
  let processor ← h.processor
  if processor = "" then h.machine else return processor

def megahertz : Option Quantity → Answer Binary64
  | none => .ok 0
  | some q => q.toBinary64

def fallbackCpu (h : Host) : Answer Cpu := do
  let frequency ← h.cpuFrequency
  let modelName ← modelName h
  let mhz ← megahertz frequency
  let count ← h.cpuCount
  return ⟨"", "", "", 0, "0", modelName, mhz, 0, [], "", count.getD 0⟩

def processors (h : Host) : Answer (List Processor) := do
  let file := h.file "/proc/cpuinfo"
  if ← file.present then
    return Processor.parse (← file.text)
  else
    return []

def cpus (address : String) (h : Host) : Answer (Collected Cpus) :=
  settle "cpu" address do
    match ← processors h with
    | [] => return ⟨[← fallbackCpu h]⟩
    | ps => return ⟨(packages ps).map fun (_, first, n) => first.toCpu n⟩

end ClusterHealth.Collect
