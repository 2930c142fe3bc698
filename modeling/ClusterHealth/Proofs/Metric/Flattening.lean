import ClusterHealth.Metric.Snapshot
import ClusterHealth.Proofs.Collect.Assembly
import ClusterHealth.Proofs.Json.Comparing

/-!
What the wire form of a snapshot tells of it. The names of its members tell what kind of record it is, or
that it is a failure, and each member tells a field, so that snapshots whose wire forms cannot be told apart
cannot be told apart themselves.
-/

namespace ClusterHealth.Metric

open Collect (Part)
open Json (Comparison Fieldwise)
open Entries (names)

inductive Payload
  | cpus (c : Cpus)
  | partitions (p : Partitions)
  | os (o : OsInfo)
  | memory (m : Memory)
  | process (p : ProcessInfo)

namespace Payload

def part : Payload → Part
  | cpus _ => .cpus
  | partitions _ => .partitions
  | os _ => .osinfo
  | memory _ => .meminfo
  | process _ => .procinfo

instance : Record Payload where
  members
    | cpus c => Record.members c
    | partitions p => Record.members p
    | os o => Record.members o
    | memory m => Record.members m
    | process p => Record.members p

end Payload

section Alike

variable (R : Json → Json → Prop)

structure Cpu.Alike (a b : Cpu) : Prop where
  mhz : R (.float a.mhz) (.float b.mhz)
  rest : { a with mhz := b.mhz } = b

structure Temperature.Alike (a b : Temperature) : Prop where
  sensorKey : a.sensorKey = b.sensorKey
  temperature : R (.float a.temperature) (.float b.temperature)
  high : R (optionalNumber a.high) (optionalNumber b.high)
  critical : R (optionalNumber a.critical) (optionalNumber b.critical)

structure ProcessInfo.Alike (a b : ProcessInfo) : Prop where
  cpuPercent : R (.float a.cpuPercent) (.float b.cpuPercent)
  memPercent : R (.float a.memPercent) (.float b.memPercent)
  ioCounters : R (.obj a.ioCounters) (.obj b.ioCounters)
  netIoCounters : List.Forall₂ (fun c d => R (.obj c) (.obj d)) a.netIoCounters b.netIoCounters
  memInfo : R (.obj a.memInfo) (.obj b.memInfo)
  memMaps : List.Forall₂ (fun c d => R (.obj c) (.obj d)) a.memMaps b.memMaps
  numCtxSwitches : R (.obj a.numCtxSwitches) (.obj b.numCtxSwitches)
  pageFaults : R (.obj a.pageFaults) (.obj b.pageFaults)
  times : R (.obj a.times) (.obj b.times)
  rest :
    { a with
      cpuPercent := b.cpuPercent, memPercent := b.memPercent, ioCounters := b.ioCounters,
      netIoCounters := b.netIoCounters, memInfo := b.memInfo, memMaps := b.memMaps,
      numCtxSwitches := b.numCtxSwitches, pageFaults := b.pageFaults, times := b.times } = b

inductive Payload.Alike : Payload → Payload → Prop
  | cpus {c d : Cpus} : List.Forall₂ (Cpu.Alike R) c.cpus d.cpus → Alike (.cpus c) (.cpus d)
  | partitions (p : Partitions) : Alike (.partitions p) (.partitions p)
  | os {o p : OsInfo} : o.info = p.info → List.Forall₂ (Temperature.Alike R) o.sensors p.sensors →
      Alike (.os o) (.os p)
  | memory (m : Memory) : Alike (.memory m) (.memory m)
  | process {p q : ProcessInfo} : p.Alike R q → Alike (.process p) (.process q)

inductive Snapshot.Alike : Snapshot Payload → Snapshot Payload → Prop
  | success (address : String) {p q : Payload} : p.Alike R q → Alike (.success address p) (.success address q)
  | failure (address : String) (error : AnyText) : Alike (.failure address error) (.failure address error)

end Alike

variable {R : Json → Json → Prop}

section Fields

variable (hR : Comparison R)
include hR

theorem texts_iff {ss ts : List String} : R (texts ss) (texts ts) ↔ ss = ts := by
  simp [texts, hR.items, hR.str, List.forall₂_eq_eq_eq]

theorem wholes_iff {ms ns : List Int} : R (wholes ms) (wholes ns) ↔ ms = ns := by
  simp [wholes, hR.items, hR.int, List.forall₂_eq_eq_eq]

theorem counters_iff {cs ds : List Members} :
    R (.arr (cs.map .obj)) (.arr (ds.map .obj)) ↔ List.Forall₂ (fun c d => R (.obj c) (.obj d)) cs ds := by
  simp [hR.items]

theorem forall₂_of_records [Record α] {P : α → α → Prop} {rs us : List α}
    (hP : ∀ {r u : α}, R (.obj (Record.members r)) (.obj (Record.members u)) → P r u)
    (h : R (records rs) (records us)) : List.Forall₂ P rs us := by
  rw [records, records, hR.items, List.forall₂_map_left_iff, List.forall₂_map_right_iff] at h
  exact h.imp fun _ _ => hP

theorem cpu_alike {a b : Cpu} (h : R (.obj (Record.members a)) (.obj (Record.members b))) : a.Alike R b := by
  have hfields := hR.fields h rfl (by simp [names, Record.members])
  simp only [Record.members, List.forall₂_cons, hR.str, hR.int, texts_iff hR] at hfields
  obtain ⟨vendor, family, model, stepping, physical, name, mhz, cache, flags, microcode, cores, -⟩ := hfields
  refine ⟨mhz, ?_⟩
  cases a
  simp_all

theorem partitionUsage_eq {p q : PartitionUsage}
    (h : R (.obj (Record.members p)) (.obj (Record.members q))) : p = q := by
  have hfields := hR.fields h rfl (by simp [names, Record.members])
  simp only [Record.members, List.forall₂_cons, hR.str, hR.int] at hfields
  cases p
  simp_all

theorem partitionFailure_eq {p q : PartitionFailure}
    (h : R (.obj (Record.members p)) (.obj (Record.members q))) : p = q := by
  have hfields := hR.fields h rfl (by simp [names, Record.members])
  simp only [Record.members, List.forall₂_cons, hR.str] at hfields
  cases p
  simp_all

theorem partition_eq {p q : Partition} (h : R (.obj (Record.members p)) (.obj (Record.members q))) :
    p = q := by
  have hnames := hR.names_subset h
  match p, q with
  | .usage p, .usage q => exact congrArg _ (partitionUsage_eq hR h)
  | .failure p, .failure q => exact congrArg _ (partitionFailure_eq hR h)
  | .usage p, .failure q => simp [names, Record.members] at hnames
  | .failure p, .usage q => simp [names, Record.members] at hnames

theorem hostInfo_eq {i j : HostInfo} (h : R (.obj (Record.members i)) (.obj (Record.members j))) :
    i = j := by
  have hfields := hR.fields h rfl (by simp [names, Record.members])
  simp only [Record.members, List.forall₂_cons, hR.str, hR.int] at hfields
  cases i
  simp_all

theorem temperature_alike {t u : Temperature}
    (h : R (.obj (Record.members t)) (.obj (Record.members u))) : t.Alike R u := by
  have hfields := hR.fields h rfl (by simp [names, Record.members])
  simp only [Record.members, List.forall₂_cons, hR.str] at hfields
  obtain ⟨sensorKey, temperature, high, critical, -⟩ := hfields
  exact ⟨sensorKey, temperature, high, critical⟩

theorem memory_eq {m n : Memory} (h : Fieldwise R (Record.members m) (Record.members n)) : m = n := by
  simp only [Record.members, List.forall₂_cons, hR.int] at h
  cases m
  simp_all

theorem resourceLimit_eq {l m : ResourceLimit}
    (h : R (.obj (Record.members l)) (.obj (Record.members m))) : l = m := by
  have hfields := hR.fields h rfl (by simp [names, Record.members])
  simp only [Record.members, List.forall₂_cons, hR.str, hR.int] at hfields
  cases l
  simp_all

theorem process_alike {p q : ProcessInfo}
    (h : Fieldwise R (Record.members p) (Record.members q)) : p.Alike R q := by
  simp only [Record.members, List.forall₂_cons, hR.str, hR.int, hR.bool, wholes_iff hR, counters_iff hR]
    at h
  obtain ⟨pid, isBackground, cpuPercent, childrenPids, cmdLine, numConnections, createTime, cwd, execPath,
    gids, ioCounters, netIoCounters, isRunning, memInfo, memMaps, memPercent, name, nice, numCtxSwitches,
    numFds, numThreads, pageFaults, ppid, status, tgid, times, uids, username, limits, -⟩ := h
  have hlimits := List.forall₂_eq_eq_eq ▸ forall₂_of_records hR (resourceLimit_eq hR) limits
  refine ⟨cpuPercent, memPercent, ioCounters, netIoCounters, memInfo, memMaps, numCtxSwitches, pageFaults,
    times, ?_⟩
  cases p
  simp_all

theorem cpus_alike {c d : Cpus} (h : Fieldwise R (Record.members c) (Record.members d)) :
    List.Forall₂ (Cpu.Alike R) c.cpus d.cpus := by
  simp only [Record.members, List.forall₂_cons] at h
  exact forall₂_of_records hR (cpu_alike hR) h.1

theorem partitions_eq {p q : Partitions} (h : Fieldwise R (Record.members p) (Record.members q)) :
    p = q := by
  simp only [Record.members, List.forall₂_cons] at h
  have hpartitions := List.forall₂_eq_eq_eq ▸ forall₂_of_records hR (partition_eq hR) h.1
  cases p
  simp_all

theorem os_alike {o p : OsInfo} (h : Fieldwise R (Record.members o) (Record.members p)) :
    o.info = p.info ∧ List.Forall₂ (Temperature.Alike R) o.sensors p.sensors := by
  simp only [Record.members, List.forall₂_cons] at h
  obtain ⟨hinfo, hsensors, -⟩ := h
  exact ⟨hostInfo_eq hR hinfo, forall₂_of_records hR (temperature_alike hR) hsensors⟩

theorem payload_alike {p q : Payload} (hpart : p.part = q.part)
    (h : Fieldwise R (Record.members p) (Record.members q)) : p.Alike R q := by
  cases p <;> cases q <;> try cases hpart
  case cpus.cpus => exact .cpus (cpus_alike hR h)
  case partitions.partitions => exact partitions_eq hR h ▸ .partitions _
  case os.os =>
    obtain ⟨hinfo, hsensors⟩ := os_alike hR h
    exact .os hinfo hsensors
  case memory.memory => exact memory_eq hR h ▸ .memory _
  case process.process => exact .process (process_alike hR h)

end Fields

def Snapshot.part? : Snapshot Payload → Option Part
  | .success _ p => some p.part
  | .failure .. => none

def membersOf : Option Part → List AnyText
  | some p => "addr" :: p.fields.map .plain
  | none => ["addr", "error"]

theorem names_flatten (s : Snapshot Payload) : names s.flatten = membersOf s.part? := by
  cases s with
  | success address p => cases p <;> rfl
  | failure address error => rfl

def mark : Option Part → AnyText
  | none => "error"
  | some .cpus => "cpus"
  | some .partitions => "partitions"
  | some .osinfo => "info"
  | some .meminfo => "total"
  | some .procinfo => "pid"

theorem mark_mem_membersOf_iff {k l : Option Part} : mark k ∈ membersOf l ↔ k = l := by
  rcases k with _ | k <;> rcases l with _ | l <;> (try cases k) <;> (try cases l) <;> decide

theorem nodup_membersOf (k : Option Part) : (membersOf k).Nodup := by
  rcases k with _ | k <;> (try cases k) <;> decide

theorem part?_eq (hR : Comparison R) {s t : Snapshot Payload} (h : R (.obj s.flatten) (.obj t.flatten)) :
    s.part? = t.part? := by
  have hnames := hR.names_subset h
  rw [names_flatten, names_flatten] at hnames
  exact mark_mem_membersOf_iff.1 (hnames (mark_mem_membersOf_iff.2 rfl))

theorem alike_of_flatten (hR : Comparison R) {s t : Snapshot Payload}
    (h : R (.obj s.flatten) (.obj t.flatten)) : s.Alike R t := by
  have hpart := part?_eq hR h
  have hnames : names s.flatten = names t.flatten := by rw [names_flatten, names_flatten, hpart]
  have hfields := hR.fields h hnames (names_flatten t ▸ nodup_membersOf _)
  cases s <;> cases t <;> try cases hpart
  case failure.failure =>
    simp only [Snapshot.flatten, List.forall₂_cons, hR.str] at hfields
    obtain ⟨haddress, rfl, -⟩ := hfields
    cases haddress
    exact .failure _ _
  case success.success address p address' q =>
    obtain ⟨haddress, hpayload⟩ := List.forall₂_cons.1 hfields
    cases hR.str.1 haddress
    exact .success address (payload_alike hR (Option.some.inj hpart) hpayload)

section Equal

theorem optionalNumber_injective : Function.Injective optionalNumber := by
  intro q r h
  rcases q with _ | ⟨_ | _⟩ <;> rcases r with _ | ⟨_ | _⟩ <;> cases h <;> rfl

theorem cpu_eq_of_alike {a b : Cpu} (h : a.Alike (· = ·) b) : a = b := by
  rw [← h.rest, ← Json.float.inj h.mhz]

theorem temperature_eq_of_alike {t u : Temperature} (h : t.Alike (· = ·) u) : t = u := by
  obtain ⟨hkey, htemperature, hhigh, hcritical⟩ := h
  cases t
  cases u
  cases hkey
  cases htemperature
  cases optionalNumber_injective hhigh
  cases optionalNumber_injective hcritical
  rfl

theorem process_eq_of_alike {p q : ProcessInfo} (h : p.Alike (· = ·) q) : p = q := by
  have hnet : p.netIoCounters = q.netIoCounters := by
    simpa [List.forall₂_eq_eq_eq] using h.netIoCounters
  have hmaps : p.memMaps = q.memMaps := by simpa [List.forall₂_eq_eq_eq] using h.memMaps
  rw [← h.rest, ← Json.float.inj h.cpuPercent, ← Json.float.inj h.memPercent, ← Json.obj.inj h.ioCounters,
    ← hnet, ← Json.obj.inj h.memInfo, ← hmaps, ← Json.obj.inj h.numCtxSwitches,
    ← Json.obj.inj h.pageFaults, ← Json.obj.inj h.times]

theorem payload_eq_of_alike {p q : Payload} (h : p.Alike (· = ·) q) : p = q := by
  cases h with
  | @cpus c d hcpus =>
    have heq := List.forall₂_eq_eq_eq ▸ hcpus.imp fun _ _ => cpu_eq_of_alike
    cases c
    cases d
    cases heq
    rfl
  | partitions p => rfl
  | @os o p hinfo hsensors =>
    have heq := List.forall₂_eq_eq_eq ▸ hsensors.imp fun _ _ => temperature_eq_of_alike
    cases o
    cases p
    cases hinfo
    cases heq
    rfl
  | memory m => rfl
  | process hprocess => rw [process_eq_of_alike hprocess]

theorem eq_of_alike {s t : Snapshot Payload} (h : s.Alike (· = ·) t) : s = t := by
  cases h with
  | success address hpayload => rw [payload_eq_of_alike hpayload]
  | failure address error => rfl

end Equal

def Snapshot.told : Snapshot Payload → Members
  | .success _ p => Record.members p
  | .failure _ error => [("error", .str error)]

theorem flatten_eq_cons (s : Snapshot Payload) : s.flatten = (.plain "addr", .str s.address) :: s.told := by
  cases s <;> rfl

theorem flatten_eq_ofList (s : Snapshot Payload) :
    s.flatten = Entries.ofList ((.plain "addr", .str s.address) :: s.told) := by
  rw [← flatten_eq_cons, Entries.ofList_eq_self (names_flatten s ▸ nodup_membersOf _)]

theorem flatten_loses_nothing (s t : Snapshot Payload) :
    (s.flatten = t.flatten → s = t) ∧
      (Json.same (.obj s.flatten) (.obj t.flatten) = true → s.Alike (fun v w => v.same w = true) t) ∧
      s.flatten = Entries.ofList ((.plain "addr", .str s.address) :: s.told) ∧
      s.flatten.get? "addr" = some (.str s.address) := by
  refine ⟨fun h => ?_, alike_of_flatten Json.comparison_same, flatten_eq_ofList s, ?_⟩
  · exact eq_of_alike (alike_of_flatten Json.comparison_eq (h ▸ rfl))
  · rw [flatten_eq_cons]
    rfl

def sleepingProcess (ioCounters times : Members) : ProcessInfo where
  pid := 1
  isBackground := true
  cpuPercent := 0
  childrenPids := [2, 3]
  cmdLine := "/sbin/init"
  numConnections := 0
  createTime := 1700000000000
  cwd := "/"
  execPath := "/sbin/init"
  gids := [0, 0, 0]
  ioCounters := ioCounters
  netIoCounters := []
  isRunning := true
  memInfo := []
  memMaps := []
  memPercent := 0
  name := "init"
  nice := 0
  numCtxSwitches := []
  numFds := 3
  numThreads := 1
  pageFaults := []
  ppid := 0
  status := "sleeping"
  tgid := 1
  times := times
  uids := [0, 0, 0]
  username := "root"
  rlimit := [⟨"nofile", 1024, -1⟩]

theorem flatten_loses_nothing_reordered :
    Snapshot.Alike (fun v w => v.same w = true)
      (.success "node-1" (.process (sleepingProcess [("reads", .int 1), ("writes", .int 2)] [("user", .int 1)])))
      (.success "node-1"
        (.process (sleepingProcess [("writes", .int 2), ("reads", .int 1)] [("user", .float (.ofInt 1))]))) :=
  (flatten_loses_nothing _ _).2.1 (by decide +kernel)

end ClusterHealth.Metric
