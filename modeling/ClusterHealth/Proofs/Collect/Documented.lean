import ClusterHealth.Host.Files
import ClusterHealth.Proofs.Collect.Settling

namespace ClusterHealth

def Quantity.IsWhole (q : Quantity) : Prop := ∃ n, q = .whole n

def Quantity.IsDecimal (q : Quantity) : Prop := ∃ x, q = .decimal x

namespace Collect

structure Provides (typed : α → Prop) (a : Answer α) : Prop where
  typed : ∀ v, a = .ok v → typed v
  faults : Caught isExpected a

def anyValue : α → Prop := fun _ => True

variable {typed : α → Prop}

theorem provides_ok {a : α} (h : typed a) : Provides typed (.ok a) := by
  refine ⟨fun b hb => ?_, caught_ok a⟩
  cases hb
  exact h

theorem provides_error {f : Fault} (h : isExpected f = true) : Provides typed (.error f : Answer α) :=
  ⟨nofun, caught_error h⟩

end Collect

open Collect (Provides anyValue)

structure File.Documented (f : File) : Prop where
  present : ∀ e, f.present = .error e → e.family = .system
  octets : ∀ e, f.octets = .error e → e.family = .system

def Capacity.IsWhole (c : Capacity) : Prop := c.total.IsWhole ∧ c.free.IsWhole

structure CpuTimes.Documented (t : CpuTimes) : Prop where
  user : Provides Quantity.IsDecimal t.user
  system : Provides Quantity.IsDecimal t.system

structure HostProcess.Documented (p : HostProcess) : Prop where
  children : Provides anyValue p.children
  ppid : Provides anyValue p.ppid
  cmdline : Provides anyValue p.cmdline
  netConnections : Provides anyValue p.netConnections
  createTime : Provides Quantity.IsDecimal p.createTime
  cwd : Provides anyValue p.cwd
  exe : Provides anyValue p.exe
  gids : Provides anyValue p.gids
  ioCounters : Provides anyValue p.ioCounters
  isRunning : Provides anyValue p.isRunning
  memoryInfo : Provides anyValue p.memoryInfo
  memoryMaps : Provides anyValue p.memoryMaps
  memoryPercent : Provides Quantity.IsDecimal p.memoryPercent
  name : Provides anyValue p.name
  nice : Provides Quantity.IsWhole p.nice
  numCtxSwitches : Provides anyValue p.numCtxSwitches
  numFds : Provides anyValue p.numFds
  numThreads : Provides anyValue p.numThreads
  status : Provides anyValue p.status
  cpuTimes : Provides CpuTimes.Documented p.cpuTimes
  uids : Provides anyValue p.uids
  username : Provides anyValue p.username
  limit : ∀ name, Provides (fun l => l.1.IsWhole ∧ l.2.IsWhole) (p.limit name)

structure Host.Documented (h : Host) : Prop where
  time : ∃ x : Binary64, h.time = .decimal x ∧ x.isFinite = true
  hostname : Provides anyValue h.hostname
  uname : Provides anyValue h.uname
  processor : Provides anyValue h.processor
  machine : Provides anyValue h.machine
  file : ∀ path, (h.file path).Documented
  inodes : ∀ mountpoint, Provides Capacity.IsWhole (h.inodes mountpoint)
  cpuFrequency : Provides (fun q => ∀ x ∈ q, Quantity.IsDecimal x) h.cpuFrequency
  cpuCount : Provides anyValue h.cpuCount
  bootTime : Provides Quantity.IsDecimal h.bootTime
  pids : Provides anyValue h.pids
  mounts : Provides anyValue h.mounts
  diskUsage : ∀ mountpoint, Provides Capacity.IsWhole (h.diskUsage mountpoint)
  ram : Provides (fun r => r.total.IsWhole ∧ r.available.IsWhole) h.ram
  swap : Provides Capacity.IsWhole h.swap
  sensors : ∀ a ∈ h.sensors, Provides (fun chips => ∀ c ∈ chips, ∀ r ∈ c.2, r.current.IsDecimal) a
  netCounters : Provides anyValue h.netCounters
  process : Provides HostProcess.Documented h.process

namespace Collect

section Quantities

variable {q r : Quantity}

theorem toInt_of_isWhole (h : q.IsWhole) : ∃ n, q.toInt = .ok n := by
  obtain ⟨n, rfl⟩ := h
  exact ⟨n, rfl⟩

theorem toBinary64_of_isDecimal (h : q.IsDecimal) : ∃ x, q.toBinary64 = .ok x := by
  obtain ⟨x, rfl⟩ := h
  exact ⟨x, rfl⟩

theorem add_of_isDecimal (hq : q.IsDecimal) (hr : r.IsDecimal) :
    ∃ s, Quantity.add q r = .ok s ∧ s.IsDecimal := by
  obtain ⟨x, rfl⟩ := hq
  obtain ⟨y, rfl⟩ := hr
  exact ⟨_, rfl, _, rfl⟩

theorem sub_of_isDecimal (hq : q.IsDecimal) (hr : r.IsDecimal) :
    ∃ s, Quantity.sub q r = .ok s ∧ s.IsDecimal := by
  obtain ⟨x, rfl⟩ := hq
  obtain ⟨y, rfl⟩ := hr
  exact ⟨_, rfl, _, rfl⟩

/-- What is no whole number is refused by faults that no provider has. -/
theorem isExpected_of_toInt {f : Fault} (h : q.toInt = .error f) : isExpected f = false := by
  unfold Quantity.toInt at h
  split at h
  · cases h
  · split at h
    · cases h
    · obtain rfl := Except.error.inj h
      split <;> rfl

end Quantities

section Files

def Garbled (file : File) (f : Fault) : Prop :=
  file.present = .ok true ∧
    ∃ bs e, file.octets = .ok bs ∧ Text.utf8? bs = .error e ∧ f = ⟨.undecodable, e.message⟩

variable {file : File}

theorem isExpected_of_system {f : Fault} (h : f.family = .system) : isExpected f = true := by
  rw [isExpected, h]

theorem caught_present (h : file.Documented) : Caught isExpected file.present := by
  intro f hf
  exact isExpected_of_system (h.present f hf)

theorem text_eq (file : File) : file.text = file.octets >>= fun bs =>
    match Text.utf8? bs with
    | .ok s => .ok (String.ofList (Text.unifyLineEnds s.toList))
    | .error e => .error ⟨.undecodable, e.message⟩ :=
  rfl

theorem raises_text_iff (h : file.Documented) {f : Fault} : Raises isExpected file.text f ↔
    ∃ bs e, file.octets = .ok bs ∧ Text.utf8? bs = .error e ∧ f = ⟨.undecodable, e.message⟩ := by
  have hoctets : Caught isExpected file.octets := fun f hf =>
    isExpected_of_system (h.octets f hf)
  rw [text_eq, hoctets.raises_bind_iff]
  constructor
  · rintro ⟨bs, hbs, hraises⟩
    cases he : Text.utf8? bs with
    | ok s =>
      rw [he] at hraises
      exact absurd hraises (caught_ok _).not_raises
    | error e =>
      rw [he] at hraises
      exact ⟨bs, e, hbs, he, (Except.error.inj hraises.1).symm⟩
  · rintro ⟨bs, e, hbs, he, rfl⟩
    refine ⟨bs, hbs, ?_⟩
    rw [he]
    exact ⟨rfl, rfl⟩

theorem raises_if_present_iff (h : file.Documented) {read : String → α} {other : Answer α} {f : Fault} :
    Raises isExpected (do if ← file.present then return read (← file.text) else other) f ↔
      Garbled file f ∨ file.present = .ok false ∧ Raises isExpected other f := by
  rw [(caught_present h).raises_bind_iff]
  constructor
  · rintro ⟨b, hb, hraises⟩
    cases b with
    | true =>
      obtain htext | ⟨t, -, hread⟩ := raises_bind_iff.1 hraises
      · exact .inl ⟨hb, (raises_text_iff h).1 htext⟩
      · exact absurd hread (caught_ok _).not_raises
    | false => exact .inr ⟨hb, hraises⟩
  · rintro (⟨hb, hgarbled⟩ | ⟨hb, hraises⟩)
    · exact ⟨true, hb, raises_bind_iff.2 (.inl ((raises_text_iff h).2 hgarbled))⟩
    · exact ⟨false, hb, hraises⟩

theorem raises_of_present_iff (h : file.Documented) {read : String → α} {default : α} {f : Fault} :
    Raises isExpected (do if ← file.present then return read (← file.text) else return default) f ↔
      Garbled file f := by
  apply (raises_if_present_iff h).trans
  apply or_iff_left
  rintro ⟨-, hraises⟩
  exact (caught_ok default).not_raises hraises

theorem family_noSuchFile (path : AnyText) : (Fault.noSuchFile path).family = .system := rfl

theorem documented_missing (path : String) : (File.missing path).Documented := by
  refine ⟨nofun, fun e he => ?_⟩
  obtain rfl := Except.error.inj he
  exact family_noSuchFile path

theorem isExpected_missingProvider (name : String) : isExpected (Host.missingProvider name) = true :=
  rfl

end Files

end Collect

open Collect

theorem Host.documented_ofFiles {hostname : AnyText} {uname : Uname} {time : Binary64}
    {files : Entries File} (htime : time.isFinite = true) (hfiles : ∀ m ∈ files, m.2.Documented) :
    (Host.ofFiles (.ok hostname) uname (.decimal time) files).Documented where
  time := ⟨time, rfl, htime⟩
  hostname := provides_ok trivial
  uname := provides_ok trivial
  processor := provides_ok trivial
  machine := provides_ok trivial
  file path := by
    show ((files.get? path).getD (.missing path)).Documented
    cases hget : files.get? path with
    | none => exact documented_missing path
    | some file =>
      obtain ⟨m, hm, rfl⟩ := Option.map_eq_some_iff.1 hget
      exact hfiles m (List.mem_of_find?_eq_some hm)
  inodes path := provides_error (isExpected_of_system (family_noSuchFile path))
  cpuFrequency := provides_error (isExpected_missingProvider _)
  cpuCount := provides_error (isExpected_missingProvider _)
  bootTime := provides_error (isExpected_missingProvider _)
  pids := provides_error (isExpected_missingProvider _)
  mounts := provides_error (isExpected_missingProvider _)
  diskUsage _ := provides_error (isExpected_missingProvider _)
  ram := provides_error (isExpected_missingProvider _)
  swap := provides_error (isExpected_missingProvider _)
  sensors := nofun
  netCounters := provides_error (isExpected_missingProvider _)
  process := provides_error (isExpected_missingProvider _)

end ClusterHealth
