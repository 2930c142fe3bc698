import ClusterHealth.Collect.Section
import ClusterHealth.Host.Files
import ClusterHealth.Proofs.Collect.Settling
import ClusterHealth.Proofs.Report.Checking

namespace ClusterHealth.Collect

open ClusterHealth.Metric

section Snapshots

variable {address domain : String} {h : Host} {x : Answer α} {c : Collected α}

inductive Explained (address : String) : Snapshot α → Prop
  | success (payload : α) : Explained address (.success address payload)
  | failure {error : AnyText} : error ≠ "" → Explained address (.failure address error)

theorem name_ne_empty (k : FaultKind) : k.name ≠ "" := by
  cases k <;> decide

theorem describe_ne_empty (f : Fault) : f.describe ≠ "" := by
  rw [Fault.describe]
  split
  · exact fun h => name_ne_empty f.kind (AnyText.plain.inj h)
  · assumption

theorem explained_settle (h : settle domain address x = .ok c) : Explained address c.snapshot := by
  cases x with
  | ok payload =>
    cases h
    exact .success payload
  | error f =>
    rw [settle] at h
    split at h
    · cases h
      exact .failure (describe_ne_empty f)
    · cases h

theorem explained_onLinux {x : Answer (Collected α)}
    (hx : x = .ok c → Explained address c.snapshot) (hc : onLinux address h x = .ok c) :
    Explained address c.snapshot := by
  rw [onLinux] at hc
  split at hc
  · exact hx hc
  · cases hc
    exact .failure (by simp [toString])

theorem explained_cpus {c : Collected Cpus} (hc : cpus address h = .ok c) :
    Explained address c.snapshot :=
  explained_settle hc

theorem explained_partitions {c : Collected Partitions} (hc : partitions address h = .ok c) :
    Explained address c.snapshot := by
  refine explained_onLinux (fun hmounts => ?_) hc
  split at hmounts
  · exact explained_settle hmounts
  · obtain ⟨ps, -, hps⟩ := exists_of_bind_eq_ok hmounts
    cases hps
    exact .success _

theorem explained_os {c : Collected OsInfo} (hc : os address h = .ok c) :
    Explained address c.snapshot :=
  explained_onLinux explained_settle hc

theorem explained_memory {c : Collected Memory} (hc : memory address h = .ok c) :
    Explained address c.snapshot := by
  rw [memory] at hc
  split at hc
  · exact explained_settle hc
  · obtain ⟨_, -, hc⟩ := exists_of_bind_eq_ok hc
    obtain ⟨_, -, hc⟩ := exists_of_bind_eq_ok hc
    obtain ⟨_, -, hc⟩ := exists_of_bind_eq_ok hc
    obtain ⟨_, -, hc⟩ := exists_of_bind_eq_ok hc
    cases hc
    exact .success _

theorem explained_process {c : Collected ProcessInfo} (hc : process address h = .ok c) :
    Explained address c.snapshot :=
  explained_settle hc

inductive Tagged (address : String) (fields : List String) : Members → Prop
  | failure {error : AnyText} : error ≠ "" →
      Tagged address fields [("addr", .str address), ("error", .str error)]
  | success {payload : Members} : payload.names = fields.map .plain → "addr" ∉ fields → "error" ∉ fields →
      Tagged address fields (("addr", .str address) :: payload)

end Snapshots

inductive Part
  | cpus
  | partitions
  | osinfo
  | meminfo
  | procinfo
deriving DecidableEq

namespace Part

def type : Part → DataType
  | cpus => .sysCpu
  | partitions => .sysDriveHw
  | osinfo => .sysOsInfo
  | meminfo => .sysMem
  | procinfo => .sysProcess

def records : Part → SysSection → List Members
  | cpus, s => s.cpus
  | partitions, s => s.partitions
  | osinfo, s => s.osinfo
  | meminfo, s => s.meminfo
  | procinfo, s => s.procinfo

def sectionOf (rs : Part → List Members) : SysSection :=
  ⟨rs cpus, rs partitions, rs osinfo, rs meminfo, rs procinfo⟩

@[simp] theorem records_sectionOf (rs : Part → List Members) (p : Part) :
    p.records (sectionOf rs) = rs p := by
  cases p <;> rfl

def fields : Part → List String
  | cpus => ["cpus"]
  | partitions => ["partitions"]
  | osinfo => ["info", "sensors"]
  | meminfo => ["total", "available", "swap_space_total", "swap_space_free"]
  | procinfo =>
    ["pid", "is_background", "cpu_percent", "children_pids", "cmd_line", "num_connections",
      "create_time", "cwd", "exec_path", "gids", "io_counters", "net_io_counters", "is_running",
      "mem_info", "mem_maps", "mem_percent", "name", "nice", "num_ctx_switches", "num_fds",
      "num_threads", "page_faults", "ppid", "status", "tgid", "times", "uids", "username", "rlimit"]

def wire [Record α] (x : Answer (Collected α)) : Answer Members := x.map fun c => c.snapshot.flatten

def record (address : String) (h : Host) : Part → Answer Members
  | cpus => wire (Collect.cpus address h)
  | partitions => wire (Collect.partitions address h)
  | osinfo => wire (os address h)
  | meminfo => wire (memory address h)
  | procinfo => wire (process address h)

variable {address : String} {types : List DataType} {h : Host} {p : Part} {r : Members}

theorem addr_not_mem_fields (p : Part) : "addr" ∉ p.fields := by
  cases p <;> decide

theorem error_not_mem_fields (p : Part) : "error" ∉ p.fields := by
  cases p <;> decide

theorem tagged_wire [Record α] {x : Answer (Collected α)}
    (hx : ∀ c, x = .ok c → Explained address c.snapshot)
    (hfields : ∀ payload : α, (Record.members payload).names = p.fields.map .plain)
    (hr : wire x = .ok r) : Tagged address p.fields r := by
  obtain ⟨c, hc, rfl⟩ := map_eq_ok_iff.1 hr
  have hc := hx c hc
  generalize c.snapshot = s at hc
  cases hc with
  | success payload => exact .success (hfields payload) p.addr_not_mem_fields p.error_not_mem_fields
  | failure herror => exact .failure herror

theorem tagged (hr : p.record address h = .ok r) : Tagged address p.fields r := by
  cases p with
  | cpus => exact tagged_wire (fun _ => explained_cpus) (fun _ => rfl) hr
  | partitions => exact tagged_wire (fun _ => explained_partitions) (fun _ => rfl) hr
  | osinfo => exact tagged_wire (fun _ => explained_os) (fun _ => rfl) hr
  | meminfo => exact tagged_wire (fun _ => explained_memory) (fun _ => rfl) hr
  | procinfo => exact tagged_wire (fun _ => explained_process) (fun _ => rfl) hr

end Part

section Assembly

variable {address : String} {types more : List DataType} {h other : Host} {s t : SysSection} {p : Part}
  {r : Members} {rs : List Members}

def Filled (address : String) (types : List DataType) (h : Host) (p : Part) (rs : List Members) : Prop :=
  if p.type ∈ types then ∃ r, p.record address h = .ok r ∧ rs = [r] else rs = []

theorem Filled.mem_iff (hrs : Filled address types h p rs) :
    r ∈ rs ↔ p.type ∈ types ∧ p.record address h = .ok r := by
  unfold Filled at hrs
  split at hrs
  · next hasked =>
    obtain ⟨r', hr', rfl⟩ := hrs
    simp [hasked, hr', eq_comm]
  · next hasked => simp [hasked, hrs]

theorem Filled.of_record_eq (hp : p.record address other = p.record address h) {rs' : List Members}
    (hrs : Filled address types h p rs) (hrs' : Filled address types other p rs') : rs' = rs := by
  unfold Filled at hrs hrs'
  rw [hp] at hrs'
  split at hrs
  · next hasked =>
    rw [if_pos hasked] at hrs'
    obtain ⟨r, hr, rfl⟩ := hrs
    obtain ⟨r', hr', rfl⟩ := hrs'
    rw [Except.ok.inj (hr.symm.trans hr')]
  · next hasked =>
    rw [if_neg hasked] at hrs'
    rw [hrs, hrs']

theorem answer_recordsOf_iff [Record α] {d : DataType} {x : Answer (Collected α)} :
    (recordsOf types d x).answer = .ok rs ↔
      if d ∈ types then ∃ r, Part.wire x = .ok r ∧ rs = [r] else rs = [] := by
  unfold recordsOf
  by_cases hd : d ∈ types
  · rw [if_pos hd, if_pos (List.contains_iff_mem.2 hd)]
    cases x <;> simp [Part.wire, Except.map, eq_comm]
  · rw [if_neg hd, if_neg (mt List.contains_iff_mem.1 hd)]
    simp [pure, eq_comm]

theorem answer_bind_iff {x : Logged α} {f : α → Logged β} {b : β} :
    (x >>= f).answer = .ok b ↔ ∃ a, x.answer = .ok a ∧ (f a).answer = .ok b := by
  simp only [bind]
  cases x.answer <;> simp

theorem answer_bind_of_ok {x : Logged α} {a : α} (h : x.answer = .ok a) (f : α → Logged β) :
    (x >>= f).answer = (f a).answer := by
  simp only [bind, h]

theorem answer_sysSection_iff :
    (sysSection address types h).answer = .ok s ↔ ∀ p : Part, Filled address types h p (p.records s) := by
  simp only [sysSection, answer_bind_iff, answer_recordsOf_iff]
  constructor
  · rintro ⟨cpus, hcpus, partitions, hpartitions, osinfo, hosinfo, meminfo, hmeminfo, procinfo, hprocinfo,
      hs⟩
    cases hs
    intro p
    cases p with
    | cpus => exact hcpus
    | partitions => exact hpartitions
    | osinfo => exact hosinfo
    | meminfo => exact hmeminfo
    | procinfo => exact hprocinfo
  · intro hs
    exact ⟨_, hs .cpus, _, hs .partitions, _, hs .osinfo, _, hs .meminfo, _, hs .procinfo, rfl⟩

def Quiet (address : String) (h : Host) : Prop := ∀ p : Part, ∃ r, p.record address h = .ok r

theorem exists_filled (hquiet : Quiet address h) (types : List DataType) (p : Part) :
    ∃ rs, Filled address types h p rs := by
  unfold Filled
  split
  · obtain ⟨r, hr⟩ := hquiet p
    exact ⟨[r], r, hr, rfl⟩
  · exact ⟨[], rfl⟩

theorem exists_sysSection (hquiet : Quiet address h) (types : List DataType) :
    ∃ s, (sysSection address types h).answer = .ok s := by
  choose rs hrs using exists_filled hquiet types
  exact ⟨Part.sectionOf rs, answer_sysSection_iff.2 fun p => by rw [Part.records_sectionOf]; exact hrs p⟩

theorem exists_record_of_asked (hs : (sysSection address types h).answer = .ok s) (hp : p.type ∈ types) :
    ∃ r, p.records s = [r] ∧ p.record address h = .ok r := by
  have hfilled := answer_sysSection_iff.1 hs p
  rw [Filled, if_pos hp] at hfilled
  obtain ⟨r, hr, hrecords⟩ := hfilled
  exact ⟨r, hrecords, hr⟩

structure Assembled (address : String) (types : List DataType) (h : Host) (s : SysSection) : Prop where
  asked : ∀ p : Part, p.type ∈ types → ∃ r, p.records s = [r] ∧ Tagged address p.fields r
  unasked : ∀ p : Part, p.type ∉ types → p.records s = []
  /-- Each part is the one that is got without the others. -/
  alone : ∀ p : Part, p.type ∈ types → ∃ t, (sysSection address [p.type] h).answer = .ok t ∧
    p.records t = p.records s
  union : ∀ more, ∃ t u, (sysSection address more h).answer = .ok t ∧
    (sysSection address (types ++ more) h).answer = .ok u ∧
      ∀ (p : Part) (r : Members), r ∈ p.records u ↔ r ∈ p.records s ∨ r ∈ p.records t
  /-- A part stays as it is on hosts that differ from this one in what the others are made of. -/
  independent : ∀ other t, (sysSection address types other).answer = .ok t →
    ∀ p : Part, p.record address other = p.record address h → p.records t = p.records s

theorem sysSection_assembles (hquiet : Quiet address h) (types : List DataType) :
    ∃ s, (sysSection address types h).answer = .ok s ∧ Assembled address types h s := by
  obtain ⟨s, hs⟩ := exists_sysSection hquiet types
  have hfilled := answer_sysSection_iff.1 hs
  refine ⟨s, hs, ?_, ?_, ?_, ?_, ?_⟩
  · intro p hp
    obtain ⟨r, hrecords, hr⟩ := exists_record_of_asked hs hp
    exact ⟨r, hrecords, p.tagged hr⟩
  · intro p hp
    have hempty := hfilled p
    rwa [Filled, if_neg hp] at hempty
  · intro p hp
    obtain ⟨t, ht⟩ := exists_sysSection hquiet [p.type]
    obtain ⟨r, hrecords, hr⟩ := exists_record_of_asked hs hp
    obtain ⟨r', hrecords', hr'⟩ := exists_record_of_asked ht (List.mem_singleton_self p.type)
    refine ⟨t, ht, ?_⟩
    rw [hrecords, hrecords', Except.ok.inj (hr.symm.trans hr')]
  · intro more
    obtain ⟨t, ht⟩ := exists_sysSection hquiet more
    obtain ⟨u, hu⟩ := exists_sysSection hquiet (types ++ more)
    refine ⟨t, u, ht, hu, fun p r => ?_⟩
    rw [(answer_sysSection_iff.1 hu p).mem_iff, (hfilled p).mem_iff, (answer_sysSection_iff.1 ht p).mem_iff,
      List.mem_append, or_and_right]
  · intro other t ht p hp
    exact (hfilled p).of_record_eq hp (answer_sysSection_iff.1 ht p)

def bareHost : Host := .ofFiles (.ok "node-1") ⟨"Linux", "6.1", "x86_64"⟩ (.whole 0) []

theorem quiet_bareHost (address : String) : Quiet address bareHost := by
  intro p
  cases p <;> exact ⟨_, rfl⟩

theorem sysSection_assembles_bareHost : Quiet "node-1" bareHost ∧
    ∃ s, (sysSection "node-1" [.sysMem, .perfDrive, .sysMem] bareHost).answer = .ok s ∧
      s.cpus = [] ∧ s.meminfo = ([[("addr", .str "node-1"),
        ("error", .str "module 'psutil' has no attribute 'virtual_memory'")]] : List Members) := by
  have hquiet := quiet_bareHost "node-1"
  obtain ⟨s, hs, hassembled⟩ := sysSection_assembles hquiet [.sysMem, .perfDrive, .sysMem]
  refine ⟨hquiet, s, hs, hassembled.unasked .cpus (by decide), ?_⟩
  obtain ⟨r, hrecords, hr⟩ := exists_record_of_asked hs (p := .meminfo) (by decide)
  rw [← Except.ok.inj hr] at hrecords
  exact hrecords

end Assembly

end ClusterHealth.Collect
