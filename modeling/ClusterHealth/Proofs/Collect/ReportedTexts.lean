import ClusterHealth.Proofs.Collect.ReportedNumbers
import ClusterHealth.Proofs.Report.Dumping

namespace ClusterHealth

def Unbroken (t : AnyText) : Prop := t.isPlain = true

namespace AnyText

@[simp] theorem isPlain_plain (s : String) : (plain s).isPlain = true := rfl

theorem isPlain_append {t u : AnyText} (ht : t.isPlain = true) (hu : u.isPlain = true) :
    (t ++ u).isPlain = true := by
  obtain ⟨s, rfl⟩ := exists_of_isPlain ht
  obtain ⟨r, rfl⟩ := exists_of_isPlain hu
  rfl

theorem isPlain_lower {t : AnyText} (ht : t.isPlain = true) : t.lower.isPlain = true := by
  obtain ⟨s, rfl⟩ := exists_of_isPlain ht
  rfl

theorem isPlain_intercalate {sep : AnyText} {ts : List AnyText} (hsep : sep.isPlain = true)
    (hts : ∀ t ∈ ts, t.isPlain = true) : (intercalate sep ts).isPlain = true := by
  induction ts with
  | nil => rfl
  | cons t ts ih =>
    obtain ⟨ht, hts⟩ := List.forall_mem_cons.1 hts
    cases ts with
    | nil => exact ht
    | cons u us => exact isPlain_append (isPlain_append ht hsep) (ih hts)

end AnyText

def Fault.isPlain (f : Fault) : Bool := f.text.isPlain

theorem Fault.isPlain_describe {f : Fault} (hf : f.isPlain = true) : f.describe.isPlain = true := by
  rw [describe]
  split
  · rfl
  · exact hf

structure Uname.IsPlain (u : Uname) : Prop where
  system : Unbroken u.system
  release : Unbroken u.release
  machine : Unbroken u.machine

structure Mount.IsPlain (m : Mount) : Prop where
  device : Unbroken m.device
  mountpoint : Unbroken m.mountpoint
  fsType : Unbroken m.fsType
  options : Unbroken m.options

namespace Collect

open ClusterHealth.Metric
open Json (membersPlain)

/-- A provider's faults end in the record of a failure, so that their texts count like its values. -/
structure Tells (told : α → Prop) (x : Answer α) : Prop where
  values : Gives x told
  faults : Caught Fault.isPlain x

def Plain (ms : Members) : Prop := membersPlain ms = true

structure PlainTimes (times : CpuTimes) : Prop where
  user : Caught Fault.isPlain times.user
  system : Caught Fault.isPlain times.system
  all : Plain times.all

structure PlainProcess (p : HostProcess) : Prop where
  children : Caught Fault.isPlain p.children
  ppid : Caught Fault.isPlain p.ppid
  cmdline : Tells (∀ w ∈ ·, Unbroken w) p.cmdline
  netConnections : Caught Fault.isPlain p.netConnections
  createTime : Caught Fault.isPlain p.createTime
  cwd : Tells Unbroken p.cwd
  exe : Tells Unbroken p.exe
  gids : Caught Fault.isPlain p.gids
  ioCounters : Tells Plain p.ioCounters
  isRunning : Caught Fault.isPlain p.isRunning
  memoryInfo : Tells Plain p.memoryInfo
  memoryMaps : Tells (∀ ms ∈ ·, Plain ms) p.memoryMaps
  memoryPercent : Caught Fault.isPlain p.memoryPercent
  name : Tells Unbroken p.name
  nice : Caught Fault.isPlain p.nice
  numCtxSwitches : Tells Plain p.numCtxSwitches
  numFds : Caught Fault.isPlain p.numFds
  numThreads : Caught Fault.isPlain p.numThreads
  status : Tells Unbroken p.status
  cpuTimes : Tells PlainTimes p.cpuTimes
  uids : Caught Fault.isPlain p.uids
  username : Tells Unbroken p.username
  limit : ∀ name, Caught Fault.isPlain (p.limit name)

/-- No text that the host gives is broken, whatever the octets of its files. -/
structure PlainHost (h : Host) : Prop where
  hostname : Tells Unbroken h.hostname
  uname : Tells Uname.IsPlain h.uname
  processor : Tells Unbroken h.processor
  machine : Tells Unbroken h.machine
  present : ∀ path, Caught Fault.isPlain (h.file path).present
  octets : ∀ path, Caught Fault.isPlain (h.file path).octets
  inodes : ∀ mountpoint, Caught Fault.isPlain (h.inodes mountpoint)
  cpuFrequency : Caught Fault.isPlain h.cpuFrequency
  cpuCount : Caught Fault.isPlain h.cpuCount
  bootTime : Caught Fault.isPlain h.bootTime
  pids : Caught Fault.isPlain h.pids
  mounts : Tells (∀ m ∈ ·, m.IsPlain) h.mounts
  diskUsage : ∀ mountpoint, Caught Fault.isPlain (h.diskUsage mountpoint)
  ram : Caught Fault.isPlain h.ram
  swap : Caught Fault.isPlain h.swap
  sensors : ∀ chips ∈ h.sensors, Tells (∀ chip ∈ ·, Unbroken chip.1 ∧ ∀ r ∈ chip.2, Unbroken r.label) chips
  netCounters : Tells (∀ c ∈ ·, Unbroken c.1 ∧ Plain c.2) h.netCounters
  process : Tells PlainProcess h.process

section Answers

variable {told : α → Prop} {x : Answer α}

theorem tells_ok {a : α} (ha : told a) : Tells told (.ok a) := by
  refine ⟨?_, caught_ok a⟩
  rintro b ⟨⟩
  exact ha

theorem tells_error {f : Fault} (hf : f.isPlain = true) : Tells told (.error f) := by
  refine ⟨?_, caught_error hf⟩
  rintro a ⟨⟩

theorem Tells.bind {g : α → Answer β} {told : β → Prop} (hx : Caught Fault.isPlain x)
    (hg : ∀ a, x = .ok a → Tells told (g a)) : Tells told (x >>= g) :=
  ⟨.bind fun a ha => (hg a ha).values, hx.bind fun a ha => (hg a ha).faults⟩

theorem Tells.mapM {f : α → Answer β} {told : β → Prop} {as : List α} (hf : ∀ a ∈ as, Tells told (f a)) :
    Tells (∀ b ∈ ·, told b) (as.mapM f) :=
  ⟨.mapM fun a ha => (hf a ha).values, .mapM fun a ha => (hf a ha).faults⟩

end Answers

section Numbers

theorem caught_toInt (q : Quantity) : Caught Fault.isPlain q.toInt := by
  unfold Quantity.toInt
  split
  · exact caught_ok _
  · split
    · exact caught_ok _
    · refine caught_error ?_
      split <;> rfl

theorem caught_toBinary64 (q : Quantity) : Caught Fault.isPlain q.toBinary64 := by
  cases q with
  | whole n =>
    rw [Quantity.toBinary64]
    split
    · exact caught_ok _
    · exact caught_error rfl
  | decimal x => exact caught_ok x

theorem caught_combine (onWhole : Int → Int → Int) (onDecimal : Binary64 → Binary64 → Binary64)
    (q r : Quantity) : Caught Fault.isPlain (Quantity.combine onWhole onDecimal q r) := by
  unfold Quantity.combine
  split
  · exact caught_ok _
  · exact (caught_toBinary64 _).bind fun x _ => (caught_toBinary64 _).bind fun y _ => caught_ok _

end Numbers

section Records

@[simp] theorem plain_nil : Plain [] := rfl

@[simp] theorem plain_cons {name : AnyText} {v : Json} {ms : Members} :
    Plain ((name, v) :: ms) ↔ name.isPlain = true ∧ v.isPlain = true ∧ Plain ms := by
  simp [Plain, membersPlain]

@[simp] theorem isPlain_obj {ms : Members} : (Json.obj ms).isPlain = true ↔ Plain ms := Iff.rfl

@[simp] theorem isPlain_str {t : AnyText} : (Json.str t).isPlain = true ↔ Unbroken t := Iff.rfl

@[simp] theorem unbroken_plain (s : String) : Unbroken (.plain s) := rfl

@[simp] theorem isPlain_bool (b : Bool) : (Json.bool b).isPlain = true := rfl

@[simp] theorem isPlain_int (n : Int) : (Json.int n).isPlain = true := rfl

@[simp] theorem isPlain_float (x : Binary64) : (Json.float x).isPlain = true := rfl

@[simp] theorem isPlain_optionalNumber (q : Option Quantity) : (optionalNumber q).isPlain = true := by
  cases q with
  | none => rfl
  | some q => cases q <;> rfl

@[simp] theorem isPlain_texts (ss : List String) : (texts ss).isPlain = true :=
  Json.itemsPlain_iff.2 <| by simp

@[simp] theorem isPlain_wholes (ns : List Int) : (wholes ns).isPlain = true :=
  Json.itemsPlain_iff.2 <| by simp

@[simp] theorem isPlain_objs {rs : List Members} :
    (Json.arr (rs.map .obj)).isPlain = true ↔ ∀ ms ∈ rs, Plain ms :=
  Json.itemsPlain_iff.trans <| by simp

@[simp] theorem isPlain_records [Record α] {rs : List α} :
    (records rs).isPlain = true ↔ ∀ r ∈ rs, Plain (Record.members r) :=
  Json.itemsPlain_iff.trans <| by simp

theorem plain_cpu {c : Cpu} (hname : Unbroken c.modelName) : Plain (Record.members c) := by
  simp [Record.members, hname]

theorem plain_memory (m : Memory) : Plain (Record.members m) := by
  simp [Record.members]

end Records

section Collections

variable {h : Host} {address : String}

theorem plain_failure [Record α] {error : AnyText} (herror : Unbroken error) :
    Plain (.failure address error : Snapshot α).flatten := by
  simp [Snapshot.flatten, herror]

theorem gives_plain_settle [Record α] {x : Answer α}
    (hx : Tells (fun payload => Plain (Record.members payload)) x) :
    Gives (settle domain address x) fun c => Plain c.snapshot.flatten := by
  refine gives_settle (fun payload hp => ?_) fun f hf => ?_
  · simpa [Snapshot.flatten] using hx.values payload hp
  · exact plain_failure (Fault.isPlain_describe (hx.faults f hf))

theorem catchesTexts_isPlain : CatchesTexts Fault.isPlain where
  undecodable _ := rfl
  noParenthesis := rfl
  noField := rfl
  notANumeral _ := rfl
  tooManyDigits _ := rfl
  noTgid _ := rfl

theorem PlainHost.ifPresent (hh : PlainHost h) (path : String) {read : String → α} {other : Answer α}
    (hother : Caught Fault.isPlain other) : Caught Fault.isPlain
      (do if ← (h.file path).present then return read (← (h.file path).text) else other) := by
  refine (hh.present path).bind fun present _ => ?_
  split
  · exact (catchesTexts_isPlain.text (hh.octets path)).bind fun text _ => caught_ok _
  · exact hother

theorem tells_modelName (hh : PlainHost h) : Tells Unbroken (modelName h) := by
  refine .bind hh.processor.faults fun processor hprocessor => ?_
  split
  · exact hh.machine
  · exact tells_ok (hh.processor.values processor hprocessor)

theorem tells_fallbackCpu (hh : PlainHost h) :
    Tells (fun c => Plain (Record.members c)) (fallbackCpu h) := by
  refine .bind hh.cpuFrequency fun frequency _ => ?_
  refine .bind (tells_modelName hh).faults fun name hname => ?_
  have hmhz : Caught Fault.isPlain (megahertz frequency) := by
    cases frequency with
    | none => exact caught_ok 0
    | some q => exact caught_toBinary64 q
  refine .bind hmhz fun mhz _ => .bind hh.cpuCount fun count _ => tells_ok ?_
  exact plain_cpu ((tells_modelName hh).values name hname)

theorem caught_plain_processors (hh : PlainHost h) : Caught Fault.isPlain (processors h) :=
  hh.ifPresent _ (caught_ok [])

theorem gives_plain_cpus (hh : PlainHost h) :
    Gives (cpus address h) fun c => Plain c.snapshot.flatten := by
  refine gives_plain_settle (.bind (caught_plain_processors hh) fun ps _ => ?_)
  cases ps with
  | nil =>
    refine .bind (tells_fallbackCpu hh).faults fun c hc => tells_ok ?_
    simpa [Record.members] using (tells_fallbackCpu hh).values c hc
  | cons p ps =>
    refine tells_ok (plain_cons.2 ⟨rfl, isPlain_records.2 ?_, plain_nil⟩)
    intro c hc
    obtain ⟨package, -, rfl⟩ := List.mem_map.1 hc
    exact plain_cpu rfl

theorem caught_plain_partitionUsage (hh : PlainHost h) (m : Mount) :
    Caught Fault.isPlain (partitionUsage h m) := by
  refine (hh.diskUsage _).bind fun usage _ => Caught.bind ?_ fun inodes _ => caught_ok _
  refine (hh.inodes _).bind fun c _ => ?_
  exact (caught_toInt _).bind fun total _ => (caught_toInt _).bind fun free _ => caught_ok _

theorem gives_partitionEntry (hh : PlainHost h) {m : Mount} (hm : m.IsPlain) :
    Gives (partitionEntry h m) fun e => Plain (Record.members e) := by
  intro e he
  cases hu : partitionUsage h m with
  | error f =>
    rw [partitionEntry, hu] at he
    dsimp only at he
    split at he
    · cases he
      have htext : Unbroken f.text := caught_plain_partitionUsage hh m f hu
      simp [Record.members, hm.device, htext]
    · cases he
  | ok u =>
    obtain ⟨usage, inodeTotal, inodeFree⟩ := u
    rw [partitionEntry, hu] at he
    obtain ⟨total, -, he⟩ := exists_of_bind_eq_ok he
    obtain ⟨free, -, he⟩ := exists_of_bind_eq_ok he
    cases he
    simp [Record.members, hm.device, hm.mountpoint, hm.fsType, hm.options]

theorem gives_plain_partitions (hh : PlainHost h) :
    Gives (partitions address h) fun c => Plain c.snapshot.flatten := by
  refine gives_onLinux ?_ (plain_failure rfl)
  cases hmounts : h.mounts with
  | error f => exact gives_plain_settle (tells_error (hh.mounts.faults f hmounts))
  | ok mounts =>
    refine .bind fun es hes => ?_
    rintro c ⟨⟩
    have hentries := Gives.mapM fun m hm => gives_partitionEntry hh (hh.mounts.values mounts hmounts m hm)
    simpa [Snapshot.flatten, Record.members] using hentries es hes

theorem gives_plain_memory (hh : PlainHost h) :
    Gives (memory address h) fun c => Plain c.snapshot.flatten := by
  have hproviders : Caught Fault.isPlain (memoryProviders h) :=
    hh.ram.bind fun ram _ => hh.swap.bind fun swap _ => caught_ok _
  rw [memory]
  split
  · next f hf => exact gives_plain_settle (tells_error (hproviders f hf))
  · refine .bind fun total _ => .bind fun available _ => ?_
    refine .bind fun swapTotal _ => .bind fun swapFree _ => ?_
    rintro c ⟨⟩
    simp [Snapshot.flatten, plain_memory]

theorem caught_plain_release (hh : PlainHost h) : Caught Fault.isPlain (release h) :=
  hh.ifPresent _ (caught_ok [])

theorem caught_plain_hostIdFrom (hh : PlainHost h) (paths : List String) :
    Caught Fault.isPlain (hostIdFrom h paths) := by
  induction paths with
  | nil => exact caught_ok ""
  | cons path paths ih => exact hh.ifPresent path ih

theorem tells_hostInfo (hh : PlainHost h) : Tells (fun i => Plain (Record.members i)) (hostInfo h) := by
  refine .bind hh.uname.faults fun uname huname => .bind (caught_plain_release hh) fun fields _ => ?_
  refine .bind hh.bootTime fun q _ => .bind (caught_toInt q) fun bootTime _ => ?_
  refine .bind hh.hostname.faults fun hostname hhostname => .bind (caught_toInt _) fun now _ => ?_
  refine .bind hh.pids fun procs _ => .bind (caught_plain_hostIdFrom hh _) fun hostId _ => tells_ok ?_
  obtain ⟨hsystem, hrelease, hmachine⟩ := hh.uname.values uname huname
  have hsystem : Unbroken uname.system.lower := AnyText.isPlain_lower hsystem
  simp [Record.members, hh.hostname.values hostname hhostname, *]

theorem unbroken_sensorKey {chip label : AnyText} (hchip : Unbroken chip) (hlabel : Unbroken label) :
    Unbroken (sensorKey chip label) := by
  rw [sensorKey]
  split
  · exact hchip
  · exact AnyText.isPlain_append (AnyText.isPlain_append hchip rfl) hlabel

theorem tells_temperatures (hh : PlainHost h) :
    Tells (∀ t ∈ ·, Plain (Record.members t)) (temperatures h) := by
  unfold temperatures
  split
  · exact tells_ok nofun
  next chips hchips =>
  refine .bind (hh.sensors chips hchips).faults fun readings hreadings => ?_
  have hread : Tells (∀ ts ∈ ·, ∀ t ∈ ts, Plain (Record.members t))
      (readings.mapM fun chip => chip.2.mapM (temperature chip.1)) := by
    refine .mapM fun chip hchip => .mapM fun r hr => .bind (caught_toBinary64 _) fun x _ => tells_ok ?_
    obtain ⟨hname, hlabels⟩ := (hh.sensors chips hchips).values readings hreadings chip hchip
    simp [Record.members, unbroken_sensorKey hname (hlabels r hr)]
  refine .bind hread.faults fun tss htss => tells_ok fun t ht => ?_
  obtain ⟨ts, hts, ht⟩ := List.mem_flatten.1 ht
  exact hread.values tss htss ts hts t ht

theorem gives_plain_os (hh : PlainHost h) : Gives (os address h) fun c => Plain c.snapshot.flatten := by
  refine gives_onLinux (gives_plain_settle ?_) (plain_failure rfl)
  refine .bind (tells_hostInfo hh).faults fun info hinfo => ?_
  refine .bind (tells_temperatures hh).faults fun sensors hsensors => tells_ok ?_
  have hinfo := (tells_hostInfo hh).values info hinfo
  have hsensors := (tells_temperatures hh).values sensors hsensors
  exact plain_cons.2 ⟨rfl, hinfo, plain_cons.2 ⟨rfl, isPlain_records.2 hsensors, plain_nil⟩⟩

theorem caught_plain_cpuPercent {p : HostProcess} (hp : PlainProcess p) :
    Caught Fault.isPlain (cpuPercent h p) := by
  refine hp.cpuTimes.faults.bind fun times htimes => hp.createTime.bind fun created _ => ?_
  refine (caught_combine _ _ _ _).bind fun elapsed _ => ?_
  split
  · exact caught_ok 0
  have htimes := hp.cpuTimes.values times htimes
  refine htimes.user.bind fun user _ => htimes.system.bind fun system _ => ?_
  refine (caught_combine _ _ _ _).bind fun busy _ => ?_
  exact (caught_toBinary64 busy).bind fun x _ => (caught_toBinary64 elapsed).bind fun y _ => caught_ok _

theorem caught_plain_resourceLimits {p : HostProcess} (hp : PlainProcess p) :
    Caught Fault.isPlain (resourceLimits h p) :=
  .mapM fun name _ => (hp.limit name).bind fun limits _ =>
    (caught_toInt limits.1).bind fun _ _ => (caught_toInt limits.2).bind fun _ _ => caught_ok _

theorem tells_netCounters (hh : PlainHost h) : Tells (∀ ms ∈ ·, Plain ms) (netCounters h) := by
  refine .bind hh.netCounters.faults fun counters hcounters => tells_ok fun ms hms => ?_
  obtain ⟨⟨name, fields⟩, hmem, rfl⟩ := List.mem_map.1 hms
  obtain ⟨hname, hfields⟩ := hh.netCounters.values counters hcounters _ (List.mem_mergeSort.1 hmem)
  have hmembers : Plain (("name", .str name) :: fields) := plain_cons.2 ⟨rfl, hname, hfields⟩
  exact Json.membersPlain_iff.2 fun m hm => Json.membersPlain_iff.1 hmembers m (Entries.mem_ofList hm)

theorem tells_processInfo {p : HostProcess} (hh : PlainHost h) (hp : PlainProcess p) :
    Tells (fun info => Plain (Record.members info)) (processInfo h p) := by
  -- the questions in their order; of an answer without texts only its fault is of interest
  refine .bind (catchesTexts_isPlain.readStat (hh.octets _)) fun stat _ => ?_
  refine .bind (hp.children.orElse []) fun children _ => ?_
  refine .bind (hp.ppid.orElse 0) fun ppid _ => ?_
  refine .bind (catchesTexts_isPlain.statField stat 2) fun group _ => ?_
  refine .bind (catchesTexts_isPlain.statField stat 5) fun foreground _ => ?_
  refine .bind (caught_plain_cpuPercent hp) fun cpuPercent _ => ?_
  refine .bind hp.cmdline.faults fun cmdline hcmdline => ?_
  refine .bind hp.netConnections fun numConnections _ => ?_
  refine .bind hp.createTime fun seconds _ => .bind (caught_combine _ _ _ _) fun ms _ => ?_
  refine .bind (caught_toInt ms) fun createTime _ => ?_
  refine .bind hp.cwd.faults fun cwd hcwd => .bind hp.exe.faults fun exe hexe => ?_
  refine .bind hp.gids fun gids _ => .bind hp.ioCounters.faults fun ioCounters hio => ?_
  refine .bind (tells_netCounters hh).faults fun netIoCounters hnet => ?_
  refine .bind hp.isRunning fun isRunning _ => .bind hp.memoryInfo.faults fun memInfo hmem => ?_
  refine .bind hp.memoryMaps.faults fun memMaps hmaps => ?_
  refine .bind hp.memoryPercent fun percent _ => .bind (caught_toBinary64 percent) fun memPercent _ => ?_
  refine .bind hp.name.faults fun name hname => ?_
  refine .bind hp.nice fun priority _ => .bind (caught_toInt priority) fun nice _ => ?_
  refine .bind hp.numCtxSwitches.faults fun numCtxSwitches hswitches => ?_
  refine .bind hp.numFds fun numFds _ => .bind hp.numThreads fun numThreads _ => ?_
  refine .bind (catchesTexts_isPlain.statInt stat 7) fun minor _ => ?_
  refine .bind (catchesTexts_isPlain.statInt stat 9) fun major _ => ?_
  refine .bind (catchesTexts_isPlain.statInt stat 8) fun childMinor _ => ?_
  refine .bind (catchesTexts_isPlain.statInt stat 10) fun childMajor _ => ?_
  refine .bind hp.status.faults fun status hstatus => ?_
  refine .bind (catchesTexts_isPlain.tgid (hh.octets _)) fun tgid _ => ?_
  refine .bind hp.cpuTimes.faults fun times htimes => .bind hp.uids fun uids _ => ?_
  refine .bind hp.username.faults fun username husername => ?_
  refine .bind (caught_plain_resourceLimits hp) fun rlimit _ => tells_ok ?_
  have hcommand : Unbroken (AnyText.intercalate " " cmdline) :=
    AnyText.isPlain_intercalate rfl (hp.cmdline.values cmdline hcmdline)
  have hcounters : ∀ ms ∈ netIoCounters, Plain ms := (tells_netCounters hh).values netIoCounters hnet
  have hmapped : ∀ ms ∈ memMaps, Plain ms := hp.memoryMaps.values memMaps hmaps
  simpa [Record.members, hcommand, hp.cwd.values cwd hcwd, hp.exe.values exe hexe,
    hp.ioCounters.values ioCounters hio, hp.memoryInfo.values memInfo hmem, hp.name.values name hname,
    hp.numCtxSwitches.values numCtxSwitches hswitches, hp.status.values status hstatus,
    (hp.cpuTimes.values times htimes).all, hp.username.values username husername]
    using ⟨hcounters, hmapped⟩

theorem isPlain_asSystemFault {f : Fault} (hf : f.isPlain = true) : (asSystemFault f).isPlain = true := by
  have htext : (AnyText.plain "unreadable process stat: " ++ f.text).isPlain = true :=
    AnyText.isPlain_append rfl hf
  unfold asSystemFault
  split
  · exact htext
  · exact htext
  · exact hf

theorem gives_plain_process (hh : PlainHost h) :
    Gives (process address h) fun c => Plain c.snapshot.flatten := by
  have hinfo : Tells (fun info => Plain (Record.members info)) (h.process >>= processInfo h) :=
    .bind hh.process.faults fun p hp => tells_processInfo hh (hh.process.values p hp)
  refine gives_plain_settle ⟨fun info h => hinfo.values info (mapError_eq_ok_iff.1 h), fun f hf => ?_⟩
  obtain ⟨e, he, rfl⟩ := mapError_eq_error_iff.1 hf
  exact isPlain_asSystemFault (hinfo.faults e he)

theorem plain_record (hh : PlainHost h) {p : Part} {r : Members} (hr : p.record address h = .ok r) :
    Plain r := by
  cases p with
  | cpus =>
    obtain ⟨c, hc, rfl⟩ := map_eq_ok_iff.1 hr
    exact gives_plain_cpus hh c hc
  | partitions =>
    obtain ⟨c, hc, rfl⟩ := map_eq_ok_iff.1 hr
    exact gives_plain_partitions hh c hc
  | osinfo =>
    obtain ⟨c, hc, rfl⟩ := map_eq_ok_iff.1 hr
    exact gives_plain_os hh c hc
  | meminfo =>
    obtain ⟨c, hc, rfl⟩ := map_eq_ok_iff.1 hr
    exact gives_plain_memory hh c hc
  | procinfo =>
    obtain ⟨c, hc, rfl⟩ := map_eq_ok_iff.1 hr
    exact gives_plain_process hh c hc

end Collections

theorem isPlain_toJson {h : Host} {s : SysSection} (hh : PlainHost h)
    (hs : (sysSection address types h).answer = .ok s) : s.toJson.isPlain = true := by
  have hrecords (p : Part) : (Json.arr ((p.records s).map .obj)).isPlain = true := by
    refine isPlain_objs.2 fun r hr => ?_
    exact plain_record hh ((answer_sysSection_iff.1 hs p).mem_iff.1 hr).2
  rw [s.toJson_eq, Report.isPlain_finite, SysSection.collected, isPlain_obj]
  simp only [plain_cons]
  exact ⟨rfl, hrecords .cpus, rfl, hrecords .partitions, rfl, hrecords .osinfo, rfl, hrecords .meminfo,
    rfl, hrecords .procinfo, plain_nil⟩

end Collect

end ClusterHealth
