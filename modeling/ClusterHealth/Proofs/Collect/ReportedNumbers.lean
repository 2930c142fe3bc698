import ClusterHealth.Proofs.Collect.Assembly
import ClusterHealth.Proofs.Collect.StatFile
import ClusterHealth.Proofs.Report.Holding

namespace ClusterHealth

namespace Json

mutual

def finiteOutside (own : List AnyText) : Json → Bool
  | .float x => x.isFinite
  | .arr vs => itemsFiniteOutside own vs
  | .obj ms => membersFiniteOutside own ms
  | _ => true

def itemsFiniteOutside (own : List AnyText) : List Json → Bool
  | [] => true
  | v :: rest => v.finiteOutside own && itemsFiniteOutside own rest

def membersFiniteOutside (own : List AnyText) : List (AnyText × Json) → Bool
  | [] => true
  | (name, v) :: rest => (own.contains name || v.finiteOutside own) && membersFiniteOutside own rest

end

section Outside

variable {own : List AnyText}

@[simp] theorem finiteOutside_bool (b : Bool) : (Json.bool b).finiteOutside own = true := rfl

@[simp] theorem finiteOutside_int (n : Int) : (Json.int n).finiteOutside own = true := rfl

@[simp] theorem finiteOutside_float (x : Binary64) : (Json.float x).finiteOutside own = x.isFinite := rfl

@[simp] theorem finiteOutside_str (s : AnyText) : (Json.str s).finiteOutside own = true := rfl

theorem itemsFiniteOutside_iff {vs : List Json} :
    itemsFiniteOutside own vs = true ↔ ∀ v ∈ vs, v.finiteOutside own = true := by
  induction vs with
  | nil => simp [itemsFiniteOutside]
  | cons v vs ih => simp [itemsFiniteOutside, ih]

mutual

theorem finiteOutside_of_allFinite (v : Json) (h : v.allFinite = true) : v.finiteOutside own = true := by
  match v with
  | .null | .bool _ | .int _ | .str _ => rfl
  | .float x => exact h
  | .arr vs => exact itemsFiniteOutside_of_itemsFinite vs h
  | .obj ms => exact membersFiniteOutside_of_membersFinite ms h

theorem itemsFiniteOutside_of_itemsFinite (vs : List Json) (h : itemsFinite vs = true) :
    itemsFiniteOutside own vs = true := by
  match vs with
  | [] => rfl
  | v :: rest =>
    obtain ⟨hv, hrest⟩ := Bool.and_eq_true_iff.1 h
    exact Bool.and_eq_true_iff.2
      ⟨finiteOutside_of_allFinite v hv, itemsFiniteOutside_of_itemsFinite rest hrest⟩

theorem membersFiniteOutside_of_membersFinite (ms : List (AnyText × Json)) (h : membersFinite ms = true) :
    membersFiniteOutside own ms = true := by
  match ms with
  | [] => rfl
  | (_, v) :: rest =>
    obtain ⟨hv, hrest⟩ := Bool.and_eq_true_iff.1 h
    exact Bool.and_eq_true_iff.2 ⟨Bool.or_eq_true_iff.2 (.inr (finiteOutside_of_allFinite v hv)),
      membersFiniteOutside_of_membersFinite rest hrest⟩

end

end Outside

end Json

structure SensorReading.IsFinite (r : SensorReading) : Prop where
  current : r.current.toJson.allFinite = true
  high : (Metric.optionalNumber r.high).allFinite = true
  critical : (Metric.optionalNumber r.critical).allFinite = true

namespace Collect

open ClusterHealth.Metric
open Json (allFinite membersFinite finiteOutside membersFiniteOutside)

structure FiniteProcess (p : HostProcess) : Prop where
  ioCounters : Gives p.ioCounters fun ms => membersFinite ms = true
  memoryInfo : Gives p.memoryInfo fun ms => membersFinite ms = true
  memoryMaps : Gives p.memoryMaps fun maps => ∀ ms ∈ maps, membersFinite ms = true
  memoryPercent : Gives p.memoryPercent fun q => q.toJson.allFinite = true
  numCtxSwitches : Gives p.numCtxSwitches fun ms => membersFinite ms = true
  cpuTimes : Gives p.cpuTimes fun times => membersFinite times.all = true

structure FiniteHost (h : Host) : Prop where
  sensors : ∀ chips ∈ h.sensors, Gives chips fun chips => ∀ chip ∈ chips, ∀ r ∈ chip.2, r.IsFinite
  netCounters : Gives h.netCounters fun counters => ∀ c ∈ counters, membersFinite c.2 = true
  process : Gives h.process FiniteProcess

def ownNumbers : List AnyText := ["mhz", "cpu_percent"]

theorem mhz_mem_ownNumbers : AnyText.plain "mhz" ∈ ownNumbers := .head _

theorem cpu_percent_mem_ownNumbers : AnyText.plain "cpu_percent" ∈ ownNumbers := .tail _ (.head _)

def Clean (ms : Members) : Prop := membersFiniteOutside ownNumbers ms = true

section Records

@[simp] theorem clean_nil : Clean [] := rfl

@[simp] theorem clean_cons {name : AnyText} {v : Json} {ms : Members} :
    Clean ((name, v) :: ms) ↔ (name ∈ ownNumbers ∨ v.finiteOutside ownNumbers = true) ∧ Clean ms := by
  simp [Clean, membersFiniteOutside]

@[simp] theorem finiteOutside_obj {ms : Members} :
    (Json.obj ms).finiteOutside ownNumbers = true ↔ Clean ms :=
  Iff.rfl

@[simp] theorem finiteOutside_texts (ss : List String) : (texts ss).finiteOutside ownNumbers = true :=
  Json.itemsFiniteOutside_iff.2 <| by simp

@[simp] theorem finiteOutside_wholes (ns : List Int) : (wholes ns).finiteOutside ownNumbers = true :=
  Json.itemsFiniteOutside_iff.2 <| by simp

@[simp] theorem finiteOutside_records [Record α] {rs : List α} :
    (records rs).finiteOutside ownNumbers = true ↔ ∀ r ∈ rs, Clean (Record.members r) :=
  Json.itemsFiniteOutside_iff.trans <| by simp

theorem clean_of_membersFinite {ms : Members} (h : membersFinite ms = true) : Clean ms :=
  Json.membersFiniteOutside_of_membersFinite ms h

theorem finiteOutside_counters {cs : List Members} (h : ∀ ms ∈ cs, membersFinite ms = true) :
    (Json.arr (cs.map .obj)).finiteOutside ownNumbers = true :=
  Json.itemsFiniteOutside_iff.2 <| by simpa using fun ms hms => clean_of_membersFinite (h ms hms)

theorem clean_cpu (c : Cpu) : Clean (Record.members c) := by
  simp [Record.members, mhz_mem_ownNumbers]

theorem clean_cpus (c : Cpus) : Clean (Record.members c) := by
  have hcpus := finiteOutside_records.2 fun cpu (_ : cpu ∈ c.cpus) => clean_cpu cpu
  exact clean_cons.2 ⟨.inr hcpus, clean_nil⟩

theorem clean_partition (p : Partition) : Clean (Record.members p) := by
  cases p <;> simp [Record.members]

theorem clean_partitions (p : Partitions) : Clean (Record.members p) := by
  have hpartitions := finiteOutside_records.2 fun q (_ : q ∈ p.partitions) => clean_partition q
  exact clean_cons.2 ⟨.inr hpartitions, clean_nil⟩

theorem clean_hostInfo (i : HostInfo) : Clean (Record.members i) := by
  simp [Record.members]

theorem clean_memory (m : Memory) : Clean (Record.members m) := by
  simp [Record.members]

theorem clean_resourceLimit (l : ResourceLimit) : Clean (Record.members l) := by
  simp [Record.members]

theorem clean_process {p : ProcessInfo} (hio : Clean p.ioCounters)
    (hnet : ∀ ms ∈ p.netIoCounters, membersFinite ms = true) (hmem : Clean p.memInfo)
    (hmaps : ∀ ms ∈ p.memMaps, membersFinite ms = true) (hpercent : p.memPercent.isFinite = true)
    (hswitches : Clean p.numCtxSwitches) (hfaults : Clean p.pageFaults) (htimes : Clean p.times) :
    Clean (Record.members p) := by
  have hlimits := finiteOutside_records.2 fun l (_ : l ∈ p.rlimit) => clean_resourceLimit l
  simp [Record.members, cpu_percent_mem_ownNumbers, finiteOutside_counters hnet,
    finiteOutside_counters hmaps, *]

theorem clean_success [Record α] {address : String} {payload : α} (h : Clean (Record.members payload)) :
    Clean (Snapshot.success address payload).flatten := by
  simpa [Snapshot.flatten] using h

theorem clean_failure [Record α] (address : String) (error : AnyText) :
    Clean (.failure address error : Snapshot α).flatten := by
  simp [Snapshot.flatten]

theorem clean_flatten [Record α] (h : ∀ payload : α, Clean (Record.members payload)) (s : Snapshot α) :
    Clean s.flatten := by
  cases s with
  | success address payload => exact clean_success (h payload)
  | failure address error => exact clean_failure address error

end Records

section Providers

variable {h : Host} {address : String}

theorem Gives.mapM {f : α → Answer β} {P : β → Prop} {as : List α} (hf : ∀ a ∈ as, Gives (f a) P) :
    Gives (as.mapM f) fun bs => ∀ b ∈ bs, P b := by
  intro bs hbs b hb
  obtain ⟨a, ha, hab⟩ := exists_mem_of_forall₂ (forall₂_of_mapM_eq_ok hbs) hb
  exact hf a ha b hab

theorem gives_settle {told : Collected α → Prop} {x : Answer α}
    (hok : Gives x fun payload => told ⟨.success address payload, []⟩)
    (hfailed : ∀ f, x = .error f → told (failed domain address f)) :
    Gives (settle domain address x) told := by
  intro c hc
  cases x with
  | ok payload =>
    cases hc
    exact hok payload rfl
  | error f =>
    rw [settle] at hc
    split at hc
    · cases hc
      exact hfailed f rfl
    · cases hc

theorem gives_onLinux {told : Collected α → Prop} {x : Answer (Collected α)} (hx : Gives x told)
    (hother : told ⟨.failure address s!"unsupported operating system {h.platform}", []⟩) :
    Gives (onLinux address h x) told := by
  intro c hc
  rw [onLinux] at hc
  split at hc
  · exact hx c hc
  · cases hc
    exact hother

theorem gives_clean_settle [Record α] {x : Answer α}
    (hx : Gives x fun payload => Clean (Record.members payload)) :
    Gives (settle domain address x) fun c => Clean c.snapshot.flatten :=
  gives_settle (fun payload hp => clean_success (hx payload hp)) fun _ _ => clean_failure _ _

theorem isFinite_of_toBinary64 {q : Quantity} (hq : q.toJson.allFinite = true) :
    Gives q.toBinary64 fun x => x.isFinite = true := by
  intro x hx
  cases q with
  | whole n =>
    rw [Quantity.toBinary64] at hx
    split at hx
    · next hfinite =>
      cases hx
      exact hfinite
    · cases hx
  | decimal y =>
    cases hx
    exact hq

theorem gives_temperature {chip : AnyText} {r : SensorReading} (hr : r.IsFinite) :
    Gives (temperature chip r) fun t => Clean (Record.members t) := by
  refine .bind fun x hx => ?_
  rintro t ⟨⟩
  have hcurrent : x.isFinite = true := isFinite_of_toBinary64 hr.current x hx
  have hhigh : (optionalNumber r.high).finiteOutside ownNumbers = true :=
    Json.finiteOutside_of_allFinite _ hr.high
  have hcritical : (optionalNumber r.critical).finiteOutside ownNumbers = true :=
    Json.finiteOutside_of_allFinite _ hr.critical
  simp [Record.members, hcurrent, hhigh, hcritical]

theorem gives_temperatures (hh : FiniteHost h) :
    Gives (temperatures h) fun ts => ∀ t ∈ ts, Clean (Record.members t) := by
  rw [temperatures]
  split
  · rintro ts ⟨⟩
    exact nofun
  · next chips hchips =>
    refine .bind fun readings hreadings => .bind fun ts hts => ?_
    rintro us ⟨⟩ t ht
    obtain ⟨us, hus, ht⟩ := List.mem_flatten.1 ht
    have hfinite := hh.sensors chips hchips readings hreadings
    exact Gives.mapM (fun chip hchip => Gives.mapM fun r hr => gives_temperature (hfinite chip hchip r hr))
      ts hts us hus t ht

theorem gives_os (hh : FiniteHost h) : Gives (os address h) fun c => Clean c.snapshot.flatten := by
  refine gives_onLinux (gives_clean_settle (.bind fun info _ => .bind fun sensors hsensors => ?_))
    (clean_failure _ _)
  rintro o ⟨⟩
  have hrecords := finiteOutside_records.2 (gives_temperatures hh sensors hsensors)
  have hinfo := finiteOutside_obj.2 (clean_hostInfo info)
  exact clean_cons.2 ⟨.inr hinfo, clean_cons.2 ⟨.inr hrecords, clean_nil⟩⟩

theorem gives_netCounters (hh : FiniteHost h) :
    Gives (netCounters h) fun cs => ∀ ms ∈ cs, membersFinite ms = true := by
  refine .bind fun counters hcounters => ?_
  rintro cs ⟨⟩ ms hms
  obtain ⟨⟨name, fields⟩, hmem, rfl⟩ := List.mem_map.1 hms
  have hfields := hh.netCounters counters hcounters _ (List.mem_mergeSort.1 hmem)
  rw [Json.membersFinite_iff] at hfields ⊢
  intro m hm
  obtain rfl | hm := List.mem_cons.1 (Entries.mem_ofList hm)
  · rfl
  · exact hfields m hm

theorem gives_pageFaults (x : Answer (List String)) : Gives (x >>= pageFaults?) Clean := by
  refine .bind fun stat _ => .bind fun minor _ => .bind fun childMinor _ => ?_
  refine .bind fun major _ => .bind fun childMajor _ => ?_
  rintro ms ⟨⟩
  simp [pageFaults]

theorem Reported.clean {p : HostProcess} {info : ProcessInfo} (hr : Reported h p info) (hh : FiniteHost h)
    (hp : FiniteProcess p) : Clean (Record.members info) := by
  obtain ⟨percent, hpercent, hshare⟩ := exists_of_bind_eq_ok hr.memPercent
  obtain ⟨times, htimes, hall⟩ := hr.times
  apply clean_process
  case hio => exact clean_of_membersFinite (hp.ioCounters _ hr.ioCounters)
  case hnet => exact gives_netCounters hh _ hr.netIoCounters
  case hmem => exact clean_of_membersFinite (hp.memoryInfo _ hr.memInfo)
  case hmaps => exact hp.memoryMaps _ hr.memMaps
  case hpercent => exact isFinite_of_toBinary64 (hp.memoryPercent _ hpercent) _ hshare
  case hswitches => exact clean_of_membersFinite (hp.numCtxSwitches _ hr.numCtxSwitches)
  case hfaults => exact gives_pageFaults _ _ hr.pageFaults
  case htimes => exact hall ▸ clean_of_membersFinite (hp.cpuTimes _ htimes)

theorem gives_process (hh : FiniteHost h) : Gives (process address h) fun c => Clean c.snapshot.flatten := by
  refine gives_clean_settle fun info hinfo => ?_
  obtain ⟨p, hp, hinfo⟩ := exists_of_bind_eq_ok (mapError_eq_ok_iff.1 hinfo)
  exact (gives_processInfo h p info hinfo).clean hh (hh.process p hp)

theorem clean_record (hh : FiniteHost h) {p : Part} {r : Members} (hr : p.record address h = .ok r) :
    Clean r := by
  cases p with
  | cpus =>
    obtain ⟨c, -, rfl⟩ := map_eq_ok_iff.1 hr
    exact clean_flatten clean_cpus c.snapshot
  | partitions =>
    obtain ⟨c, -, rfl⟩ := map_eq_ok_iff.1 hr
    exact clean_flatten clean_partitions c.snapshot
  | osinfo =>
    obtain ⟨c, hc, rfl⟩ := map_eq_ok_iff.1 hr
    exact gives_os hh c hc
  | meminfo =>
    obtain ⟨c, -, rfl⟩ := map_eq_ok_iff.1 hr
    exact clean_flatten clean_memory c.snapshot
  | procinfo =>
    obtain ⟨c, hc, rfl⟩ := map_eq_ok_iff.1 hr
    exact gives_process hh c hc

end Providers

def SysSection.collected (s : SysSection) : Json :=
  .obj [("cpus", .arr (s.cpus.map .obj)), ("partitions", .arr (s.partitions.map .obj)),
    ("osinfo", .arr (s.osinfo.map .obj)), ("meminfo", .arr (s.meminfo.map .obj)),
    ("procinfo", .arr (s.procinfo.map .obj))]

theorem SysSection.toJson_eq (s : SysSection) : s.toJson = Report.finite s.collected := rfl

theorem clean_collected {h : Host} {s : SysSection} (hh : FiniteHost h)
    (hs : (sysSection address types h).answer = .ok s) : s.collected.finiteOutside ownNumbers = true := by
  have hrecords (p : Part) : (Json.arr ((p.records s).map .obj)).finiteOutside ownNumbers = true := by
    refine Json.itemsFiniteOutside_iff.2 ?_
    simp only [List.forall_mem_map, finiteOutside_obj]
    intro r hr
    exact clean_record hh ((answer_sysSection_iff.1 hs p).mem_iff.1 hr).2
  rw [SysSection.collected, finiteOutside_obj]
  simp only [clean_cons]
  exact ⟨.inr (hrecords .cpus), .inr (hrecords .partitions), .inr (hrecords .osinfo),
    .inr (hrecords .meminfo), .inr (hrecords .procinfo), clean_nil⟩

end Collect

end ClusterHealth
