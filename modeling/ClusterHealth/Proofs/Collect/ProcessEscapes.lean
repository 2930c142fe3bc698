import ClusterHealth.Proofs.Collect.Escapes

namespace ClusterHealth.Collect

open ClusterHealth.Metric

variable {h : Host} {p : HostProcess} {f : Fault}

section Settled

def isSettled (f : Fault) : Bool := isExpected (asSystemFault f)

theorem isSettled_of_value (hf : f.family = .value) : isSettled f = true := by
  rw [isSettled, asSystemFault, hf]
  rfl

theorem isSettled_of_index (hf : f.family = .index) : isSettled f = true := by
  rw [isSettled, asSystemFault, hf]
  rfl

theorem asSystemFault_of_not_isSettled (hf : isSettled f = false) : asSystemFault f = f := by
  unfold isSettled asSystemFault at hf
  unfold asSystemFault
  split
  · next hvalue =>
    rw [hvalue] at hf
    cases hf
  · next hindex =>
    rw [hindex] at hf
    cases hf
  · rfl

theorem isSettled_of_isExpected (hf : isExpected f = true) : isSettled f = true := by
  cases hnot : isSettled f with
  | true => rfl
  | false =>
    rw [isSettled, asSystemFault_of_not_isSettled hnot, hf] at hnot
    cases hnot

theorem raises_mapError_iff {x : Answer α} :
    Raises isExpected (x.mapError asSystemFault) f ↔ Raises isSettled x f := by
  cases x with
  | ok a => exact iff_of_false (caught_ok a).not_raises (caught_ok a).not_raises
  | error e =>
    constructor
    · rintro ⟨he, hf⟩
      obtain rfl := Except.error.inj he
      rw [asSystemFault_of_not_isSettled hf]
      exact ⟨rfl, hf⟩
    · rintro ⟨he, hf⟩
      obtain rfl := Except.error.inj he
      have hsame := asSystemFault_of_not_isSettled hf
      refine ⟨congrArg Except.error hsame, ?_⟩
      rwa [isSettled, hsame] at hf

theorem Caught.settled {x : Answer α} (hx : Caught isExpected x) : Caught isSettled x :=
  fun f hf => isSettled_of_isExpected (hx f hf)

end Settled

/-- A text that is not what it should be ends the reading of it by a fault that is caught. -/
structure CatchesTexts (caught : Fault → Bool) : Prop where
  undecodable : ∀ e : Text.Utf8Error, caught ⟨.undecodable, e.message⟩ = true
  noParenthesis : caught noParenthesis = true
  noField : caught noField = true
  notANumeral : ∀ s, caught (notANumeral s) = true
  tooManyDigits : ∀ n, caught (.tooManyDigits n) = true
  noTgid : ∀ pid, caught (noTgid pid) = true

namespace CatchesTexts

variable {caught : Fault → Bool}

theorem text (hc : CatchesTexts caught) {file : File} (hoctets : Caught caught file.octets) :
    Caught caught file.text := by
  rw [text_eq]
  apply hoctets.bind
  intro bs _
  split
  · exact caught_ok _
  · exact caught_error (hc.undecodable _)

theorem readStat (hc : CatchesTexts caught) {pid : Int}
    (hoctets : Caught caught (h.file (statPath pid)).octets) : Caught caught (readStat h pid) := by
  apply (hc.text hoctets).bind
  intro text _
  cases statFields? text with
  | none => exact caught_error hc.noParenthesis
  | some fields => exact caught_ok fields

theorem statField (hc : CatchesTexts caught) (fields : List String) (i : Nat) :
    Caught caught (statField fields i) := by
  unfold Collect.statField
  split
  · exact caught_ok _
  · exact caught_error hc.noField

theorem intOfText (hc : CatchesTexts caught) (s : String) : Caught caught (intOfText s) := by
  unfold Collect.intOfText
  split
  · exact caught_ok _
  · exact caught_error (hc.notANumeral s)
  · exact caught_error (hc.tooManyDigits _)

theorem statInt (hc : CatchesTexts caught) (fields : List String) (i : Nat) :
    Caught caught (statInt fields i) := by
  apply (hc.statField fields i).bind
  intro s _
  exact hc.intOfText s

theorem tgid (hc : CatchesTexts caught) {pid : Int}
    (hoctets : Caught caught (h.file (statusPath pid)).octets) : Caught caught (tgid h pid) := by
  apply (hc.text hoctets).bind
  intro text _
  induction Text.lines text with
  | nil => exact caught_error (hc.noTgid pid)
  | cons line ls ih =>
    rw [tgidOf]
    split
    · exact hc.intOfText _
    · exact ih

end CatchesTexts

section Stat

theorem catchesTexts_isSettled : CatchesTexts isSettled where
  undecodable _ := isSettled_of_value rfl
  noParenthesis := isSettled_of_value rfl
  noField := isSettled_of_index rfl
  notANumeral _ := isSettled_of_value rfl
  tooManyDigits _ := isSettled_of_value rfl
  noTgid _ := isSettled_of_isExpected rfl

theorem caught_octets {file : File} (hd : file.Documented) : Caught isSettled file.octets :=
  fun f hf => isSettled_of_isExpected (isExpected_of_system (hd.octets f hf))

theorem caught_readStat (hd : h.Documented) (pid : Int) : Caught isSettled (readStat h pid) :=
  catchesTexts_isSettled.readStat (caught_octets (hd.file _))

theorem caught_statField (fields : List String) (i : Nat) : Caught isSettled (statField fields i) :=
  catchesTexts_isSettled.statField fields i

theorem caught_statInt (fields : List String) (i : Nat) : Caught isSettled (statInt fields i) :=
  catchesTexts_isSettled.statInt fields i

theorem caught_tgid (hd : h.Documented) (pid : Int) : Caught isSettled (tgid h pid) :=
  catchesTexts_isSettled.tgid (caught_octets (hd.file _))

end Stat

section Providers

theorem Caught.orElse {caught : Fault → Bool} {x : Answer α} (hx : Caught caught x) (default : α) :
    Caught caught (orElse default x) := by
  cases x with
  | ok a => exact caught_ok a
  | error e =>
    rw [Collect.orElse]
    split
    · exact caught_ok default
    · exact hx

theorem caught_cpuPercent (hd : h.Documented) (hp : p.Documented) :
    Caught isExpected (cpuPercent h p) := by
  obtain ⟨now, hnow, -⟩ := hd.time
  apply hp.cpuTimes.faults.bind
  intro times htimes
  obtain ⟨huser, hsystem⟩ := hp.cpuTimes.typed times htimes
  apply hp.createTime.faults.bind
  intro createTime hcreateTime
  obtain ⟨elapsed, helapsed, hdecimal⟩ :=
    sub_of_isDecimal ⟨now, hnow⟩ (hp.createTime.typed createTime hcreateTime)
  apply (caught_of_eq_ok ⟨elapsed, helapsed⟩).bind
  intro e he
  obtain rfl : elapsed = e := Except.ok.inj (helapsed.symm.trans he)
  split
  · exact caught_ok 0
  · apply huser.faults.bind
    intro user husertime
    apply hsystem.faults.bind
    intro system hsystemtime
    obtain ⟨busy, hbusy, hbusyDecimal⟩ :=
      add_of_isDecimal (huser.typed user husertime) (hsystem.typed system hsystemtime)
    apply (caught_of_eq_ok ⟨busy, hbusy⟩).bind
    intro b hb
    obtain rfl : busy = b := Except.ok.inj (hbusy.symm.trans hb)
    apply (caught_of_eq_ok (toBinary64_of_isDecimal hbusyDecimal)).bind
    intro x _
    apply (caught_of_eq_ok (toBinary64_of_isDecimal hdecimal)).bind
    intro y _
    exact caught_ok _

theorem caught_resourceLimits (hp : p.Documented) : Caught isExpected (resourceLimits h p) := by
  apply Caught.mapM
  intro name _
  apply (hp.limit name).faults.bind
  intro limits hlimits
  obtain ⟨hsoft, hhard⟩ := (hp.limit name).typed limits hlimits
  apply (caught_of_eq_ok (toInt_of_isWhole hsoft)).bind
  intro soft _
  apply (caught_of_eq_ok (toInt_of_isWhole hhard)).bind
  intro hard _
  exact caught_ok _

theorem caught_netCounters (hd : h.Documented) : Caught isExpected (netCounters h) := by
  apply hd.netCounters.faults.bind
  intro counters _
  exact caught_ok _

end Providers

section Creation

inductive ProcessEscape (h : Host) : Fault → Prop
  | createTime {p : HostProcess} {fields : List String} {q ms : Quantity} (process : h.process = .ok p)
      (stat : readStat h p.pid = .ok fields) (children : ∃ pids, orElse [] p.children = .ok pids)
      (ppid : ∃ pid, orElse 0 p.ppid = .ok pid) (group : ∃ s, statField fields 2 = .ok s)
      (foreground : ∃ s, statField fields 5 = .ok s) (cpuPercent : ∃ x, cpuPercent h p = .ok x)
      (cmdline : ∃ ws, p.cmdline = .ok ws) (netConnections : ∃ n, p.netConnections = .ok n)
      (createTime : p.createTime = .ok q) (scaled : Quantity.mul q (.whole 1000) = .ok ms)
      (infinite : ms.toInt = .error Quantity.infiniteFault) : ProcessEscape h Quantity.infiniteFault

theorem eq_infiniteFault_of_toInt {q : Quantity} (hf : q.toInt = .error f)
    (hnot : isSettled f = false) : f = Quantity.infiniteFault := by
  unfold Quantity.toInt at hf
  split at hf
  · cases hf
  · split at hf
    · cases hf
    · split at hf
      · obtain rfl := Except.error.inj hf
        rw [isSettled_of_value rfl] at hnot
        cases hnot
      · exact (Except.error.inj hf).symm

theorem exists_mul_thousand {q : Quantity} (hq : q.IsDecimal) :
    ∃ ms, Quantity.mul q (.whole 1000) = .ok ms := by
  obtain ⟨x, rfl⟩ := hq
  exact ⟨_, rfl⟩

theorem processEscape_of_raises (hd : h.Documented) (hprocess : h.process = .ok p)
    (hraises : Raises isSettled (processInfo h p) f) : ProcessEscape h f := by
  have hp : p.Documented := hd.process.typed p hprocess
  obtain ⟨stat, hstat, hraises⟩ := (caught_readStat hd p.pid).raises_bind_iff.1 hraises
  obtain ⟨pids, hpids, hraises⟩ := (hp.children.faults.settled.orElse []).raises_bind_iff.1 hraises
  obtain ⟨ppid, hppid, hraises⟩ := (hp.ppid.faults.settled.orElse 0).raises_bind_iff.1 hraises
  obtain ⟨s, hs, hraises⟩ := (caught_statField stat 2).raises_bind_iff.1 hraises
  obtain ⟨t, ht, hraises⟩ := (caught_statField stat 5).raises_bind_iff.1 hraises
  obtain ⟨x, hx, hraises⟩ := (caught_cpuPercent hd hp).settled.raises_bind_iff.1 hraises
  obtain ⟨ws, hws, hraises⟩ := hp.cmdline.faults.settled.raises_bind_iff.1 hraises
  obtain ⟨n, hn, hraises⟩ := hp.netConnections.faults.settled.raises_bind_iff.1 hraises
  obtain ⟨q, hq, hraises⟩ := hp.createTime.faults.settled.raises_bind_iff.1 hraises
  have hmul := exists_mul_thousand (hp.createTime.typed q hq)
  obtain ⟨ms, hms, hraises⟩ := (caught_of_eq_ok hmul).raises_bind_iff.1 hraises
  obtain ⟨hinfinite, hnot⟩ | ⟨created, -, hraises⟩ := raises_bind_iff.1 hraises
  · obtain rfl := eq_infiniteFault_of_toInt hinfinite hnot
    exact .createTime hprocess hstat ⟨pids, hpids⟩ ⟨ppid, hppid⟩ ⟨s, hs⟩ ⟨t, ht⟩ ⟨x, hx⟩ ⟨ws, hws⟩
      ⟨n, hn⟩ hq hms hinfinite
  · -- Everything that is asked afterwards is given or refused by a fault that is caught.
    have hpercent : ∀ q, p.memoryPercent = .ok q → Caught isSettled q.toBinary64 := fun q hq =>
      caught_of_eq_ok (toBinary64_of_isDecimal (hp.memoryPercent.typed q hq))
    have hdone (info : ProcessInfo) : Caught isSettled (pure info : Answer ProcessInfo) :=
      caught_ok info
    have hnice : ∀ q, p.nice = .ok q → Caught isSettled q.toInt := fun q hq =>
      caught_of_eq_ok (toInt_of_isWhole (hp.nice.typed q hq))
    refine absurd hraises (Caught.not_raises ?_)
    simp +contextual only [caught_bind_iff, hp.cwd.faults.settled, hp.exe.faults.settled,
      hp.gids.faults.settled, hp.ioCounters.faults.settled, (caught_netCounters hd).settled,
      hp.isRunning.faults.settled, hp.memoryInfo.faults.settled, hp.memoryMaps.faults.settled,
      hp.memoryPercent.faults.settled, hpercent, hp.name.faults.settled, hp.nice.faults.settled, hnice,
      hp.numCtxSwitches.faults.settled, hp.numFds.faults.settled, hp.numThreads.faults.settled,
      caught_statInt, hp.status.faults.settled, caught_tgid hd, hp.cpuTimes.faults.settled,
      hp.uids.faults.settled, hp.username.faults.settled, (caught_resourceLimits hp).settled, hdone,
      true_and, implies_true]

theorem raises_of_processEscape (hescape : ProcessEscape h f) :
    Raises isSettled (h.process >>= processInfo h) f := by
  cases hescape with
  | createTime hprocess hstat hpids hppid hs ht hx hws hn hq hms hinfinite =>
    obtain ⟨pids, hpids⟩ := hpids
    obtain ⟨ppid, hppid⟩ := hppid
    obtain ⟨s, hs⟩ := hs
    obtain ⟨t, ht⟩ := ht
    obtain ⟨x, hx⟩ := hx
    obtain ⟨ws, hws⟩ := hws
    obtain ⟨n, hn⟩ := hn
    refine ⟨?_, rfl⟩
    rw [hprocess, ok_bind, processInfo, hstat, ok_bind, hpids, ok_bind, hppid, ok_bind, hs, ok_bind, ht,
      ok_bind, hx, ok_bind, hws, ok_bind, hn, ok_bind, hq, ok_bind, hms, ok_bind, hinfinite]
    rfl

theorem settles_process (hd : h.Documented) (address : String) :
    Settles address (ProcessEscape h) (process address h) := by
  apply settles_settle
  intro f
  rw [raises_mapError_iff]
  constructor
  · intro hraises
    obtain ⟨p, hp, hraises⟩ := hd.process.faults.settled.raises_bind_iff.1 hraises
    exact processEscape_of_raises hd hp hraises
  · exact raises_of_processEscape

end Creation

structure CollectionsSettle (address : String) (h : Host) : Prop where
  cpus : Settles address (Garbled (h.file "/proc/cpuinfo")) (cpus address h)
  partitions : Settles address (fun _ => False) (partitions address h)
  os : Settles address (fun f => h.isLinux = true ∧ OsEscape h f) (os address h)
  memory : Settles address (fun _ => False) (memory address h)
  process : Settles address (ProcessEscape h) (process address h)

theorem collections_settle (hd : h.Documented) (address : String) : CollectionsSettle address h where
  cpus := settles_cpus hd address
  partitions := settles_partitions hd address
  os := settles_os hd address
  memory := settles_memory hd address
  process := settles_process hd address

def garbledHost : Host :=
  .ofFiles (.ok "node-1") ⟨"Linux", "6.1.0", "x86_64"⟩ (.decimal 0)
    [("/proc/cpuinfo", .ofOctets [0xff])]

theorem documented_garbledHost : garbledHost.Documented := by
  apply Host.documented_ofFiles
  · decide +kernel
  · intro m hm
    obtain rfl := List.mem_singleton.1 hm
    exact ⟨nofun, nofun⟩

theorem collections_settle_garbledHost :
    garbledHost.Documented ∧ CollectionsSettle "node-1" garbledHost :=
  ⟨documented_garbledHost, collections_settle documented_garbledHost "node-1"⟩

theorem cpus_raise_of_garbledHost :
    garbledHost.Documented ∧ cpus "node-1" garbledHost = .error ⟨.undecodable,
      "'utf-8' codec can't decode byte 0xff in position 0: invalid start byte"⟩ :=
  ⟨documented_garbledHost, rfl⟩

end ClusterHealth.Collect
