import ClusterHealth.Collect.Section
import ClusterHealth.Proofs.Collect.Documented

namespace ClusterHealth.Collect

open ClusterHealth.Metric

variable {h : Host} {address : String} {f : Fault}

section Cpus

theorem caught_modelName (hd : h.Documented) : Caught isExpected (modelName h) := by
  apply hd.processor.faults.bind
  intro processor _
  split
  · exact hd.machine.faults
  · exact caught_ok processor

theorem caught_fallbackCpu (hd : h.Documented) : Caught isExpected (fallbackCpu h) := by
  apply hd.cpuFrequency.faults.bind
  intro frequency hfrequency
  apply (caught_modelName hd).bind
  intro modelName _
  have hmhz : Caught isExpected (megahertz frequency) := by
    cases frequency with
    | none => exact caught_ok 0
    | some q =>
      exact caught_of_eq_ok (toBinary64_of_isDecimal (hd.cpuFrequency.typed _ hfrequency q rfl))
  apply hmhz.bind
  intro mhz _
  apply hd.cpuCount.faults.bind
  intro count _
  exact caught_ok _

theorem raises_processors_iff (hd : h.Documented) :
    Raises isExpected (processors h) f ↔ Garbled (h.file "/proc/cpuinfo") f :=
  raises_of_present_iff (hd.file "/proc/cpuinfo")

theorem settles_cpus (hd : h.Documented) (address : String) :
    Settles address (Garbled (h.file "/proc/cpuinfo")) (cpus address h) := by
  apply settles_settle
  intro f
  rw [raises_bind_iff, raises_processors_iff hd]
  apply or_iff_left
  rintro ⟨ps, -, hraises⟩
  refine Caught.not_raises ?_ hraises
  cases ps with
  | nil =>
    apply (caught_fallbackCpu hd).bind
    intro c _
    exact caught_ok _
  | cons p ps => exact caught_ok _

end Cpus

section Partitions

theorem caught_inodeUsage (hd : h.Documented) (mountpoint : AnyText) :
    Caught isExpected (inodeUsage h mountpoint) := by
  apply (hd.inodes mountpoint).faults.bind
  intro c hc
  obtain ⟨htotal, hfree⟩ := (hd.inodes mountpoint).typed c hc
  apply (caught_of_eq_ok (toInt_of_isWhole htotal)).bind
  intro total _
  apply (caught_of_eq_ok (toInt_of_isWhole hfree)).bind
  intro free _
  exact caught_ok _

theorem caught_partitionUsage (hd : h.Documented) (m : Mount) :
    Caught isExpected (partitionUsage h m) := by
  apply (hd.diskUsage m.mountpoint).faults.bind
  intro usage _
  apply (caught_inodeUsage hd m.mountpoint).bind
  intro inodes _
  exact caught_ok _

theorem exists_partitionEntry (hd : h.Documented) (m : Mount) :
    ∃ e, partitionEntry h m = .ok e := by
  unfold partitionEntry
  split
  · next f hf => exact ⟨_, if_pos (caught_partitionUsage hd m f hf)⟩
  · next usage total free husage =>
    obtain ⟨c, hc, hinodes⟩ := exists_of_bind_eq_ok husage
    obtain ⟨i, -, hpair⟩ := exists_of_bind_eq_ok hinodes
    obtain rfl : c = usage := congrArg Prod.fst (Except.ok.inj hpair)
    obtain ⟨htotal, hfree⟩ := (hd.diskUsage m.mountpoint).typed c hc
    obtain ⟨t, ht⟩ := toInt_of_isWhole htotal
    obtain ⟨n, hn⟩ := toInt_of_isWhole hfree
    rw [ht, hn]
    exact ⟨_, rfl⟩

theorem settles_partitions (hd : h.Documented) (address : String) :
    Settles address (fun _ => False) (partitions address h) := by
  have hlinux : Settles address (fun _ => h.isLinux = true ∧ False) (partitions address h) := by
    apply settles_onLinux
    cases hmounts : h.mounts with
    | error f => exact settles_of_eq_ok (if_pos (hd.mounts.faults f hmounts)) rfl
    | ok mounts =>
      obtain ⟨es, hes⟩ : ∃ es, mounts.mapM (partitionEntry h) = .ok es :=
        exists_mapM_eq_ok fun m _ => exists_partitionEntry hd m
      dsimp only
      rw [hes]
      exact settles_of_eq_ok rfl rfl
  simpa only [and_false] using hlinux

end Partitions

section Memory

theorem settles_memory (hd : h.Documented) (address : String) :
    Settles address (fun _ => False) (memory address h) := by
  have hproviders : Caught isExpected (memoryProviders h) := by
    apply hd.ram.faults.bind
    intro ram _
    apply hd.swap.faults.bind
    intro swap _
    exact caught_ok (ram, swap)
  unfold memory
  split
  · next f hf => exact settles_of_eq_ok (if_pos (hproviders f hf)) rfl
  · next ram swap hok =>
    obtain ⟨r, hram, hrest⟩ := exists_of_bind_eq_ok hok
    obtain ⟨w, hswap, hpair⟩ := exists_of_bind_eq_ok hrest
    obtain ⟨rfl, rfl⟩ := Prod.mk.inj (Except.ok.inj hpair)
    obtain ⟨htotal, havailable⟩ := hd.ram.typed r hram
    obtain ⟨hswapTotal, hswapFree⟩ := hd.swap.typed w hswap
    obtain ⟨a, ha⟩ := toInt_of_isWhole htotal
    obtain ⟨b, hb⟩ := toInt_of_isWhole havailable
    obtain ⟨c, hc⟩ := toInt_of_isWhole hswapTotal
    obtain ⟨d, hd⟩ := toInt_of_isWhole hswapFree
    rw [ha, hb, hc, hd]
    exact settles_of_eq_ok rfl rfl

end Memory

section Os

def FirstGarbled (h : Host) (paths : List String) (f : Fault) : Prop :=
  ∃ before path after, paths = before ++ path :: after ∧
    (∀ p ∈ before, (h.file p).present = .ok false) ∧ Garbled (h.file path) f

theorem raises_hostIdFrom_iff (hd : h.Documented) (paths : List String) :
    Raises isExpected (hostIdFrom h paths) f ↔ FirstGarbled h paths f := by
  induction paths with
  | nil =>
    constructor
    · intro hraises
      exact absurd hraises (caught_ok "").not_raises
    · rintro ⟨before, path, after, hnil, -⟩
      cases before <;> cases hnil
  | cons path paths ih =>
    apply (raises_if_present_iff (hd.file path)).trans
    rw [ih]
    constructor
    · rintro (hgarbled | ⟨habsent, before, p, after, rfl, hbefore, hgarbled⟩)
      · exact ⟨[], path, paths, rfl, nofun, hgarbled⟩
      · exact ⟨path :: before, p, after, rfl, List.forall_mem_cons.2 ⟨habsent, hbefore⟩, hgarbled⟩
    · rintro ⟨before, p, after, heq, hbefore, hgarbled⟩
      cases before with
      | nil =>
        obtain ⟨rfl, rfl⟩ := List.cons.inj heq
        exact .inl hgarbled
      | cons b before =>
        obtain ⟨rfl, rfl⟩ := List.cons.inj heq
        obtain ⟨habsent, hbefore⟩ := List.forall_mem_cons.1 hbefore
        exact .inr ⟨habsent, before, p, after, rfl, hbefore, hgarbled⟩

/-- What comes out of the collection of the operating system: the first of the release file, the boot
time and the file with the identity of the host that is not as it should be. -/
inductive OsEscape (h : Host) (f : Fault) : Prop
  | release (uname : ∃ u, h.uname = .ok u) (garbled : Garbled (h.file "/etc/os-release") f)
  | bootTime {q : Quantity} (uname : ∃ u, h.uname = .ok u) (release : ∃ r, release h = .ok r)
      (bootTime : h.bootTime = .ok q) (endless : q.toInt = .error f)
  | hostId {q : Quantity} {n : Int} (uname : ∃ u, h.uname = .ok u) (release : ∃ r, release h = .ok r)
      (bootTime : h.bootTime = .ok q) (finite : q.toInt = .ok n) (hostname : ∃ s, h.hostname = .ok s)
      (pids : ∃ k, h.pids = .ok k)
      (garbled : FirstGarbled h ["/etc/machine-id", "/var/lib/dbus/machine-id"] f)

theorem raises_release_iff (hd : h.Documented) :
    Raises isExpected (release h) f ↔ Garbled (h.file "/etc/os-release") f :=
  raises_of_present_iff (hd.file "/etc/os-release")

theorem raises_toInt_iff {q : Quantity} : Raises isExpected q.toInt f ↔ q.toInt = .error f :=
  ⟨And.left, fun hf => ⟨hf, isExpected_of_toInt hf⟩⟩

theorem exists_toInt_of_isFinite {x : Binary64} (hx : x.isFinite = true) :
    ∃ n, (Quantity.decimal x).toInt = .ok n := by
  cases x with
  | nan => cases hx
  | signed s r =>
    simp only [Binary64.isFinite, decide_eq_true_eq] at hx
    simp [Quantity.toInt, Binary64.truncate?, Binary64.toRatio?, hx]

theorem raises_hostInfo_iff (hd : h.Documented) :
    Raises isExpected (hostInfo h) f ↔ OsEscape h f := by
  obtain ⟨x, htime, hx⟩ := hd.time
  obtain ⟨now, hnow⟩ : ∃ n, h.time.toInt = .ok n := htime ▸ exists_toInt_of_isFinite hx
  have hcaught : Caught isExpected h.time.toInt := caught_of_eq_ok ⟨now, hnow⟩
  have hhostId : Raises isExpected (hostId h) f ↔
      FirstGarbled h ["/etc/machine-id", "/var/lib/dbus/machine-id"] f :=
    raises_hostIdFrom_iff hd _
  have hdone (info : HostInfo) : ¬ Raises isExpected (pure info : Answer HostInfo) f :=
    (caught_ok info).not_raises
  simp only [hostInfo, hd.uname.faults.raises_bind_iff, hd.bootTime.faults.raises_bind_iff,
    hd.hostname.faults.raises_bind_iff, hcaught.raises_bind_iff, hd.pids.faults.raises_bind_iff,
    raises_bind_iff, raises_release_iff hd, raises_toInt_iff, hhostId, hdone, and_false, exists_false,
    or_false]
  constructor
  · rintro ⟨u, hu, hgarbled | ⟨r, hr, q, hq, hendless | ⟨n, hn, s, hs, -, -, k, hk, hgarbled⟩⟩⟩
    · exact .release ⟨u, hu⟩ hgarbled
    · exact .bootTime ⟨u, hu⟩ ⟨r, hr⟩ hq hendless
    · exact .hostId ⟨u, hu⟩ ⟨r, hr⟩ hq hn ⟨s, hs⟩ ⟨k, hk⟩ hgarbled
  · intro hescape
    cases hescape with
    | release huname hgarbled =>
      obtain ⟨u, hu⟩ := huname
      exact ⟨u, hu, .inl hgarbled⟩
    | bootTime huname hrelease hq hendless =>
      obtain ⟨u, hu⟩ := huname
      obtain ⟨r, hr⟩ := hrelease
      exact ⟨u, hu, .inr ⟨r, hr, _, hq, .inl hendless⟩⟩
    | hostId huname hrelease hq hn hhostname hpids hgarbled =>
      obtain ⟨u, hu⟩ := huname
      obtain ⟨r, hr⟩ := hrelease
      obtain ⟨s, hs⟩ := hhostname
      obtain ⟨k, hk⟩ := hpids
      exact ⟨u, hu, .inr ⟨r, hr, _, hq, .inr ⟨_, hn, s, hs, now, hnow, k, hk, hgarbled⟩⟩⟩

theorem caught_temperatures (hd : h.Documented) : Caught isExpected (temperatures h) := by
  unfold temperatures
  split
  · exact caught_ok []
  · next chips hchips =>
    obtain ⟨htyped, hfaults⟩ := hd.sensors chips hchips
    apply hfaults.bind
    intro cs hcs
    apply Caught.bind
    · apply Caught.mapM
      rintro ⟨chip, rs⟩ hc
      apply Caught.mapM
      intro r hr
      apply (caught_of_eq_ok (toBinary64_of_isDecimal (htyped cs hcs (chip, rs) hc r hr))).bind
      intro x _
      exact caught_ok _
    · intro readings _
      exact caught_ok readings.flatten

theorem settles_os (hd : h.Documented) (address : String) :
    Settles address (fun f => h.isLinux = true ∧ OsEscape h f) (os address h) := by
  apply settles_onLinux
  apply settles_settle
  intro f
  rw [raises_bind_iff, raises_hostInfo_iff hd]
  apply or_iff_left
  rintro ⟨info, -, hraises⟩
  refine Caught.not_raises ?_ hraises
  apply (caught_temperatures hd).bind
  intro sensors _
  exact caught_ok _

end Os

end ClusterHealth.Collect
