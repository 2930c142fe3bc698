import ClusterHealth.Proofs.Collect.Assembly
import ClusterHealth.Proofs.Collect.MountEntries

namespace ClusterHealth.Collect

open ClusterHealth.Metric

variable {address : String} {h : Host} {m : Mount} {e : Metric.Partition} {mounts : List Mount}
  {es : List Metric.Partition} {c : Collected Partitions} {ps : Partitions} {f : Fault}

section Entries

inductive FailsAt (h : Host) (m : Mount) (f : Fault) : Prop
  | usage : h.diskUsage m.mountpoint = .error f → FailsAt h m f
  | inodes {space : Capacity} : h.diskUsage m.mountpoint = .ok space → h.inodes m.mountpoint = .error f →
      FailsAt h m f

def IsSilent : Metric.Partition → Prop
  | .usage _ => False
  | .failure p => p.error = ""

theorem failsAt_of_partitionUsage (hf : partitionUsage h m = .error f) (hexpected : isExpected f = true) :
    FailsAt h m f := by
  -- what is no count is refused by faults that no provider has
  have hcount (q : Quantity) : q.toInt ≠ .error f := by
    intro hq
    rw [isExpected_of_toInt hq] at hexpected
    cases hexpected
  obtain hspace | ⟨space, hspace, hf⟩ := bind_eq_error_iff.1 hf
  · exact .usage hspace
  obtain hinodes | ⟨inodes, -, hf⟩ := bind_eq_error_iff.1 hf
  · obtain hfiles | ⟨files, -, hf⟩ := bind_eq_error_iff.1 hinodes
    · exact .inodes hspace hfiles
    obtain htotal | ⟨total, -, hf⟩ := bind_eq_error_iff.1 hf
    · exact absurd htotal (hcount _)
    obtain hfree | ⟨free, -, hf⟩ := bind_eq_error_iff.1 hf
    · exact absurd hfree (hcount _)
    · cases hf
  · cases hf

theorem enters_of_partitionEntry (he : partitionEntry h m = .ok e) : Enters h m e := by
  rw [partitionEntry] at he
  split at he
  · next f hf =>
    split at he
    · next hexpected =>
      obtain rfl := Except.ok.inj he
      cases failsAt_of_partitionUsage hf hexpected with
      | usage hspace => exact .noUsage hspace
      | inodes hspace hfiles => exact .noInodes hspace hfiles
    · cases he
  · next space inodeTotal inodeFree hok =>
    obtain ⟨space', hspace, hok⟩ := exists_of_bind_eq_ok hok
    obtain ⟨counts, hinodes, hpair⟩ := exists_of_bind_eq_ok hok
    obtain ⟨rfl, rfl⟩ := Prod.mk.inj (Except.ok.inj hpair)
    obtain ⟨files, hfiles, hinodes⟩ := exists_of_bind_eq_ok hinodes
    obtain ⟨_, hinodeTotal, hinodes⟩ := exists_of_bind_eq_ok hinodes
    obtain ⟨_, hinodeFree, hinodes⟩ := exists_of_bind_eq_ok hinodes
    obtain ⟨rfl, rfl⟩ := Prod.mk.inj (Except.ok.inj hinodes)
    obtain ⟨_, htotal, he⟩ := exists_of_bind_eq_ok he
    obtain ⟨_, hfree, he⟩ := exists_of_bind_eq_ok he
    obtain rfl := Except.ok.inj he
    exact .usage hspace hfiles ⟨htotal, hfree⟩ ⟨hinodeTotal, hinodeFree⟩

theorem Enters.isSilent_iff (he : Enters h m e) : IsSilent e ↔ ∃ f, FailsAt h m f ∧ f.text = "" := by
  cases he with
  | @noUsage f hf =>
    constructor
    · exact fun hsilent => ⟨f, .usage hf, hsilent⟩
    · rintro ⟨f', hf', htext⟩
      cases hf' with
      | usage hf' => exact Except.error.inj (hf.symm.trans hf') ▸ htext
      | inodes hspace => cases hf.symm.trans hspace
  | @noInodes space f hspace hf =>
    constructor
    · exact fun hsilent => ⟨f, .inodes hspace hf, hsilent⟩
    · rintro ⟨f', hf', htext⟩
      cases hf' with
      | usage hf' => cases hspace.symm.trans hf'
      | inodes _ hf' => exact Except.error.inj (hf.symm.trans hf') ▸ htext
  | usage hspace hfiles =>
    refine iff_of_false id ?_
    rintro ⟨f, hf, -⟩
    cases hf with
    | usage hf => cases hspace.symm.trans hf
    | inodes _ hf => cases hfiles.symm.trans hf

theorem exists_mounts (hc : partitions address h = .ok c) (hps : c.snapshot = .success address ps) :
    ∃ mounts, h.mounts = .ok mounts ∧ List.Forall₂ (Enters h) mounts ps.partitions := by
  rw [partitions, onLinux] at hc
  split at hc
  · split at hc
    · next f _ =>
      rw [settle] at hc
      split at hc
      · cases hc
        cases hps
      · cases hc
    · next mounts hmounts =>
      obtain ⟨es, hes, hc⟩ := exists_of_bind_eq_ok hc
      cases hc
      cases hps
      exact ⟨mounts, hmounts, (forall₂_of_mapM_eq_ok hes).imp fun _ _ => enters_of_partitionEntry⟩
  · cases hc
    cases hps

theorem exists_isSilent_iff (hes : List.Forall₂ (Enters h) mounts es) :
    (∃ e ∈ es, IsSilent e) ↔ ∃ m ∈ mounts, ∃ f, FailsAt h m f ∧ f.text = "" := by
  induction hes with
  | nil => simp
  | cons he _ ih => simp only [List.exists_mem_cons_iff, ih, he.isSilent_iff]

end Entries

structure FailuresExplained (address : String) (h : Host) : Prop where
  cpus : ∀ c, Collect.cpus address h = .ok c → Explained address c.snapshot
  partitions : ∀ c, Collect.partitions address h = .ok c → Explained address c.snapshot
  os : ∀ c, Collect.os address h = .ok c → Explained address c.snapshot
  memory : ∀ c, Collect.memory address h = .ok c → Explained address c.snapshot
  process : ∀ c, Collect.process address h = .ok c → Explained address c.snapshot
  entries : ∀ c ps, Collect.partitions address h = .ok c → c.snapshot = .success address ps →
    ∃ mounts, h.mounts = .ok mounts ∧ List.Forall₂ (Enters h) mounts ps.partitions ∧
      ((∃ e ∈ ps.partitions, IsSilent e) ↔ ∃ m ∈ mounts, ∃ f, FailsAt h m f ∧ f.text = "")

theorem failures_explained (address : String) (h : Host) : FailuresExplained address h where
  cpus _ := explained_cpus
  partitions _ := explained_partitions
  os _ := explained_os
  memory _ := explained_memory
  process _ := explained_process
  entries c ps hc hps := by
    obtain ⟨mounts, hmounts, hentries⟩ := exists_mounts hc hps
    exact ⟨mounts, hmounts, hentries, exists_isSilent_iff hentries⟩

theorem partitions_silent : ∃ c ps,
    partitions "node-1" (threeMounts (.error (.raised .system []))) = .ok c ∧
      c.snapshot = .success "node-1" ps ∧ ∃ e ∈ ps.partitions, IsSilent e :=
  ⟨_, _, rfl, rfl, _, List.mem_cons_self, rfl⟩

end ClusterHealth.Collect
